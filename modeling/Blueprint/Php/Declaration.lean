/-
Module: Blueprint.Php.Declaration
Purpose: Declarations of classifiers. Each form of declaration has its header and its own selection of
  members; nested classifiers are declared inside the one that owns them, in a form that follows
  from their kind. The unit of a classifier is its declaration below a header of imports.
Main exports: Form, ClassMethod, Rendering.classMethods, Rendering.declareAs, Rendering.declare,
  unitOf?, fileName?
-/
import Blueprint.Php.Import
import Blueprint.Php.Method
import Blueprint.Php.Unit
import Blueprint.Php.Variable

namespace Blueprint.Php

/-- The forms of declarations. -/
inductive Form where
  | classForm
  | interfaceForm
  | annotationForm
  | enumForm
deriving DecidableEq, Repr

/-- The form in which a kind of classifier is declared. -/
def Form.ofKind : ClassifierKind → Form
  | .classType => classForm
  | .interface => interfaceForm
  | .annotationType => annotationForm
  | .enumeration => enumForm

/-- A classifier to be declared: its identity, its element, and the data it is declared from. -/
structure Subject where
  id : ElementId
  element : Element
  classifier : Classifier

/-- The element as a subject, if it is a classifier. -/
def Subject.find? (model : Model) (id : ElementId) : Option Subject :=
  (model.element? id).bind fun element =>
    element.content.classifier?.map fun classifier => ⟨id, element, classifier⟩

/-- The word for the modifiers of a classifier. -/
def classWords (classifier : Classifier) : List String :=
  (if classifier.isStatic then ["static"] else []) ++
    (if classifier.isAbstract then ["abstract"] else []) ++
    (if classifier.isLeaf then ["final"] else [])

/-- A method that a class declares: the constructor that it gets when it needs one, a factory, or the
    method of any other operation. -/
inductive ClassMethod where
  | defaultConstructor
  | factory (operation : Operation)
  | ordinary (operation : Operation)
deriving DecidableEq, Repr

/-- The name of a method; empty for an operation without a name, which is left out. -/
def ClassMethod.name : ClassMethod → String
  | defaultConstructor => "__construct"
  | factory operation | ordinary operation => operation.name

/-- The fragment with a blank line after it. -/
def spaced (fragment : Fragment) : Fragment :=
  fragment ++ .blank

namespace Rendering

/-! ### Parts of declarations -/

/-- The doc text of an element, with the author of the model. -/
def docWithAuthor (rendering : Rendering) (documentation : String) : String :=
  match rendering.model.author?.filter (!·.isEmpty) with
  | some author => Text.trim documentation ++ "\n@author " ++ author
  | none => Text.trim documentation

/-- The clause by which a class uses traits. Mappings of the dependencies go into one block. -/
def traitUses (rendering : Rendering) (subject : Subject) : Fragment :=
  let traits := traitsOf rendering.model subject.id
  if traits.isEmpty then .empty
  else
    let names := ", ".intercalate (traits.map fun use => rendering.model.nameOf use.target)
    let mappings := (traits.filterMap TraitUse.mapping?).map fun mapping =>
      String.ofList ((Text.trim mapping).toList.reverse.dropWhile (· == ';')).reverse
    let mappings := mappings.filter (!·.isEmpty)
    if mappings.isEmpty then .ofText ("use " ++ names ++ ";")
    else
      .ofText ("use " ++ names ++ " \x7b") ++
        Fragment.deeper (.concat (mappings.map fun mapping => .ofText (mapping ++ ";"))) ++
        .ofText "\x7d"

/-- The ends of associations that a classifier declares as members: those that it can reach and that
    have a name which none of its attributes has. -/
def memberEnds (rendering : Rendering) (subject : Subject) : List AssociationEnd :=
  (rendering.model.relationshipsOf subject.id).filterMap fun
    | .association ends =>
      (ends.endFrom? subject.id).filter fun found =>
        !found.name.isEmpty && !subject.classifier.attributes.any (·.name == found.name)
    | _ => none

/-- The named attributes, each followed by a blank line. -/
def attributeFields (rendering : Rendering) (subject : Subject) : Fragment :=
  .concat ((subject.classifier.attributes.filter (!·.name.isEmpty)).map fun member =>
    spaced (rendering.field (.ofAttribute member)))

/-- The association ends among the members, each followed by a blank line. -/
def endFields (rendering : Rendering) (subject : Subject) : Fragment :=
  .concat ((rendering.memberEnds subject).map fun found => spaced (rendering.field (.ofEnd found)))

/-- A class gets a constructor if it is named, has no superclass and declares none itself. -/
def needsConstructor (rendering : Rendering) (subject : Subject) : Bool :=
  !subject.element.name.isEmpty && (superclasses rendering.model subject.id).isEmpty &&
    !subject.classifier.declares "__construct"

/-- The constructor that a class gets, documented like the class itself. -/
def constructorMethod (rendering : Rendering) (subject : Subject) : Fragment :=
  let words := subject.classifier.visibility.keyword?.toList ++ ["function __construct()"]
  rendering.docBlock subject.element.documentation ++ .block (" ".intercalate words) .empty

/-- The operations that a class gets without declaring them. -/
def synthesized (rendering : Rendering) (subject : Subject) : List Operation :=
  subject.classifier.attributes.flatMap (accessors subject.classifier) ++
    stereotypeMethods subject.classifier ++ interfaceStubs rendering.model subject.id

/-- The methods of a class in the order in which they are declared. -/
def classMethods (rendering : Rendering) (subject : Subject) : List ClassMethod :=
  let declared := subject.classifier.operations
  (if rendering.needsConstructor subject then [.defaultConstructor] else []) ++
    (declared.filter isFactory).map .factory ++
    (rendering.synthesized subject ++ declared.filter (!isFactory ·) ++
      abstractOverrides rendering.model subject.id).map .ordinary

/-- One method of a class. -/
def classMethod (rendering : Rendering) (subject : Subject) : ClassMethod → Fragment
  | .defaultConstructor => rendering.constructorMethod subject
  | .factory operation => rendering.factoryMethod subject.element.name operation
  | .ordinary operation => rendering.operationMethod subject.element.name operation {}

/-- Methods without bodies, each followed by a blank line. -/
def bareMethods (rendering : Rendering) (subject : Subject) (withParameters : Bool) : Fragment :=
  .concat (subject.classifier.operations.map fun operation =>
    spaced (rendering.operationMethod subject.element.name operation
      { withBody := false, withParameters }))

/-- What the declaration of an element needs imported. -/
def elementImports (rendering : Rendering) (subject : Subject) : Fragment :=
  .importing (importsOf rendering.model subject.id rendering.namespaceName)

/-! ### Forms -/

/-- The header of a class or trait. -/
def classHeader (rendering : Rendering) (subject : Subject) : String :=
  let model := rendering.model
  let word := if subject.classifier.isMarked "trait" then "trait" else "class"
  let parent := (superclasses model subject.id).head?.toList.map fun parent =>
    "extends " ++ parent.name model
  let interfaces := superinterfaces model subject.id
  let implemented :=
    if interfaces.isEmpty then []
    else ["implements " ++ ", ".intercalate (interfaces.map (Supertype.name model))]
  " ".intercalate
    (classWords subject.classifier ++ [word, subject.element.name] ++ parent ++ implemented)

/-- The members of a class in the order in which they are declared, given the nested declarations. -/
def classMembers (rendering : Rendering) (subject : Subject) (nested : Fragment) : Fragment :=
  rendering.traitUses subject ++ .blank ++ rendering.attributeFields subject ++
    rendering.endFields subject ++
    .concat ((rendering.classMethods subject).map fun method =>
      spaced (rendering.classMethod subject method)) ++
    nested

/-- The declaration of a class or trait. -/
def classDeclaration (rendering : Rendering) (subject : Subject) (nested : Fragment) : Fragment :=
  rendering.elementImports subject ++
    rendering.docBlock (rendering.docWithAuthor subject.element.documentation) ++
    .block (rendering.classHeader subject)
      (rendering.classMembers subject nested).withoutFinalBlank

/-- The header of an interface, which may extend several others. -/
def interfaceHeader (rendering : Rendering) (subject : Subject) : String :=
  let parents := superclasses rendering.model subject.id
  let extended :=
    if parents.isEmpty then ""
    else " extends " ++ ", ".intercalate (parents.map (Supertype.name rendering.model))
  "interface " ++ subject.element.name ++ extended

/-- The declaration of an interface: its methods have no bodies. -/
def interfaceDeclaration (rendering : Rendering) (subject : Subject) (nested : Fragment) :
    Fragment :=
  let members :=
    rendering.attributeFields subject ++ rendering.endFields subject ++
      rendering.bareMethods subject true ++ nested
  rendering.elementImports subject ++ rendering.docBlock subject.element.documentation ++
    .block (rendering.interfaceHeader subject) members.withoutFinalBlank

/-- The declaration of an annotation type: its methods have neither bodies nor parameters, and it
    imports nothing. -/
def annotationDeclaration (rendering : Rendering) (subject : Subject) (nested : Fragment) :
    Fragment :=
  let members :=
    Fragment.blank ++ rendering.attributeFields subject ++
      rendering.bareMethods subject false ++ nested
  let words := classWords subject.classifier ++ ["@interface", subject.element.name]
  rendering.docBlock (rendering.docWithAuthor subject.element.documentation) ++
    .block (" ".intercalate words) members.withoutFinalBlank

/-- The named literals with their numbers. -/
def namedLiterals (classifier : Classifier) : List (Literal × Nat) :=
  (classifier.literals.filter (!·.name.isEmpty)).zipIdx

/-- The declaration of an enumeration. -/
def enumDeclaration (rendering : Rendering) (subject : Subject) : Fragment :=
  let name := subject.element.name
  let (header, statement) :=
    match rendering.options.enumStyle with
    | .native => ("enum " ++ name, fun (literal : Literal) (_ : Nat) => "case " ++ literal.name ++ ";")
    | .splEnum =>
      ("class " ++ name ++ " extends \\SplEnum", fun literal number =>
        "const " ++ literal.name ++ " = " ++ toString number ++ ";")
  rendering.elementImports subject ++ rendering.docBlock subject.element.documentation ++
    .block header (.concat ((namedLiterals subject.classifier).map fun (literal, number) =>
      rendering.docBlock literal.documentation ++ .ofText (statement literal number)))

/-! ### Nesting -/

/-- The form in which a named element is declared inside a declaration of the given form. Interfaces
    are not declared inside interfaces. -/
def nestedForm? (outer : Form) (element : Element) : Option Form :=
  if element.name.isEmpty then none
  else
    (element.content.kind?.map Form.ofKind).filter fun form =>
      !(outer == .interfaceForm && form == .interfaceForm)

/-- The declaration of an element in a form, with declarations nested up to `depth` levels. -/
def declareNested (rendering : Rendering) : (depth : Nat) → Form → ElementId → Fragment
  | 0, _, _ => .empty
  | depth + 1, form, id =>
    match Subject.find? rendering.model id with
    | none => .empty
    | some subject =>
      let nested := Fragment.concat (subject.element.owned.map fun child =>
        match (rendering.model.element? child).bind (nestedForm? form) with
        | some form => spaced (rendering.declareNested depth form child)
        | none => .empty)
      match form with
      | .classForm => rendering.classDeclaration subject nested
      | .interfaceForm => rendering.interfaceDeclaration subject nested
      | .annotationForm => rendering.annotationDeclaration subject nested
      | .enumForm => rendering.enumDeclaration subject

/-- The declaration of an element in a form. No nesting is deeper than the number of elements. -/
def declareAs (rendering : Rendering) (form : Form) (id : ElementId) : Fragment :=
  rendering.declareNested rendering.model.elements.size form id

/-- The declaration of an element in the form of its kind; an element that is no classifier has
    none. -/
def declare (rendering : Rendering) (id : ElementId) : Fragment :=
  match (rendering.model.element? id).bind (·.content.kind?) with
  | some kind => rendering.declareAs (.ofKind kind) id
  | none => .empty

end Rendering

/-! ### Units -/

/-- The rendering of a model for units of a namespace. -/
def renderingIn (model : Model) (options : Options) (namespaceName : String) : Rendering :=
  ⟨⟨model, namespaceName⟩, options⟩

/-- The source unit of a named classifier, in the namespace of the classifier. -/
def unitOf? (model : Model) (options : Options) (id : ElementId) : Option SourceUnit :=
  match Subject.find? model id with
  | none => none
  | some subject =>
    if subject.element.name.isEmpty then none
    else
      let namespaceName := namespaceOf model id
      some ((SourceUnit.start options.indent.unit namespaceName).emit
        ((renderingIn model options namespaceName).declare id))

/-- The name of the file that holds the unit of a named classifier. -/
def fileName? (model : Model) (options : Options) (id : ElementId) : Option String :=
  match model.element? id with
  | none => none
  | some element =>
    if element.name.isEmpty then none
    else
      element.content.kind?.map fun kind =>
        element.name ++
          (match kind with
          | .classType => options.classSuffix
          | .interface => options.interfaceSuffix
          | .enumeration | .annotationType => "") ++ ".php"

end Blueprint.Php

/-
Module: Blueprint.Proofs.Php.Writing
Purpose: Declarations written step by step. A unit is written to line by line: it steps inwards behind an
  opening brace and back before the closing one, takes back a blank line at the end of a block, and splices
  its own indentation into the statement of a factory. What is written in this way is the declaration as a
  fragment put into the unit: lines at levels that know nothing of the indentation or of the unit. Changing
  the indentation changes what the lines begin with, and nothing else.
Main exports: Rendering.writeMethod, Rendering.writeClass, Rendering.writeNested, Rendering.write, write_eq,
  indentation_is_parametric
-/
import Blueprint.Proofs.Php.Factory
import Blueprint.Proofs.Php.Nesting

namespace Blueprint.Php

/-! ### Steps -/

/-- A block in braces below its header; what is between them is written one level further in. -/
def writeBlock (header : String) (content : SourceUnit → SourceUnit) (unit : SourceUnit) : SourceUnit :=
  (content ((unit.write header).write "\x7b").indent).outdent.write "\x7d"

/-- A blank line is written after each part. -/
def writeEach {α : Type} (part : α → SourceUnit → SourceUnit) (items : List α) (unit : SourceUnit) :
    SourceUnit :=
  items.foldl (fun unit item => (part item unit).blank) unit

namespace Rendering

/-- The doc block of a text, if doc blocks are wanted. -/
def writeDoc (rendering : Rendering) (text : String) (unit : SourceUnit) : SourceUnit :=
  if rendering.options.docs then (docLines text).foldl SourceUnit.write unit else unit

/-- A member variable; one without a name is left out. -/
def writeField (rendering : Rendering) (member : Variable) (unit : SourceUnit) : SourceUnit :=
  if member.name.isEmpty then unit
  else (rendering.writeDoc (rendering.variableDoc member) unit).write member.declaration

/-- The body of a method: the text that its operation gives, or a placeholder. -/
def writeBody (rendering : Rendering) (operation : Operation) (unit : SourceUnit) : SourceUnit :=
  let type? := rendering.resultType? operation
  let returnsItself := type? == some "$this"
  let specification := Text.trim operation.body
  if specification.isEmpty then
    let statement := if returnsItself && operation.isStatic then none else type?.bind defaultReturn?
    statement.toList.foldl SourceUnit.write (unit.write placeholder)
  else if returnsItself && !operation.isStatic then
    (unit.write specification).blank.write "return $this;"
  else unit.write specification

/-- A method of `owner`. Imports that its signature needs are added on the way. -/
def writeMethod (rendering : Rendering) (owner : String) (operation : Operation) (style : SignatureStyle)
    (unit : SourceUnit) : SourceUnit :=
  if operation.name.isEmpty then unit
  else
    let signature := rendering.signature owner operation style
    let unit := rendering.writeDoc (rendering.methodDoc operation) unit
    let unit := (rendering.signatureImports operation style).foldl SourceUnit.addImport unit
    if !style.withBody || operation.isAbstract then unit.write (signature ++ ";")
    else writeBlock signature (rendering.writeBody operation) unit

/-- One method of a class. A factory is an operation whose body is made up with the indentation of the unit
    that it is written to. -/
def writeClassMethod (rendering : Rendering) (subject : Subject) (method : ClassMethod)
    (unit : SourceUnit) : SourceUnit :=
  match method with
  | .defaultConstructor =>
    let words := subject.classifier.visibility.keyword?.toList ++ ["function __construct()"]
    let unit := rendering.writeDoc subject.element.documentation unit
    ((unit.write (" ".intercalate words)).write "\x7b").write "\x7d"
  | .factory operation =>
    rendering.writeMethod subject.element.name (withFactoryBody unit.indentUnit operation) {} unit
  | .ordinary operation => rendering.writeMethod subject.element.name operation {} unit

/-- The clause by which a class uses traits. -/
def writeTraits (rendering : Rendering) (subject : Subject) (unit : SourceUnit) : SourceUnit :=
  let traits := traitsOf rendering.model subject.id
  if traits.isEmpty then unit
  else
    let names := ", ".intercalate (traits.map fun use => rendering.model.nameOf use.target)
    let mappings := (traits.filterMap TraitUse.mapping?).map fun mapping =>
      String.ofList ((Text.trim mapping).toList.reverse.dropWhile (· == ';')).reverse
    let mappings := mappings.filter (!·.isEmpty)
    if mappings.isEmpty then unit.write ("use " ++ names ++ ";")
    else
      let unit := (unit.write ("use " ++ names ++ " \x7b")).indent
      (mappings.foldl (fun unit mapping => unit.write (mapping ++ ";")) unit).outdent.write "\x7d"

/-- The named attributes, and the ends of associations where they are wanted. -/
def writeFields (rendering : Rendering) (subject : Subject) (withEnds : Bool) (unit : SourceUnit) :
    SourceUnit :=
  let attributes := subject.classifier.attributes.filter (!·.name.isEmpty)
  let unit := writeEach (fun member => rendering.writeField (.ofAttribute member)) attributes unit
  if withEnds then
    writeEach (fun found => rendering.writeField (.ofEnd found)) (rendering.memberEnds subject) unit
  else unit

/-- Methods without bodies. -/
def writeBareMethods (rendering : Rendering) (subject : Subject) (withParameters : Bool)
    (unit : SourceUnit) : SourceUnit :=
  let style : SignatureStyle := { withBody := false, withParameters }
  writeEach (fun operation => rendering.writeMethod subject.element.name operation style)
    subject.classifier.operations unit

/-- What the declaration of an element needs imported. -/
def writeImports (rendering : Rendering) (subject : Subject) (unit : SourceUnit) : SourceUnit :=
  (importsOf rendering.model subject.id rendering.namespaceName).foldl SourceUnit.addImport unit

section Declarations

variable (rendering : Rendering) (subject : Subject) (nested : SourceUnit → SourceUnit)
  (unit : SourceUnit)

/-- A class or trait, given how the nested declarations are written. -/
def writeClass : SourceUnit :=
  let unit := rendering.writeImports subject unit
  let unit := rendering.writeDoc (rendering.docWithAuthor subject.element.documentation) unit
  writeBlock (rendering.classHeader subject)
    (fun unit =>
      let unit := rendering.writeFields subject true (rendering.writeTraits subject unit).blank
      let unit := writeEach (rendering.writeClassMethod subject) (rendering.classMethods subject) unit
      (nested unit).popBlank)
    unit

/-- An interface. -/
def writeInterface : SourceUnit :=
  let unit := rendering.writeImports subject unit
  let unit := rendering.writeDoc subject.element.documentation unit
  writeBlock (rendering.interfaceHeader subject)
    (fun unit =>
      let unit := rendering.writeFields subject true unit
      (nested (rendering.writeBareMethods subject true unit)).popBlank)
    unit

/-- An annotation type. -/
def writeAnnotation : SourceUnit :=
  let unit := rendering.writeDoc (rendering.docWithAuthor subject.element.documentation) unit
  let words := classWords subject.classifier ++ ["@interface", subject.element.name]
  writeBlock (" ".intercalate words)
    (fun unit =>
      let unit := rendering.writeFields subject false unit.blank
      (nested (rendering.writeBareMethods subject false unit)).popBlank)
    unit

/-- An enumeration. -/
def writeEnum : SourceUnit :=
  let name := subject.element.name
  let unit := rendering.writeImports subject unit
  let unit := rendering.writeDoc subject.element.documentation unit
  let literals := namedLiterals subject.classifier
  match rendering.options.enumStyle with
  | .native =>
    writeBlock ("enum " ++ name)
      (fun unit => literals.foldl
        (fun unit (literal, _) =>
          (rendering.writeDoc literal.documentation unit).write ("case " ++ literal.name ++ ";"))
        unit)
      unit
  | .splEnum =>
    writeBlock ("class " ++ name ++ " extends \\SplEnum")
      (fun unit => literals.foldl
        (fun unit (literal, number) =>
          (rendering.writeDoc literal.documentation unit).write
            ("const " ++ literal.name ++ " = " ++ toString number ++ ";"))
        unit)
      unit

end Declarations

/-- The declaration of an element in a form, with declarations nested up to `depth` levels. -/
def writeNested (rendering : Rendering) : (depth : Nat) → Form → ElementId → SourceUnit → SourceUnit
  | 0, _, _, unit => unit
  | depth + 1, form, id, unit =>
    match Subject.find? rendering.model id with
    | none => unit
    | some subject =>
      let nested := fun unit : SourceUnit => subject.element.owned.foldl
        (fun unit child =>
          match (rendering.model.element? child).bind (nestedForm? form) with
          | some inner => (rendering.writeNested depth inner child unit).blank
          | none => unit)
        unit
      match form with
      | .classForm => rendering.writeClass subject nested unit
      | .interfaceForm => rendering.writeInterface subject nested unit
      | .annotationForm => rendering.writeAnnotation subject nested unit
      | .enumForm => rendering.writeEnum subject unit

/-- The declaration of an element in the form of its kind. -/
def write (rendering : Rendering) (depth : Nat) (id : ElementId) (unit : SourceUnit) : SourceUnit :=
  match (rendering.model.element? id).bind (·.content.kind?) with
  | some kind => rendering.writeNested depth (.ofKind kind) id unit
  | none => unit

end Rendering

/-! ### Written as a fragment -/

section Equations

variable {rendering : Rendering} {unit : SourceUnit} {subject : Subject}

@[simp] theorem writeBlock_emit (header : String) (content : Fragment) (unit : SourceUnit) :
    writeBlock header (·.emit content) unit = unit.emit (.block header content) :=
  (unit.emit_block header content).symm

/-- The blank line that is taken back at the end of a block is one of its own, because the line before the
    block is its opening brace. -/
theorem writeBlock_popBlank (header : String) (content : Fragment) (unit : SourceUnit) :
    writeBlock header (fun unit => (unit.emit content).popBlank) unit =
      unit.emit (.block header content.withoutFinalBlank) := by
  rw [SourceUnit.emit_block, SourceUnit.emit_withoutFinalBlank (SourceUnit.back?_write_brace _)]
  rfl

theorem writeDoc_eq (text : String) (unit : SourceUnit) :
    rendering.writeDoc text unit = unit.emit (rendering.docBlock text) := by
  unfold Rendering.writeDoc Rendering.docBlock
  split
  · rw [SourceUnit.emit_concat, List.foldl_map]
    rfl
  · rfl

theorem writeField_eq (member : Variable) (unit : SourceUnit) :
    rendering.writeField member unit = unit.emit (rendering.field member) := by
  unfold Rendering.writeField Rendering.field
  split
  · rfl
  · rw [SourceUnit.emit_append, writeDoc_eq]
    rfl

theorem writeBody_eq (operation : Operation) (unit : SourceUnit) :
    rendering.writeBody operation unit =
      unit.emit (rendering.methodBody operation (givenBody operation)) := by
  unfold Rendering.writeBody Rendering.methodBody
  dsimp only
  cases bare : (Text.trim operation.body).isEmpty with
  | true =>
      have given : givenBody operation = .empty := by simp only [givenBody, bare, if_true]
      have none : (givenBody operation).lines.isEmpty = true := by rw [given]; rfl
      rw [if_pos rfl, if_pos none, SourceUnit.emit_concat, List.foldl_cons, List.foldl_map]
      rfl
  | false =>
      have given : givenBody operation = .ofText (Text.trim operation.body) := by
        simp only [givenBody, bare, Bool.false_eq_true, if_false]
      have some : (givenBody operation).lines.isEmpty = false := by
        rw [given]
        simpa using Fragment.lines_ofText_ne_nil _
      rw [if_neg Bool.false_ne_true, some, if_neg Bool.false_ne_true, given]
      split
      · simp only [SourceUnit.emit_append, SourceUnit.emit_ofText, SourceUnit.emit_blank]
      · rfl

theorem writeMethod_eq (owner : String) (operation : Operation) (style : SignatureStyle)
    (unit : SourceUnit) :
    rendering.writeMethod owner operation style unit =
      unit.emit (rendering.operationMethod owner operation style) := by
  have body : rendering.writeBody operation =
      (·.emit (rendering.methodBody operation (givenBody operation))) := funext (writeBody_eq operation)
  unfold Rendering.writeMethod Rendering.operationMethod Rendering.method
  split
  · rfl
  · simp only [SourceUnit.emit_append, SourceUnit.emit_importing, writeDoc_eq]
    split
    · rfl
    · rw [body, writeBlock_emit]

/-- A factory is written with the indentation of the unit, which its source does not know. -/
theorem writeClassMethod_eq (single : '\n' ∉ unit.indentUnit.toList) (method : ClassMethod) :
    rendering.writeClassMethod subject method unit = unit.emit (rendering.classMethod subject method) := by
  cases method with
  | defaultConstructor =>
      simp only [Rendering.writeClassMethod, Rendering.classMethod, Rendering.constructorMethod,
        SourceUnit.emit_append, writeDoc_eq]
      rw [SourceUnit.emit_block_empty]
  | factory operation =>
      rw [Rendering.classMethod, emit_factoryMethod single, ← writeMethod_eq]
      rfl
  | ordinary operation => exact writeMethod_eq _ operation {} unit

/-- Steps that write one part each write all parts. The indentation stays the same on the way. -/
theorem foldl_eq_emit {α : Type} {step : SourceUnit → α → SourceUnit} {source : α → Fragment}
    (items : List α)
    (same : ∀ item ∈ items, ∀ other : SourceUnit, other.indentUnit = unit.indentUnit →
      step other item = other.emit (source item)) :
    items.foldl step unit = unit.emit (.concat (items.map source)) := by
  induction items generalizing unit with
  | nil => rfl
  | cons item items ih =>
      rw [List.foldl_cons, same item List.mem_cons_self unit rfl, List.map_cons, SourceUnit.emit_concat,
        List.foldl_cons, ← SourceUnit.emit_concat]
      apply ih
      intro later member other indented
      rw [SourceUnit.indentUnit_emit] at indented
      exact same later (List.mem_cons_of_mem item member) other indented

theorem writeEach_eq {α : Type} {part : α → SourceUnit → SourceUnit} {source : α → Fragment}
    (items : List α)
    (same : ∀ item ∈ items, ∀ other : SourceUnit, other.indentUnit = unit.indentUnit →
      part item other = other.emit (source item)) :
    writeEach part items unit = unit.emit (.concat (items.map fun item => spaced (source item))) := by
  apply foldl_eq_emit
  intro item member other indented
  rw [same item member other indented, spaced, SourceUnit.emit_append, SourceUnit.emit_blank]

theorem writeTraits_eq (unit : SourceUnit) :
    rendering.writeTraits subject unit = unit.emit (rendering.traitUses subject) := by
  unfold Rendering.writeTraits Rendering.traitUses
  dsimp only
  split
  · rfl
  · split
    · rfl
    · simp only [SourceUnit.emit_append, SourceUnit.emit_deeper, SourceUnit.emit_concat,
        SourceUnit.emit_ofText, List.foldl_map]

theorem writeFields_eq (withEnds : Bool) (unit : SourceUnit) :
    rendering.writeFields subject withEnds unit =
      unit.emit (rendering.attributeFields subject ++
        if withEnds then rendering.endFields subject else .empty) := by
  have attributes : ∀ unit : SourceUnit,
      writeEach (fun member => rendering.writeField (.ofAttribute member))
        (subject.classifier.attributes.filter (!·.name.isEmpty)) unit =
          unit.emit (rendering.attributeFields subject) := fun unit =>
    writeEach_eq _ fun member _ other _ => writeField_eq (.ofAttribute member) other
  have ends : ∀ unit : SourceUnit,
      writeEach (fun found => rendering.writeField (.ofEnd found)) (rendering.memberEnds subject) unit =
        unit.emit (rendering.endFields subject) := fun unit =>
    writeEach_eq _ fun found _ other _ => writeField_eq (.ofEnd found) other
  rw [SourceUnit.emit_append, Rendering.writeFields, attributes]
  cases withEnds with
  | false => rfl
  | true => exact ends _

theorem writeBareMethods_eq (withParameters : Bool) (unit : SourceUnit) :
    rendering.writeBareMethods subject withParameters unit =
      unit.emit (rendering.bareMethods subject withParameters) :=
  writeEach_eq _ fun operation _ other _ => writeMethod_eq subject.element.name operation _ other

theorem writeImports_eq (unit : SourceUnit) :
    rendering.writeImports subject unit = unit.emit (rendering.elementImports subject) := rfl

theorem writeBlock_congr {content other : SourceUnit → SourceUnit} (header : String)
    (same : ∀ inner : SourceUnit, inner.indentUnit = unit.indentUnit → content inner = other inner) :
    writeBlock header content unit = writeBlock header other unit := by
  rw [writeBlock, same _ (by simp)]
  rfl

theorem writeEnum_eq (unit : SourceUnit) :
    rendering.writeEnum subject unit = unit.emit (rendering.enumDeclaration subject) := by
  unfold Rendering.writeEnum Rendering.enumDeclaration
  dsimp only
  rw [writeImports_eq, writeDoc_eq]
  cases rendering.options.enumStyle
  all_goals
    rw [SourceUnit.emit_append, SourceUnit.emit_append, ← writeBlock_emit]
    apply writeBlock_congr
    intro inner _
    simp only [SourceUnit.emit_concat, List.foldl_map, SourceUnit.emit_append, SourceUnit.emit_ofText,
      writeDoc_eq]

section Nested

variable {nested : SourceUnit → SourceUnit} {source : Fragment}
  (same : ∀ other : SourceUnit, other.indentUnit = unit.indentUnit → nested other = other.emit source)

include same

theorem writeClass_eq (single : '\n' ∉ unit.indentUnit.toList) :
    rendering.writeClass subject nested unit = unit.emit (rendering.classDeclaration subject source) := by
  unfold Rendering.writeClass Rendering.classDeclaration
  dsimp only
  rw [writeImports_eq, writeDoc_eq, SourceUnit.emit_append, SourceUnit.emit_append, ← writeBlock_popBlank]
  apply writeBlock_congr
  intro inner indented
  rw [SourceUnit.indentUnit_emit, SourceUnit.indentUnit_emit] at indented
  have methods : ∀ other : SourceUnit, other.indentUnit = unit.indentUnit →
      writeEach (rendering.writeClassMethod subject) (rendering.classMethods subject) other =
        other.emit (.concat ((rendering.classMethods subject).map fun method =>
          spaced (rendering.classMethod subject method))) := by
    intro other indented
    apply writeEach_eq
    intro method _ other' indented'
    exact writeClassMethod_eq (by rwa [indented', indented]) method
  rw [writeTraits_eq, writeFields_eq, methods _ (by simpa using indented), same]
  · simp only [Rendering.classMembers, SourceUnit.emit_append, SourceUnit.emit_blank, if_true]
  · rw [SourceUnit.indentUnit_emit]
    simpa using indented

theorem writeInterface_eq :
    rendering.writeInterface subject nested unit =
      unit.emit (rendering.interfaceDeclaration subject source) := by
  unfold Rendering.writeInterface Rendering.interfaceDeclaration
  dsimp only
  rw [writeImports_eq, writeDoc_eq, SourceUnit.emit_append, SourceUnit.emit_append, ← writeBlock_popBlank]
  apply writeBlock_congr
  intro inner indented
  rw [writeFields_eq, writeBareMethods_eq, same _ (by simpa using indented)]
  simp only [SourceUnit.emit_append, if_true]

theorem writeAnnotation_eq :
    rendering.writeAnnotation subject nested unit =
      unit.emit (rendering.annotationDeclaration subject source) := by
  unfold Rendering.writeAnnotation Rendering.annotationDeclaration
  dsimp only
  rw [writeDoc_eq, SourceUnit.emit_append, ← writeBlock_popBlank]
  apply writeBlock_congr
  intro inner indented
  rw [writeFields_eq, writeBareMethods_eq, same _ (by simpa using indented)]
  simp only [SourceUnit.emit_append, SourceUnit.emit_blank, SourceUnit.emit_empty, Bool.false_eq_true, if_false]

end Nested

/-- What is written step by step is the declaration put into the unit. -/
theorem writeNested_eq (single : '\n' ∉ unit.indentUnit.toList) (depth : Nat) (form : Form)
    (id : ElementId) :
    rendering.writeNested depth form id unit = unit.emit (rendering.declareNested depth form id) := by
  induction depth generalizing form id unit with
  | zero => rfl
  | succ depth ih =>
      rw [Rendering.writeNested]
      cases found : Subject.find? rendering.model id with
      | none =>
          rw [Rendering.declareNested, found]
          rfl
      | some subject =>
          rw [declareNested_succ found]
          have nested : ∀ other : SourceUnit, other.indentUnit = unit.indentUnit →
              subject.element.owned.foldl
                (fun unit child =>
                  match (rendering.model.element? child).bind (Rendering.nestedForm? form) with
                  | some inner => (rendering.writeNested depth inner child unit).blank
                  | none => unit)
                other =
              other.emit (nestedIn rendering depth form subject.element) := by
            intro other indented
            apply foldl_eq_emit
            intro child _ inner indented'
            cases (rendering.model.element? child).bind (Rendering.nestedForm? form) with
            | none => rfl
            | some childForm =>
                have single' : '\n' ∉ inner.indentUnit.toList := by rwa [indented', indented]
                dsimp only
                rw [ih single', spaced, SourceUnit.emit_append, SourceUnit.emit_blank]
          cases form with
          | classForm => exact writeClass_eq nested single
          | interfaceForm => exact writeInterface_eq nested
          | annotationForm => exact writeAnnotation_eq nested
          | enumForm => exact writeEnum_eq unit

theorem write_eq (tree : rendering.model.IsTree) (single : '\n' ∉ unit.indentUnit.toList)
    {depth : Nat} (enough : rendering.model.elements.size ≤ depth) (id : ElementId) :
    rendering.write depth id unit = unit.emit (rendering.declare id) := by
  unfold Rendering.write Rendering.declare
  cases known : (rendering.model.element? id).bind (·.content.kind?) with
  | none => rfl
  | some kind =>
      dsimp only
      rw [writeNested_eq single, declareNested_eq tree enough]

end Equations

/-! ### Indentation -/

theorem lineFeed_not_mem_unit (style : IndentStyle) : '\n' ∉ style.unit.toList := by
  cases style with
  | tab => decide
  | spaces count =>
      rw [IndentStyle.unit, String.toList_ofList]
      intro member
      exact absurd (List.eq_of_mem_replicate member) (by decide)

section Indent

variable {model : Model} {options : Options} {namespaceName : String}

/-- The source of a declaration does not know how it will be indented. -/
theorem declareNested_indent (chosen : IndentStyle) (depth : Nat) (form : Form) (id : ElementId) :
    (renderingIn model { options with indent := chosen } namespaceName).declareNested depth form id =
      (renderingIn model options namespaceName).declareNested depth form id := by
  induction depth generalizing form id with
  | zero => rfl
  | succ depth ih =>
      have sameNested : ∀ element : Element,
          nestedIn (renderingIn model { options with indent := chosen } namespaceName) depth form element =
            nestedIn (renderingIn model options namespaceName) depth form element := by
        intro element
        unfold nestedIn
        simp only [ih]
        rfl
      cases found : Subject.find? model id with
      | none =>
          rw [declareNested_of_absent found, declareNested_of_absent found]
      | some subject =>
          rw [declareNested_succ found, declareNested_succ found, sameNested]
          cases form <;> rfl

theorem declare_indent (chosen : IndentStyle) (id : ElementId) :
    (renderingIn model { options with indent := chosen } namespaceName).declare id =
      (renderingIn model options namespaceName).declare id := by
  have forms : ∀ form, (renderingIn model { options with indent := chosen } namespaceName).declareAs form id =
      (renderingIn model options namespaceName).declareAs form id := fun form =>
    declareNested_indent chosen model.elements.size form id
  unfold Rendering.declare
  simp only [forms]
  rfl

end Indent

/-- The imports of a unit when those that a fragment needs are added to the ones that it has. -/
def importsWith (fragment : Fragment) (known : List String) : List String :=
  (fragment.imports.foldl SourceUnit.addImport { SourceUnit.start "" "" with imports := known }).imports

theorem prefix_importsWith (fragment : Fragment) (known : List String) :
    known <+: importsWith fragment known := by
  obtain ⟨more, all⟩ := SourceUnit.foldl_addImport_eq fragment.imports
    { SourceUnit.start "" "" with imports := known }
  rw [importsWith, all]
  exact List.prefix_append known more

theorem emit_eq_importsWith (unit : SourceUnit) (fragment : Fragment) :
    unit.emit fragment =
      { unit with
        imports := importsWith fragment unit.imports
        lines := unit.lines ++
          (fragment.lines.map (·.render unit.indentUnit unit.depth)).toArray } := by
  have imports : (fragment.imports.foldl SourceUnit.addImport unit).imports =
      importsWith fragment unit.imports := by
    apply SourceUnit.imports_foldl_addImport
    rfl
  rw [SourceUnit.emit_eq, imports]

/-- A nested declaration is in the form of its kind. -/
theorem declare_of_nestedForm? {rendering : Rendering} {form inner : Form} {id : ElementId}
    (nested : (rendering.model.element? id).bind (Rendering.nestedForm? form) = some inner) :
    rendering.declare id = rendering.declareAs inner id := by
  obtain ⟨element, place, nested⟩ := Option.bind_eq_some_iff.mp nested
  unfold Rendering.nestedForm? at nested
  split at nested
  · cases nested
  · obtain ⟨ofKind, -⟩ := Option.filter_eq_some_iff.mp nested
    obtain ⟨kind, content, rfl⟩ := Option.map_eq_some_iff.mp ofKind
    rw [Rendering.declare, place, Option.bind_some, content]

/-- An element of a kind of classifiers is a subject, and its declaration is in the form of the kind. -/
theorem exists_subject {rendering : Rendering} {id : ElementId} {kind : ClassifierKind}
    (known : (rendering.model.element? id).bind (·.content.kind?) = some kind) :
    (∃ subject, Subject.find? rendering.model id = some subject) ∧
      rendering.declare id = rendering.declareAs (.ofKind kind) id := by
  constructor
  · obtain ⟨element, place, content⟩ := Option.bind_eq_some_iff.mp known
    rw [Subject.find?, place]
    cases whole : element.content with
    | classifier kind data => exact ⟨⟨id, element, data⟩, by simp [whole, Content.classifier?]⟩
    | _ =>
        rw [whole] at content
        cases content
  · rw [Rendering.declare, known]

/-- Indentation is a parameter. Let containment be a tree. For all choices but the indentation, and for any
    namespace, a declaration is a list of lines at levels and a list of imports, and neither depends on the
    indentation or on the unit that it is written to.

    * Written step by step, it is the source put into the unit, and what this adds are these lines, each
      behind its indentation, and imports; what the unit holds already stays, and so does its depth.
    * The unit of an element holds these lines at the outermost level, in every indentation.
    * A nested declaration stands in the one around it as it stands by itself, one level further in. -/
theorem indentation_is_parametric {model : Model} (tree : model.IsTree) (options : Options)
    (namespaceName : String) :
    ∃ (lines : ElementId → List SourceLine) (imports : ElementId → List String → List String),
      (∀ id known, known <+: imports id known) ∧
      (∀ (chosen style : IndentStyle) (unit : SourceUnit) (depth : Nat) (id : ElementId),
        unit.indentUnit = style.unit → model.elements.size ≤ depth →
          let rendering := renderingIn model { options with indent := chosen } namespaceName
          rendering.write depth id unit = unit.emit (rendering.declare id) ∧
            rendering.write depth id unit =
              { unit with
                imports := imports id unit.imports
                lines := unit.lines ++ ((lines id).map (·.render style.unit unit.depth)).toArray }) ∧
      (∀ (style : IndentStyle) (id : ElementId) (unit : SourceUnit), namespaceOf model id = namespaceName →
        unitOf? model { options with indent := style } id = some unit →
          unit =
            { namespaceName
              indentUnit := style.unit
              imports := imports id []
              lines := ((lines id).map (·.render style.unit 0)).toArray
              depth := 0 }) ∧
      ∀ id child kind inner, (model.element? id).bind (·.content.kind?) = some kind →
        Nests model id child (.ofKind kind) inner →
          (lines child).map SourceLine.deeper <:+: lines id := by
  let source := (renderingIn model options namespaceName).declare
  refine ⟨fun id => (source id).lines, fun id => importsWith (source id), ?_, ?_, ?_, ?_⟩
  · intro id known
    exact prefix_importsWith (source id) known
  · intro chosen style unit depth id indented enough
    have single : '\n' ∉ unit.indentUnit.toList := by
      rw [indented]
      exact lineFeed_not_mem_unit style
    have written :
        (renderingIn model { options with indent := chosen } namespaceName).write depth id unit =
          unit.emit (source id) := by
      rw [write_eq tree single enough, declare_indent]
    constructor
    · rw [written, declare_indent]
    · rw [written, emit_eq_importsWith, indented]
  · rintro style id unit rfl rendered
    rw [unitOf?_eq rendered, declare_indent, emit_eq_importsWith]
    simp [SourceUnit.start, source]
  · intro id child kind inner known nests
    obtain ⟨⟨subject, found⟩, ofKind⟩ := @exists_subject (renderingIn model options namespaceName) _ _ known
    have whole : source id = (renderingIn model options namespaceName).declareAs (.ofKind kind) id := ofKind
    have part : source child = (renderingIn model options namespaceName).declareAs inner child :=
      declare_of_nestedForm? nests.nested
    dsimp only
    rw [whole, part]
    exact nested_lines_infix tree found nests

/-- Parcels. A parcel has a factory and a nested enumeration of its states. -/
def parcels : Model where
  author? := none
  elements := #[
    { id := 0, name := "Parcels", parent? := none, owned := [1], content := .model },
    { id := 1, name := "Parcel", parent? := some 0, owned := [2],
      content := .classifier .classType parcel },
    { id := 2, name := "State", parent? := some 1, content := .classifier .enumeration state }]
  relationships := []
  keys := []
where
  /-- The parcel itself. -/
  parcel : Classifier :=
    { operations := [{ name := "createWithWeight", parameters := [{ name := "weight" }] }] }
  /-- Its states. -/
  state : Classifier :=
    { literals := [{ name := "SENT" }] }

/-- The source of a parcel, here behind tabs, is written at any depth and in any indentation, and the state
    stands in it as it does by itself. -/
theorem indentation_is_parametric_parcels : parcels.IsTree ∧
    ∃ lines : ElementId → List SourceLine,
      (lines 1).map (·.render "\t" 0) =
        ["class Parcel", "\x7b", "", "\tpublic function __construct()", "\t\x7b", "\t\x7d", "",
          "\tpublic function createWithWeight($weight)", "\t\x7b", "\t\treturn self::create()",
          "\t\t\t->setWeight($weight);", "\t\x7d", "", "\tclass State extends \\SplEnum", "\t\x7b",
          "\t\tconst SENT = 0;", "\t\x7d", "\x7d"] ∧
      (lines 2).map SourceLine.deeper <:+: lines 1 ∧
      ∀ (style : IndentStyle) (unit : SourceUnit), unit.indentUnit = style.unit →
        ((renderingIn parcels { docs := false } "").write 3 1 unit).lines =
          unit.lines ++ ((lines 1).map (·.render style.unit unit.depth)).toArray := by
  have tree : parcels.IsTree := by
    apply Model.isTree_of_ordered <;> decide +kernel
  obtain ⟨lines, imports, -, written, units, nested⟩ :=
    indentation_is_parametric tree { docs := false } ""
  refine ⟨tree, lines, ?_, ?_, ?_⟩
  · have seen : (unitOf? parcels { indent := .tab, docs := false } 1).map (·.lines.toList) = some
        ["class Parcel", "\x7b", "", "\tpublic function __construct()", "\t\x7b", "\t\x7d", "",
          "\tpublic function createWithWeight($weight)", "\t\x7b", "\t\treturn self::create()",
          "\t\t\t->setWeight($weight);", "\t\x7d", "", "\tclass State extends \\SplEnum", "\t\x7b",
          "\t\tconst SENT = 0;", "\t\x7d", "\x7d"] := by
      decide +kernel
    obtain ⟨unit, rendered, text⟩ := Option.map_eq_some_iff.mp seen
    have top : namespaceOf parcels 1 = "" := by decide +kernel
    rw [units .tab 1 unit top rendered] at text
    exact text
  · apply nested 1 2 .classType .enumForm rfl
    exact { listed := by decide, holds := by decide, nested := rfl }
  · intro style unit indented
    obtain ⟨-, added⟩ := written (.spaces 4) style unit 3 1 indented (Nat.le_refl 3)
    exact congrArg SourceUnit.lines added

end Blueprint.Php

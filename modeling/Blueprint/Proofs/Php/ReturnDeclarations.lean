/-
Module: Blueprint.Proofs.Php.ReturnDeclarations
Purpose: Declarations of returned values against bodies. What is declared comes from the type of the result, and
  the body from the synthesis of the method, so that the two can disagree: a method that is declared to return
  nothing may have a statement that returns a value. A placeholder returns nothing exactly where its type is
  void; getters and factories return a value whatever their type is.
Main exports: SourceLine.Returns, ReturnsValue, DeclaresVoid, ClassMethod.specified, VoidConflict,
  void_methods_return_values_iff
-/
import Blueprint.Proofs.Php.Completeness
import Blueprint.Proofs.Text.Words

namespace Blueprint.Php

open Text

variable {rendering : Rendering} {subject : Subject} {owner : String} {operation : Operation} {member : Attribute}
  {id : ElementId} {type back : String}

/-! ### Statements that return values -/

/-- The line is a statement that returns a value. -/
def SourceLine.Returns (line : SourceLine) : Prop :=
  "return ".toList <+: (trimStart line.text).toList

instance (line : SourceLine) : Decidable line.Returns :=
  inferInstanceAs (Decidable (_ <+: _))

/-- One of the lines returns a value. -/
def ReturnsValue (body : Fragment) : Prop :=
  ∃ line ∈ body.lines, line.Returns

instance (body : Fragment) : Decidable (ReturnsValue body) :=
  inferInstanceAs (Decidable (∃ line ∈ body.lines, _))

theorem returnsValue_append {first second : Fragment} :
    ReturnsValue (first ++ second) ↔ ReturnsValue first ∨ ReturnsValue second := by
  simp only [ReturnsValue, Fragment.lines_append, List.mem_append, or_and_right, exists_or]

theorem not_returnsValue_empty : ¬ReturnsValue .empty := by
  rintro ⟨line, none, -⟩
  cases none

/-- A text that begins with the word, and goes on, is such a statement. -/
theorem returns_of_begins {level : Nat} (value : String) : SourceLine.Returns ⟨level, "return " ++ value⟩ := by
  refine ⟨value.toList, ?_⟩
  rw [toList_trimStart, dropBlank, String.toList_append]
  rfl

theorem returnsValue_ofText (solid : BeginsSolid back) : ReturnsValue (.ofText ("return " ++ back)) := by
  obtain ⟨piece, rest, parts, kept⟩ := exists_pieces_of_beginsSolid solid
  refine ⟨⟨0, trimEnd ("return " ++ piece)⟩, ?_, ?_⟩
  · rw [Fragment.ofText, pieces_append_of_not_mem (by decide), parts, List.modifyHead_cons, List.map_cons]
    exact List.mem_cons_self
  · rw [trimEnd_append kept]
    exact returns_of_begins _

/-- The text is one line that does not return a value. -/
theorem not_returnsValue_ofText {text : String} (single : '\n' ∉ text.toList)
    (other : ¬SourceLine.Returns ⟨0, trimEnd text⟩) : ¬ReturnsValue (.ofText text) := by
  rintro ⟨line, member, returns⟩
  rw [Fragment.ofText, pieces_of_not_mem single] at member
  rw [List.mem_singleton.mp member] at returns
  exact other returns

/-- The statements that return a value of some type. -/
def defaultReturns : List String :=
  ["return false;", "return 0;", "return 0.0;", "return '0';", "return \"\";", "return [];", "return $this;",
    "return self::create();", "return null;"]

/-- All types have one of the statements but for the one that is void. -/
theorem defaultReturn?_cases (known : type ≠ "void") :
    ∃ statement ∈ defaultReturns, defaultReturn? type = some statement := by
  rw [defaultReturn?, if_neg known]
  repeat' split
  all_goals exact ⟨_, by decide, rfl⟩

theorem returnsValue_of_mem_defaultReturns {statement : String} (listed : statement ∈ defaultReturns) :
    ReturnsValue (.ofText statement) := by
  have all : ∀ statement ∈ defaultReturns, ReturnsValue (.ofText statement) := by decide +kernel
  exact all statement listed

/-! ### Bodies of methods -/

/-- What is specified for the body of a method. -/
def ClassMethod.specified : ClassMethod → Fragment
  | defaultConstructor => .empty
  | factory operation => chainFragment operation
  | ordinary operation => givenBody operation

/-- The type of the result is that of the object itself, and there is an object. -/
def ReturnsObject (rendering : Rendering) (operation : Operation) : Prop :=
  rendering.resultType? operation = some "$this" ∧ operation.isStatic = false

/-- The epilogue of a method returns a value if it is there. -/
theorem returnsValue_epilogue : ReturnsValue (rendering.epilogue operation) ↔ ReturnsObject rendering operation := by
  unfold Rendering.epilogue
  split
  · rename_i object
    exact iff_of_true (by decide +kernel) object
  · rename_i none
    exact iff_of_false not_returnsValue_empty none

/-- A method with a specified body returns a value there or in its epilogue. -/
theorem returnsValue_methodBody {specified : Fragment} (filled : specified.lines ≠ []) :
    ReturnsValue (rendering.methodBody operation specified) ↔
      ReturnsValue specified ∨ ReturnsObject rendering operation := by
  rw [methodBody_eq filled, returnsValue_append, returnsValue_epilogue]

/-- A placeholder returns a value if its type is known, unless it is the object of a method that has none. -/
theorem returnsValue_placeholder : ReturnsValue (rendering.methodBody operation .empty) ↔
    ∃ type, rendering.resultType? operation = some type ∧ type ≠ "void" ∧
      ¬(type = "$this" ∧ operation.isStatic = true) := by
  have comment : ¬ReturnsValue (.ofText placeholder) := by decide +kernel
  have body (statement : Option String) :
      ReturnsValue (.concat (.ofText placeholder :: statement.toList.map Fragment.ofText)) ↔
        ∃ text, statement = some text ∧ ReturnsValue (.ofText text) := by
    rw [Fragment.concat_cons, returnsValue_append, or_iff_right comment]
    cases statement with
    | none => exact iff_of_false not_returnsValue_empty (by simp)
    | some text =>
        have none : ¬ReturnsValue (.concat []) := not_returnsValue_empty
        rw [Option.toList_some, List.map_singleton, Fragment.concat_cons, returnsValue_append, or_iff_left none]
        simp
  have written : rendering.methodBody operation .empty =
      .concat (.ofText placeholder :: (if rendering.resultType? operation == some "$this" && operation.isStatic
        then none else (rendering.resultType? operation).bind defaultReturn?).toList.map Fragment.ofText) := rfl
  rw [written, body]
  cases rendering.resultType? operation with
  | none => simp
  | some type =>
      simp only [Option.some.injEq, exists_eq_left', Option.bind_some, Bool.and_eq_true, beq_iff_eq]
      by_cases itself : type = "$this" ∧ operation.isStatic = true
      · simp [itself]
      · rw [if_neg itself]
        constructor
        · rintro ⟨statement, given, -⟩
          refine ⟨fun void => ?_, itself⟩
          subst void
          cases given
        · rintro ⟨known, -⟩
          obtain ⟨statement, listed, given⟩ := defaultReturn?_cases known
          exact ⟨statement, given, returnsValue_of_mem_defaultReturns listed⟩

/-! ### What is specified -/

/-- A body that has nothing to trim is written as it stands. -/
theorem givenBody_eq {first : Char} {cs : List Char} (begins : operation.body.toList = first :: cs)
    (whole : trim operation.body = operation.body) : givenBody operation = .ofText operation.body := by
  have filled : operation.body.isEmpty = false := by
    rw [Bool.eq_false_iff]
    intro empty
    rw [String.isEmpty_iff.mp empty] at begins
    cases begins
  rw [givenBody, whole]
  simp [filled]

/-- A field begins with the word for its class or its object. -/
theorem exists_fieldOf_eq (member : Attribute) :
    ∃ first rest, (fieldOf member).toList = first :: rest ∧ isBlank first = false ∧ first ≠ 'r' := by
  unfold fieldOf
  split
  · exact ⟨'s', "elf::$".toList ++ member.name.toList, by rw [String.toList_append]; rfl, by decide, by decide⟩
  · exact ⟨'$', "this->".toList ++ member.name.toList, by rw [String.toList_append]; rfl, by decide, by decide⟩

theorem givenBody_getter (member : Attribute) :
    givenBody (getter member) = .ofText ("return " ++ (fieldOf member ++ ";")) := by
  have body : (getter member).body = "return " ++ fieldOf member ++ ";" := rfl
  have begins : (getter member).body.toList = 'r' :: ("eturn ".toList ++ (fieldOf member).toList ++ [';']) := by
    rw [body, String.toList_append, String.toList_append]
    rfl
  have ends : (getter member).body.toList = ("return " ++ fieldOf member).toList ++ [';'] := by
    rw [body, String.toList_append]
    rfl
  rw [givenBody_eq begins (trim_eq_self begins (by decide) ends (by decide)), body, String.append_assoc]

theorem returnsValue_getter (member : Attribute) : ReturnsValue (givenBody (getter member)) := by
  obtain ⟨first, rest, begins, solid, -⟩ := exists_fieldOf_eq member
  have field : BeginsSolid (fieldOf member) := ⟨first, rest, begins, solid⟩
  rw [givenBody_getter]
  exact returnsValue_ofText (field.append _)

section Setter

variable (member : Attribute)

/-- The statement of a setter neither begins nor ends with a blank, and it does not begin with the word that
    returns a value. -/
theorem exists_setter_body_eq : ∃ first back front, (setter member).body.toList = first :: back ∧
    (setter member).body.toList = front ++ [';'] ∧ isBlank first = false ∧ first ≠ 'r' := by
  have body : (setter member).body = fieldOf member ++ " = $" ++ camelize member.name .lower ++ ";" := rfl
  obtain ⟨first, rest, begins, solid, other⟩ := exists_fieldOf_eq member
  refine ⟨first, rest ++ (" = $" ++ camelize member.name .lower ++ ";").toList,
    (fieldOf member ++ " = $" ++ camelize member.name .lower).toList, ?_, ?_, solid, other⟩
  · rw [body, String.append_assoc, String.append_assoc, String.toList_append, begins, ← String.append_assoc]
    rfl
  · rw [body, String.toList_append]
    rfl

theorem trim_setter_body : trim (setter member).body = (setter member).body := by
  obtain ⟨first, back, front, begins, ends, solid, -⟩ := exists_setter_body_eq member
  exact trim_eq_self begins solid ends (by decide)

theorem givenBody_setter : givenBody (setter member) = .ofText (setter member).body := by
  obtain ⟨first, back, front, begins, -, -, -⟩ := exists_setter_body_eq member
  exact givenBody_eq begins (trim_setter_body member)

/-- A setter gets a statement that returns a value only if the name of its attribute is broken into lines. -/
theorem lineFeed_mem_of_returnsValue_setter (returns : ReturnsValue (givenBody (setter member))) :
    '\n' ∈ member.name.toList := by
  by_contra single
  rw [givenBody_setter] at returns
  have lowered : '\n' ∉ (camelize member.name .lower).toList :=
    fun inside => single (mem_of_mem_camelize (by decide +kernel) inside)
  have unbroken : '\n' ∉ (setter member).body.toList := by
    have field : '\n' ∉ (fieldOf member).toList := by
      unfold fieldOf
      split <;> simp [single]
    have body : (setter member).body = fieldOf member ++ " = $" ++ camelize member.name .lower ++ ";" := rfl
    rw [body]
    simp [field, lowered]
  refine not_returnsValue_ofText unbroken ?_ returns
  rw [← trim_setter_body, trimEnd_trim, trim_setter_body]
  rintro ⟨value, begins⟩
  obtain ⟨first, back, -, text, -, solid, other⟩ := exists_setter_body_eq member
  rw [toList_trimStart, text, dropBlank, List.dropWhile_cons_of_neg (by simp [solid])] at begins
  exact other (List.cons.inj begins).1.symm

end Setter

theorem returnsValue_chainFragment (operation : Operation) : ReturnsValue (chainFragment operation) := by
  have first : ∃ text rest, factoryChain operation = ⟨0, text⟩ :: rest ∧
      ReturnsValue (chainLineFragment ⟨0, text⟩) := by
    unfold factoryChain chainLines
    cases (operation.parameters.filter (·.direction == .input)).map fun parameter =>
      SourceLine.mk 1 (setterCall parameter) with
    | nil => exact ⟨"return self::create();", [], rfl, by decide +kernel⟩
    | cons call calls => exact ⟨"return self::create()", ended (call :: calls), rfl, by decide +kernel⟩
  obtain ⟨text, rest, chain, returns⟩ := first
  rw [chainFragment, chain, List.map_cons, Fragment.concat_cons, returnsValue_append]
  exact .inl returns

/-! ### Declarations -/

/-- The signature declares that nothing is returned. -/
def DeclaresVoid (rendering : Rendering) (owner : String) (operation : Operation) : Prop :=
  ∃ type, rendering.resultDeclaration owner operation = ": " ++ type ∧ trim type = "void"

theorem declaresVoid_iff (declares : rendering.options.returnTypes = true) :
    DeclaresVoid rendering owner operation ↔
      operation.name ≠ "__construct" ∧
        trim (declaredResult owner (rendering.resultType? operation)) = "void" := by
  have declared : rendering.resultDeclaration owner operation =
      if operation.name ≠ "__construct" then ": " ++ declaredResult owner (rendering.resultType? operation)
      else "" := by
    simp [Rendering.resultDeclaration, declares]
  rw [DeclaresVoid, declared]
  split
  · rename_i called
    simp only [called, ne_eq, not_false_eq_true, true_and, String.append_right_inj, exists_eq_left']
  · rename_i constructs
    refine iff_of_false ?_ fun void => constructs void.1
    rintro ⟨type, empty, -⟩
    have characters := congrArg String.toList empty
    rw [String.toList_append] at characters
    cases characters

/-- The type of a result that the model does not describe is written as it stands. -/
theorem typeText_returning (rendering : Rendering) (filled : isBlankText type = false) (other : type ≠ "object") :
    rendering.typeText (Parameter.returning (.primitive type)).shape .code false = type := by
  have value : rendering.valueType (Parameter.returning (.primitive type)).shape false = type := by
    simp [Scope.valueType, Parameter.returning, Parameter.shape, filled]
  have absent : (Parameter.returning (.primitive type)).shape.multiplicity = ⟨""⟩ := rfl
  have member : rendering.memberType (Parameter.returning (.primitive type)).shape .code false = type := by
    rw [Scope.memberType, value, absent]
    rfl
  simp only [Scope.typeText, member, other, if_false]

theorem resultType?_setter (member : Attribute) :
    rendering.resultType? (setter member) = if member.isStatic then none else some "$this" := by
  have itself : rendering.typeText (Parameter.returning (.primitive "$this")).shape .code false = "$this" :=
    typeText_returning rendering (by decide) (by decide)
  cases scope : member.isStatic with
  | true => simp [Rendering.resultType?, Operation.result?, setter, scope, Parameter.isResult]
  | false =>
      have result : (setter member).result? = some (Parameter.returning (.primitive "$this")) := by
        simp [Operation.result?, setter, scope, Parameter.isResult, Parameter.returning]
      rw [Rendering.resultType?, result, Option.map_some, itself]
      rfl

theorem accessor_name_ne_construct (kind : operation = setter member ∨ operation = getter member) :
    operation.name ≠ "__construct" := by
  intro constructs
  have begins := head?_of_accessor kind
  rw [constructs] at begins
  exact absurd begins (by decide)

/-- A method that a tag calls for is declared with its own type. -/
theorem trim_declaredResult_tagged {tag : String} {method : StereotypeMethod}
    (called : stereotypeMethod? tag = some method) (classifier : Classifier) :
    trim (declaredResult owner (rendering.resultType? (method.operation classifier))) ≠ "void" := by
  have result : rendering.resultType? (method.operation classifier) =
      some (rendering.typeText (Parameter.returning (.primitive method.type)).shape .code false) := rfl
  have known : (method.type = "\\ArrayIterator" ∨ method.type = "int") := by
    unfold stereotypeMethod? at called
    split at called
    · cases called
      exact .inl rfl
    · cases called
      exact .inr rfl
    · cases called
  rw [result]
  rcases known with type | type <;>
    · rw [type, typeText_returning rendering (by decide) (by decide), declaredResult, if_neg (by decide),
        if_neg (by decide)]
      decide +kernel

/-! ### Conflicts -/

/-- The methods that are declared to return nothing and return a value. -/
inductive VoidConflict (rendering : Rendering) (owner : String) : ClassMethod → Prop where
  | getter (member : Attribute) {type : String}
      (typed : rendering.typeText (some ⟨member.type, member.multiplicity, none, false⟩) .code false = type)
      (void : trim (declaredResult owner (some type)) = "void") :
      VoidConflict rendering owner (.ordinary (getter member))
  | setter (member : Attribute) (perObject : member.isStatic = false) (void : trim owner = "void") :
      VoidConflict rendering owner (.ordinary (setter member))
  | staticSetter (member : Attribute) (shared : member.isStatic = true) (broken : '\n' ∈ member.name.toList)
      (returns : ReturnsValue (givenBody (setter member))) :
      VoidConflict rendering owner (.ordinary (setter member))
  | factory (operation : Operation)
      (void : trim (declaredResult owner (rendering.resultType? operation)) = "void") :
      VoidConflict rendering owner (.factory operation)
  | placeholder (required : Operation) {type : String} (typed : rendering.resultType? required = some type)
      (known : type ≠ "void") (void : trim (declaredResult owner (some type)) = "void")
      (object : ¬(type = "$this" ∧ required.isStatic = true)) (called : required.name ≠ "__construct") :
      VoidConflict rendering owner (.ordinary (concrete required))

/-- The class adds the method, or the body of it. -/
def Subject.Synthesizes (subject : Subject) : ClassMethod → Prop
  | .defaultConstructor => False
  | .factory _ => True
  | .ordinary operation => subject.classifier.declares operation.name = false

section Declared

variable (declares : rendering.options.returnTypes = true)

include declares

theorem conflicts_getter_iff : DeclaresVoid rendering owner (getter member) ∧
      ReturnsValue (rendering.methodBody (getter member) (givenBody (getter member))) ↔
    trim (declaredResult owner (some
      (rendering.typeText (some ⟨member.type, member.multiplicity, none, false⟩) .code false))) = "void" := by
  have result : rendering.resultType? (getter member) =
      some (rendering.typeText (some ⟨member.type, member.multiplicity, none, false⟩) .code false) := rfl
  have called : (getter member).name ≠ "__construct" := accessor_name_ne_construct (.inr rfl)
  have filled : (givenBody (getter member)).lines ≠ [] := by
    rw [givenBody_getter]
    exact Fragment.lines_ofText_ne_nil _
  rw [declaresVoid_iff declares, returnsValue_methodBody filled, result]
  simp [called, returnsValue_getter]

theorem conflicts_setter_iff : DeclaresVoid rendering owner (setter member) ∧
      ReturnsValue (rendering.methodBody (setter member) (givenBody (setter member))) ↔
    (member.isStatic = false ∧ trim owner = "void") ∨
      (member.isStatic = true ∧ ReturnsValue (givenBody (setter member))) := by
  have called : (setter member).name ≠ "__construct" := accessor_name_ne_construct (.inl rfl)
  have void : trim "void" = "void" := by decide +kernel
  have filled : (givenBody (setter member)).lines ≠ [] := by
    rw [givenBody_setter]
    exact Fragment.lines_ofText_ne_nil _
  have scope : (setter member).isStatic = member.isStatic := rfl
  rw [declaresVoid_iff declares, returnsValue_methodBody filled, ReturnsObject, resultType?_setter, scope]
  cases member.isStatic with
  | true => simp [called, declaredResult, void]
  | false => simp [called, declaredResult]

theorem conflicts_factory_iff (factory : isFactory operation = true) : DeclaresVoid rendering owner operation ∧
      ReturnsValue (rendering.methodBody operation (chainFragment operation)) ↔
    trim (declaredResult owner (rendering.resultType? operation)) = "void" := by
  have called : operation.name ≠ "__construct" := by
    intro constructs
    rw [isFactory, constructs] at factory
    exact absurd factory (by decide +kernel)
  rw [declaresVoid_iff declares, returnsValue_methodBody (lines_chainFragment_ne_nil operation)]
  simp [called, returnsValue_chainFragment]

theorem conflicts_placeholder_iff : DeclaresVoid rendering owner (concrete operation) ∧
      ReturnsValue (rendering.methodBody (concrete operation) (givenBody (concrete operation))) ↔
    ∃ type, rendering.resultType? operation = some type ∧ type ≠ "void" ∧
      trim (declaredResult owner (some type)) = "void" ∧ ¬(type = "$this" ∧ operation.isStatic = true) ∧
      operation.name ≠ "__construct" := by
  have bare : givenBody (concrete operation) = .empty := rfl
  have named : (concrete operation).name = operation.name := rfl
  have scope : (concrete operation).isStatic = operation.isStatic := rfl
  have result : rendering.resultType? (concrete operation) = rendering.resultType? operation := rfl
  rw [declaresVoid_iff declares, bare, returnsValue_placeholder, result, named, scope]
  constructor
  · rintro ⟨⟨called, void⟩, type, typed, known, object⟩
    rw [typed] at void
    exact ⟨type, typed, known, void, object, called⟩
  · rintro ⟨type, typed, known, void, object, called⟩
    rw [typed]
    exact ⟨⟨called, void⟩, type, rfl, known, object⟩

theorem not_declaresVoid_tagged {tag : String} {method : StereotypeMethod}
    (called : stereotypeMethod? tag = some method) (classifier : Classifier) :
    ¬DeclaresVoid rendering owner (method.operation classifier) := by
  rw [declaresVoid_iff declares]
  exact fun void => trim_declaredResult_tagged called classifier void.2

/-- The conflicts are the ones listed, whatever the reason for which the class adds the method. -/
theorem conflicts_iff {method : ClassMethod} (warranted : Warranted rendering subject method)
    (synthesizes : subject.Synthesizes method) (written : method.operation? = some operation) :
    DeclaresVoid rendering owner operation ∧ ReturnsValue (rendering.methodBody operation method.specified) ↔
      VoidConflict rendering owner method := by
  constructor
  · intro conflicts
    cases warranted with
    | construction => exact absurd written nofun
    | factory declared creates =>
        cases written
        exact .factory _ ((conflicts_factory_iff declares creates).mp conflicts)
    | own declared plain =>
        cases written
        have taken : subject.classifier.declares operation.name = true :=
          List.any_eq_true.mpr ⟨_, declared, beq_self_eq_true _⟩
        exact absurd (taken.symm.trans synthesizes) nofun
    | accessor declared named isPrivate stored kind undeclared =>
        cases written
        rcases kind with rfl | rfl
        · rcases (conflicts_setter_iff declares).mp conflicts with ⟨perObject, void⟩ | ⟨shared, returns⟩
          · exact .setter _ perObject void
          · exact .staticSetter _ shared (lineFeed_mem_of_returnsValue_setter _ returns) returns
        · exact .getter _ rfl ((conflicts_getter_iff declares).mp conflicts)
    | tagged known called undeclared =>
        cases written
        exact absurd conflicts.1 (not_declaresVoid_tagged declares called _)
    | placeholder requires undeclared =>
        cases written
        obtain ⟨type, typed, known, void, object, called⟩ := (conflicts_placeholder_iff declares).mp conflicts
        exact .placeholder _ typed known void object called
  · intro conflict
    cases conflict with
    | getter member typed void =>
        cases written
        exact (conflicts_getter_iff declares).mpr (typed ▸ void)
    | setter member perObject void =>
        cases written
        exact (conflicts_setter_iff declares).mpr (.inl ⟨perObject, void⟩)
    | staticSetter member shared broken returns =>
        cases written
        exact (conflicts_setter_iff declares).mpr (.inr ⟨shared, returns⟩)
    | factory creator void =>
        cases written
        cases warranted with
        | factory declared creates => exact (conflicts_factory_iff declares creates).mpr void
    | placeholder required typed known void object called =>
        cases written
        exact (conflicts_placeholder_iff declares).mpr ⟨_, typed, known, void, object, called⟩

end Declared

/-- Declared results against bodies. A class writes each method that it adds, and each factory, with a signature
    that ends in the declaration of the result, and with a body. The result is declared void and the body returns
    a value exactly in these cases: for a getter whose type is void; for a setter that returns its object, in a
    class whose name is that word; for the setter of a static attribute whose name is broken into lines so that one
    of them returns a value; for a factory whose result is void or not given; and for a placeholder whose type is
    void but for blanks around that word, or again the object of such a class. It never happens for the methods of
    tags, nor for a placeholder without a result or of type void. -/
theorem void_methods_return_values_iff (found : Subject.find? rendering.model id = some subject)
    (declares : rendering.options.returnTypes = true) {method : ClassMethod}
    (added : method ∈ rendering.classMethods subject) (synthesizes : subject.Synthesizes method)
    (written : method.operation? = some operation) (called : operation.name ≠ "")
    (implemented : operation.isAbstract = false) :
    (∀ nested, (rendering.classMethod subject method).Within (rendering.classDeclaration subject nested)) ∧
    rendering.classMethod subject method =
      rendering.docBlock (rendering.methodDoc operation) ++
        .importing (rendering.signatureImports operation {}) ++
        .block (rendering.signature subject.element.name operation {})
          (rendering.methodBody operation method.specified) ∧
    (∃ words, rendering.signature subject.element.name operation {} =
      words ++ ("function " ++ operation.name ++ "(" ++
        ", ".intercalate (operation.arguments.map rendering.parameter) ++ ")" ++
          rendering.resultDeclaration subject.element.name operation)) ∧
    (DeclaresVoid rendering subject.element.name operation ∧
        ReturnsValue (rendering.methodBody operation method.specified) ↔
      VoidConflict rendering subject.element.name method) := by
  obtain ⟨same, -, real⟩ := eq_of_find? found
  rw [← same] at real
  have layout : rendering.classMethod subject method =
      rendering.method subject.element.name operation method.specified {} := by
    cases method with
    | defaultConstructor => cases written
    | factory | ordinary =>
        cases written
        rfl
  have warranted := (mem_classMethods_iff real).mp added
  refine ⟨fun nested => classMethod_within added, ?_, exists_signature rendering _ operation, ?_⟩
  · rw [layout, method_eq called, implemented]
    rfl
  · exact conflicts_iff declares warranted synthesizes written

/-- An account has a private balance without a type, and a factory without a result. -/
def account : Model where
  author? := none
  elements := #[
    { id := 0, name := "Project", parent? := none, owned := [1], content := .model },
    { id := 1, name := "Account", parent? := some 0,
      content := .classifier .classType { attributes := [balance], operations := [opening] } }]
  relationships := []
  keys := []
where
  /-- What is in the account. -/
  balance : Attribute := { name := "balance", visibility := .priv }
  /-- An account with something in it. -/
  opening : Operation := { name := "createWithBalance", isStatic := true, parameters := [{ name := "balance" }] }

/-- The balance is returned by a getter that is declared void, and the factory is declared void and returns the
    account; the setter is declared to return the account, and does so. -/
theorem void_methods_return_values_iff_account :
    let rendering := renderingIn account { returnTypes := true } ""
    ∃ subject, Subject.find? account 1 = some subject ∧
      (DeclaresVoid rendering "Account" (getter account.balance) ∧
        ReturnsValue (rendering.methodBody (getter account.balance) (givenBody (getter account.balance)))) ∧
      (DeclaresVoid rendering "Account" account.opening ∧
        ReturnsValue (rendering.methodBody account.opening (chainFragment account.opening))) ∧
      ¬DeclaresVoid rendering "Account" (setter account.balance) := by
  intro rendering
  let subject : Subject :=
    ⟨1, { id := 1, name := "Account", parent? := some 0,
          content := .classifier .classType
            { attributes := [account.balance], operations := [account.opening] } },
      { attributes := [account.balance], operations := [account.opening] }⟩
  have found : Subject.find? rendering.model 1 = some subject := rfl
  have methods : rendering.classMethods subject =
      [.defaultConstructor, .factory account.opening, .ordinary (setter account.balance),
        .ordinary (getter account.balance)] := by
    decide +kernel
  have declares : rendering.options.returnTypes = true := rfl
  have conflicts {method : ClassMethod} {operation : Operation} (added : method ∈ rendering.classMethods subject)
      (synthesizes : subject.Synthesizes method) (written : method.operation? = some operation)
      (called : operation.name ≠ "") (implemented : operation.isAbstract = false) :
      DeclaresVoid rendering "Account" operation ∧ ReturnsValue (rendering.methodBody operation method.specified) ↔
        VoidConflict rendering "Account" method :=
    (void_methods_return_values_iff found declares added synthesizes written called implemented).2.2.2
  have undeclared : subject.classifier.declares (getter account.balance).name = false := by decide +kernel
  refine ⟨subject, found, ?_, ?_, ?_⟩
  · have added : .ordinary (getter account.balance) ∈ rendering.classMethods subject := by simp [methods]
    exact (conflicts added undeclared rfl (by decide +kernel) rfl).mpr (.getter _ rfl (by decide +kernel))
  · have added : .factory account.opening ∈ rendering.classMethods subject := by simp [methods]
    exact (conflicts added trivial rfl (by decide +kernel) rfl).mpr (.factory _ (by decide +kernel))
  · rw [declaresVoid_iff declares]
    decide +kernel

end Blueprint.Php

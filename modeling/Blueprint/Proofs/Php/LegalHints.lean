/-
Module: Blueprint.Proofs.Php.LegalHints
Purpose: Which hints are names of types that a parameter may have. A hint is no choice and has at most one separator,
  whatever the type; but the type is looked at before it is shortened and after the word for the object itself has
  been replaced. So a hint is legal unless the type is that word, or is shortened to a type that is not accepted as
  a hint, or the model calls an element like a variable.
Main exports: TypeName, LegalHint, HintBreaks, legalHint_iff, strict_hints_legal_iff
-/
import Blueprint.Proofs.Php.Accessors
import Blueprint.Proofs.Php.Name

namespace Blueprint.Php

/-! ### Names of types -/

/-- A character of an identifier, or one that stands between two. -/
def isTypeCharacter (c : Char) : Bool :=
  c.isAlphanum || c == '_' || 0x80 ≤ c.toNat || c == separatorChar || c == '|'

/-- A name as types are given in a document: whatever is made of identifiers, separators and bars. -/
def TypeName (name : String) : Prop :=
  name.toList.all isTypeCharacter = true

instance (name : String) : Decidable (TypeName name) :=
  inferInstanceAs (Decidable (name.toList.all isTypeCharacter = true))

/-- The text is written like a variable. -/
def LooksVariable (text : String) : Prop :=
  text.toList.head? = some '$'

instance (text : String) : Decidable (LooksVariable text) :=
  inferInstanceAs (Decidable (text.toList.head? = some '$'))

/-- A hint that is the name of a type: not a type that is not accepted, no choice, of at most two segments, and no
    variable. -/
structure LegalHint (hint : String) : Prop where
  accepted : hint ∉ unhintableTypes
  one : '|' ∉ hint.toList
  short : separatorCount hint ≤ 1
  type : ¬LooksVariable hint

/-! ### Hints -/

/-- The text of a hint for a type. -/
def shortened (type : String) : String :=
  if separatorCount type > 1 then lastPart type else type

theorem text_hintFor (namespaceName type : String) : (hintFor namespaceName type).text = shortened type := by
  rw [hintFor, shortened]
  split <;> rfl

theorem mem_of_mem_shortened {c : Char} {type : String} (member : c ∈ (shortened type).toList) : c ∈ type.toList := by
  unfold shortened at member
  split at member
  · rw [lastPart, String.toList_ofList, List.mem_reverse] at member
    exact List.mem_reverse.mp (List.takeWhile_subset _ member)
  · exact member

theorem separatorCount_shortened (type : String) : separatorCount (shortened type) ≤ 1 := by
  unfold shortened
  split
  · have none : separatorCount (lastPart type) = 0 := List.count_eq_zero.mpr (not_segmented_lastSegment type)
    omega
  · omega

/-- What breaks the hint for a parameter, given how its type is written. -/
inductive HintBreaks (scope : Scope) (parameter : Parameter) : Prop where
  | itself (declared : scope.memberType parameter.shape .code false = "object")
  | scalar (deep : 1 < separatorCount (scope.memberType parameter.shape .code false))
      (last : lastPart (scope.memberType parameter.shape .code false) ∈ unhintableTypes)
  | variable {id : ElementId} (typed : parameter.type = .element id)
      (declared : scope.memberType parameter.shape .code false = scope.seen id)
      (looks : LooksVariable (shortened (scope.seen id)))

variable {rendering : Rendering} {operation : Operation} {parameter : Parameter}

/-- In code a type is that of one value, or a word of its own. -/
theorem memberType_cases (scope : Scope) (parameter : Parameter) :
    scope.memberType parameter.shape .code false ∈ ["void", "array"] ∨
      (∃ id, parameter.type = .element id ∧ scope.memberType parameter.shape .code false = scope.seen id) ∨
      ∃ name, parameter.type = .primitive name ∧ scope.memberType parameter.shape .code false = name := by
  have value : scope.valueType parameter.shape false = "void" ∨
      (∃ id, parameter.type = .element id ∧ scope.valueType parameter.shape false = scope.seen id) ∨
      ∃ name, parameter.type = .primitive name ∧ scope.valueType parameter.shape false = name := by
    have shaped : parameter.shape.type = parameter.type := rfl
    unfold Scope.valueType
    rw [shaped]
    cases parameter.type with
    | element id => by_cases unnamed : (scope.model.nameOf id).isEmpty = true <;> simp [unnamed]
    | primitive name => by_cases blank : Text.isBlankText name = true <;> simp [blank]
    | untyped => exact .inl rfl
  have member : scope.memberType parameter.shape .code false = "array" ∨
      scope.memberType parameter.shape .code false = scope.valueType parameter.shape false := by
    unfold Scope.memberType
    dsimp only
    split_ifs <;> simp [Scope.collectionOf]
  rcases member with same | same
  · exact .inl (by simp [same])
  · rw [same]
    exact value.imp_left fun void => by simp [void]

/-- A hint is the shortened type, which is no choice and is accepted as a hint. -/
theorem hint?_eq_some {hint : Hint} (hinted : rendering.hint? parameter = some hint) :
    hint.text = shortened (rendering.typeText parameter.shape .code false) ∧
      '|' ∉ (rendering.typeText parameter.shape .code false).toList ∧
      rendering.typeText parameter.shape .code false ∉ unhintableTypes := by
  unfold Rendering.hint? at hinted
  split at hinted
  · cases hinted
  · dsimp only at hinted
    split at hinted
    · cases hinted
    · rename_i allowed
      rw [← Option.some.inj hinted, text_hintFor]
      simpa [isHintable] using allowed

/-- Where a type is hinted, the hint is legal if and only if nothing breaks it. -/
theorem legalHint_iff {hint : Hint} (hinted : rendering.hint? parameter = some hint)
    (plain : ∀ name, parameter.type = .primitive name → TypeName name) :
    LegalHint hint.text ↔ ¬HintBreaks rendering.toScope parameter := by
  obtain ⟨text, one, accepted⟩ := hint?_eq_some hinted
  have typed := typeText_some rendering.toScope parameter.shape .code false
  rw [text]
  by_cases itself : rendering.memberType parameter.shape .code false = "object"
  · -- the word is replaced by that for the variable
    rw [typed, if_pos itself]
    refine iff_of_false (fun legal => legal.type (by decide)) (not_not.mpr (.itself itself))
  · rw [if_neg itself] at typed
    rw [typed] at one accepted ⊢
    constructor
    · rintro legal (declared | ⟨deep, last⟩ | ⟨given, declared, looks⟩)
      · exact itself declared
      · rw [shortened, if_pos deep] at legal
        exact legal.accepted last
      · rw [declared] at legal
        exact legal.type looks
    · intro unbroken
      refine ⟨?_, fun member => one (mem_of_mem_shortened member), separatorCount_shortened _, ?_⟩
      · intro rejected
        unfold shortened at rejected
        split at rejected
        · rename_i deep
          exact unbroken (.scalar deep rejected)
        · exact accepted rejected
      · intro looks
        rcases memberType_cases rendering.toScope parameter with
          word | ⟨id, given, declared⟩ | ⟨name, given, declared⟩
        · simp only [List.mem_cons, List.not_mem_nil, or_false] at word
          rcases word with word | word <;> rw [word] at looks <;> exact absurd looks (by decide)
        · exact unbroken (.variable given declared (declared ▸ looks))
        · have dollar : '$' ∈ name.toList := by
            rw [declared] at looks
            exact mem_of_mem_shortened (List.mem_of_mem_head? looks)
          exact absurd (List.all_eq_true.mp (plain name given) '$' dollar) (by decide)

/-! ### Hints in a signature -/

/-- Hints in strict mode. A method with parameters writes a signature in which each parameter has, before its name,
    nothing or a hint: never a choice, and of at most two segments. The hint is legal if and only if the type is not
    the word for the object itself, is not shortened to a type that is not accepted as a hint, and is no element with
    a name like that of a variable. -/
theorem strict_hints_legal_iff (rendering : Rendering) (strict : rendering.options.strictTypes = true)
    (plain : ∀ parameter ∈ operation.parameters, ∀ name, parameter.type = .primitive name → TypeName name)
    (called : operation.name ≠ "") (style : SignatureStyle) (whole : style.withParameters = true) (owner : String)
    (specified : Fragment) :
    (∃ words, ∃ ending ∈ ["", ";"], Fragment.Within (.ofText (words ++ ("function " ++ operation.name ++ "(" ++
        ", ".intercalate (operation.arguments.map fun parameter =>
          rendering.beforeName parameter ++ parameterName .code parameter.name ++ afterName parameter) ++ ")" ++
        rendering.resultDeclaration owner operation) ++ ending)) (rendering.method owner operation specified style)) ∧
    ∀ parameter ∈ operation.arguments, ∃ type, type = rendering.typeText parameter.shape .code false ∧
      (rendering.beforeName parameter = "" ∧ ('|' ∈ type.toList ∨ type ∈ unhintableTypes) ∨
        ∃ hint, rendering.beforeName parameter = hint ++ " " ∧ hint = shortened type ∧
          '|' ∉ hint.toList ∧ separatorCount hint ≤ 1 ∧
          (LegalHint hint ↔ ¬HintBreaks rendering.toScope parameter)) := by
  constructor
  · have holds : HoldsSignature rendering owner operation (rendering.method owner operation specified style) :=
      holdsSignature_method called whole specified
    obtain ⟨ending, known, within⟩ := holds.text
    obtain ⟨words, signature⟩ := exists_signature rendering owner operation
    rw [signature, List.map_congr_left fun parameter _ => parameter_parts rendering parameter] at within
    exact ⟨words, ending, known, within⟩
  · intro parameter taken
    refine ⟨_, rfl, ?_⟩
    cases hinted : rendering.hint? parameter with
    | none =>
        refine .inl ⟨by simp [Rendering.beforeName, hinted], ?_⟩
        unfold Rendering.hint? at hinted
        simp only [strict, Bool.not_true, Bool.false_eq_true, if_false] at hinted
        split at hinted
        · rename_i closed
          simpa [isHintable] using closed
        · cases hinted
    | some hint =>
        obtain ⟨text, one, -⟩ := hint?_eq_some hinted
        refine .inr ⟨hint.text, by simp [Rendering.beforeName, hinted], text, ?_, ?_, ?_⟩
        · rw [text]
          exact fun member => one (mem_of_mem_shortened member)
        · rw [text]
          exact separatorCount_shortened _
        · exact legalHint_iff hinted (plain parameter (List.mem_of_mem_filter taken))

/-- An operation that takes the object itself, a type that is called like one of the language, and an order. -/
def routing : Operation where
  name := "route"
  parameters := [
    { name := "x", type := .primitive "object" },
    { name := "y", type := .primitive "App\\Text\\string" },
    { name := "z", type := .primitive "Order" }]

/-- The first hint is written like a variable, and the second one is no longer the type that was looked at. -/
theorem strict_hints_routing :
    routing.arguments.map (renderingIn default { strictTypes := true } "").beforeName =
      ["$this ", "string ", "Order "] ∧
    ¬LegalHint "$this" ∧ ¬LegalHint "string" ∧ LegalHint "Order" := by
  let rendering := renderingIn default { strictTypes := true } ""
  have plain : ∀ parameter ∈ routing.parameters, ∀ name, parameter.type = .primitive name → TypeName name := by
    intro parameter member name given
    simp only [routing, List.mem_cons, List.not_mem_nil, or_false] at member
    rcases member with rfl | rfl | rfl <;> cases given <;> decide
  obtain ⟨-, hints⟩ :=
    strict_hints_legal_iff rendering rfl plain (by decide) {} rfl "Router" .empty
  have legal : ∀ parameter ∈ routing.arguments, ∀ hint, rendering.beforeName parameter ≠ "" →
      shortened (rendering.typeText parameter.shape .code false) = hint →
      (LegalHint hint ↔ ¬HintBreaks rendering.toScope parameter) := by
    intro parameter taken hint hinted short
    obtain ⟨type, typed, none | ⟨found, -, text, -, -, legal⟩⟩ := hints parameter taken
    · exact absurd none.1 hinted
    · rw [← short, ← typed, ← text]
      exact legal
  refine ⟨by decide +kernel, ?_, ?_, ?_⟩
  · rw [legal { name := "x", type := .primitive "object" } (by decide) "$this" (by decide +kernel)
      (by decide +kernel)]
    exact not_not.mpr (.itself (by decide +kernel))
  · rw [legal { name := "y", type := .primitive "App\\Text\\string" } (by decide) "string" (by decide +kernel)
      (by decide +kernel)]
    exact not_not.mpr (.scalar (by decide +kernel) (by decide +kernel))
  · rw [legal { name := "z", type := .primitive "Order" } (by decide) "Order" (by decide +kernel)
      (by decide +kernel)]
    rintro (declared | ⟨deep, -⟩ | ⟨given, -, -⟩)
    · exact absurd declared (by decide +kernel)
    · exact absurd deep (by decide +kernel)
    · cases given

end Blueprint.Php

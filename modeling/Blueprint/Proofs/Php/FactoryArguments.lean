/-
Module: Blueprint.Proofs.Php.FactoryArguments
Purpose: The variables in a factory. The list of parameters has the names as they are given, while the calls of
  the setters pass them in camel case. A call passes the variable of its parameter exactly if the name is in
  camel case already; otherwise what it passes is a parameter of the factory only if another parameter happens
  to be called so.
Main exports: InCamelCase, camelize_eq_iff, variableOf, passedFor, parameter_eq,
  factory_passes_names_in_camel_case
-/
import Blueprint.Proofs.Php.Factory
import Blueprint.Proofs.Php.Signature
import Blueprint.Proofs.Php.Writing
import Blueprint.Proofs.Text.Words

namespace Blueprint.Php

open Text

variable {operation : Operation} {parameter : Parameter} {name : String} {cs : List Char}

/-! ### Names in camel case -/

/-- The name of a variable is in camel case: but for spaces around it, it has no separators and no ampersand, and
    its first character is not changed by lower case. -/
structure InCamelCase (name : String) : Prop where
  solid : ∀ c ∈ stripBlank name.toList, isWordSeparator c = false ∧ c ≠ '&'
  spaced : ∃ before behind, name.toList =
    List.replicate before ' ' ++ stripBlank name.toList ++ List.replicate behind ' '
  lowered : ∀ c ∈ (stripBlank name.toList).head?, lowerCase c = [c]

section Same

variable (same : camelWords .lower (words cs) = (stripBlank cs).filter (· != '&')) {c : Char}

include same

/-- Characters without case are as many in the name as between the blanks at its ends, but for the ones that are
    left out. -/
theorem count_of_camelWords_eq (caseless : IsCaseless c) :
    (cs.filter (!isWordSeparator ·)).count c = ((stripBlank cs).filter (· != '&')).count c := by
  rw [← same, caseless.count_camelWords, flatten_words]

/-- There are no separators between the blanks, and no ampersands. -/
theorem solid_of_camelWords_eq (member : c ∈ stripBlank cs) : isWordSeparator c = false ∧ c ≠ '&' := by
  constructor
  · by_contra separates
    rw [Bool.not_eq_false] at separates
    have counted := count_of_camelWords_eq same (isCaseless_of_isWordSeparator separates)
    have dropped : (cs.filter (!isWordSeparator ·)).count c = 0 := by simp [List.count_eq_zero, separates]
    have other : c ≠ '&' := by
      rintro rfl
      exact absurd separates (by decide)
    have kept : c ∈ (stripBlank cs).filter (· != '&') := List.mem_filter.mpr ⟨member, by simpa using other⟩
    exact List.count_eq_zero.mp (counted ▸ dropped) kept
  · rintro rfl
    have counted := count_of_camelWords_eq same (c := '&') (by decide +kernel)
    have dropped : ((stripBlank cs).filter (· != '&')).count '&' = 0 := by simp [List.count_eq_zero]
    have kept : '&' ∈ cs.filter (!isWordSeparator ·) :=
      List.mem_filter.mpr ⟨mem_of_mem_stripBlank member, by decide⟩
    exact List.count_eq_zero.mp (counted.trans dropped) kept

/-- The blanks at the ends of the name are spaces. -/
theorem eq_space_of_camelWords_eq {front back : List Char} (around : cs = front ++ stripBlank cs ++ back)
    (blank : isBlank c = true) (outside : c ∈ front ∨ c ∈ back) : c = ' ' := by
  by_contra other
  have word : isWordSeparator c = false := by
    rw [isWordSeparator]
    simp only [Bool.or_eq_false_iff, beq_eq_false_iff_ne]
    refine ⟨⟨?_, ?_⟩, other⟩ <;>
      · rintro rfl
        exact absurd blank (by decide)
  have passes : c ≠ '&' := by
    rintro rfl
    exact absurd blank (by decide)
  have counted := count_of_camelWords_eq same (isCaseless_of_isBlank blank)
  rw [List.count_filter (by simp [word]), List.count_filter (by simpa using passes)] at counted
  nth_rewrite 1 [around] at counted
  rw [List.count_append, List.count_append] at counted
  have none : front.count c = 0 ∧ back.count c = 0 := by omega
  rcases outside with before | behind
  · exact List.count_eq_zero.mp none.1 before
  · exact List.count_eq_zero.mp none.2 behind

end Same

/-- Camel case leaves the characters of a name as they are, but for the blanks at its ends and the ampersands,
    exactly if the name is in camel case. -/
theorem camelWords_eq_iff : camelWords .lower (words name.toList) = (stripBlank name.toList).filter (· != '&') ↔
    InCamelCase name := by
  have firstOnly (spaced : ∃ before behind, name.toList =
      List.replicate before ' ' ++ stripBlank name.toList ++ List.replicate behind ' ')
      (solid : ∀ c ∈ stripBlank name.toList, isWordSeparator c = false ∧ c ≠ '&') :
      camelWords .lower (words name.toList) = leadWith .lower (stripBlank name.toList) := by
    obtain ⟨before, behind, around⟩ := spaced
    have spaces (count : Nat) : ∀ c ∈ List.replicate count ' ', isWordSeparator c = true := by
      intro c member
      rw [List.eq_of_mem_replicate member]
      rfl
    conv_lhs => rw [around]
    rw [words_surrounded (spaces before) (spaces behind), camelWords_of_solid .lower fun c member => (solid c member).1]
  have unmarked (solid : ∀ c ∈ stripBlank name.toList, isWordSeparator c = false ∧ c ≠ '&') :
      (stripBlank name.toList).filter (· != '&') = stripBlank name.toList :=
    List.filter_eq_self.mpr fun c member => by simpa using (solid c member).2
  constructor
  · intro same
    have solid := fun c member => solid_of_camelWords_eq same (c := c) member
    obtain ⟨front, back, around, blankFront, blankBack⟩ := exists_around_stripBlank name.toList
    have spaced : ∃ before behind, name.toList =
        List.replicate before ' ' ++ stripBlank name.toList ++ List.replicate behind ' ' := by
      have spacesFront := List.eq_replicate_of_mem fun c member =>
        eq_space_of_camelWords_eq same around (blankFront c member) (.inl member)
      have spacesBack := List.eq_replicate_of_mem fun c member =>
        eq_space_of_camelWords_eq same around (blankBack c member) (.inr member)
      exact ⟨front.length, back.length, spacesFront ▸ spacesBack ▸ around⟩
    rw [firstOnly spaced solid, unmarked solid] at same
    exact ⟨solid, spaced, leadWith_lower_eq_self_iff.mp same⟩
  · rintro ⟨solid, spaced, lowered⟩
    rw [firstOnly spaced solid, unmarked solid]
    exact leadWith_lower_eq_self_iff.mpr lowered

/-- The characters of a variable in a doc block. -/
theorem parameterName_documentation (name : String) : parameterName .documentation name =
    "$" ++ String.ofList ((stripBlank name.toList).filter (· != '&')) := by
  simp [parameterName]

/-- A name is the same in camel case as in a list of parameters exactly if it is in camel case. -/
theorem camelize_eq_iff : "$" ++ camelize name .lower = parameterName .documentation name ↔ InCamelCase name := by
  rw [parameterName_documentation, ← camelWords_eq_iff, ← String.toList_inj]
  simp [camelize]

/-! ### Variables of a factory -/

/-- The variable that a parameter is in the signature. -/
def variableOf (parameter : Parameter) : String :=
  parameterName .documentation parameter.name

/-- The variable that a factory passes to the setter for a parameter. -/
def passedFor (parameter : Parameter) : String :=
  "$" ++ camelize parameter.name .lower

/-- The parameters that a factory passes on. -/
def inputsOf (operation : Operation) : List Parameter :=
  operation.parameters.filter (·.direction == .input)

theorem inputsOf_subset_arguments (operation : Operation) : inputsOf operation ⊆ operation.arguments := by
  intro parameter member
  obtain ⟨declared, direction⟩ := List.mem_filter.mp member
  refine List.mem_filter.mpr ⟨declared, ?_⟩
  rw [Parameter.isResult, eq_of_beq direction]
  rfl

/-- A parameter in a signature is its variable, behind the hint and perhaps an ampersand, and before the
    default. -/
theorem parameter_eq (rendering : Rendering) (parameter : Parameter) : ∃ hint value,
    (hint = "" ∨ ∃ given, rendering.hint? parameter = some given ∧ hint = given.text ++ " ") ∧
    (value = "" ∨ ∃ default, parameter.default? = some default ∧ value = " = " ++ default) ∧
    rendering.parameter parameter =
      hint ++ (if '&' ∈ (trim parameter.name).toList then "&" else "") ++ variableOf parameter ++ value := by
  have written : parameterName .code parameter.name =
      (if '&' ∈ (trim parameter.name).toList then "&" else "") ++ variableOf parameter := by
    rw [variableOf, parameterName_documentation, parameterName, toList_trim]
    by_cases marked : '&' ∈ stripBlank parameter.name.toList <;> simp [marked]
  refine ⟨rendering.beforeName parameter, afterName parameter, ?_, ?_, ?_⟩
  · unfold Rendering.beforeName
    cases hinted : rendering.hint? parameter with
    | none => exact .inl rfl
    | some hint => exact .inr ⟨hint, rfl, rfl⟩
  · unfold afterName
    cases chosen : parameter.default?.filter (!·.isEmpty) with
    | none => exact .inl rfl
    | some default => exact .inr ⟨default, Option.eq_some_of_filter_eq_some chosen, rfl⟩
  · rw [parameter_parts, written]
    simp only [String.append_assoc]

/-- What is passed is a variable of the signature exactly if the name is in camel case or another parameter is
    called so. -/
theorem passedFor_mem_iff (member : parameter ∈ operation.arguments) :
    passedFor parameter ∈ operation.arguments.map variableOf ↔
      InCamelCase parameter.name ∨
        ∃ other ∈ operation.arguments, other.name ≠ parameter.name ∧ variableOf other = passedFor parameter := by
  rw [← camelize_eq_iff, List.mem_map]
  constructor
  · rintro ⟨other, taken, same⟩
    by_cases called : other.name = parameter.name
    · left
      rw [variableOf, called] at same
      exact same.symm
    · exact .inr ⟨other, taken, called, same⟩
  · rintro (own | ⟨other, taken, -, same⟩)
    · exact ⟨parameter, member, own.symm⟩
    · exact ⟨other, taken, same⟩

/-- The calls in the body of a factory, one for each parameter that it passes on. -/
theorem withFactoryBody_body (indentation : String) (operation : Operation) :
    (withFactoryBody indentation operation).body =
      "return self::create()" ++ String.join ((inputsOf operation).map fun parameter =>
        "\n" ++ indentation ++ "->set" ++ camelize parameter.name .upper ++ "(" ++ passedFor parameter ++ ")") ++
        ";" := by
  have call (parameter : Parameter) : "\n" ++ indentation ++ setterCall parameter =
      "\n" ++ indentation ++ "->set" ++ camelize parameter.name .upper ++ "(" ++ passedFor parameter ++ ")" := by
    have opening : "($" = "(" ++ "$" := rfl
    simp only [setterCall, passedFor, opening, String.append_assoc]
  change chainText indentation operation = _
  rw [chainText_eq]
  simp only [call, inputsOf]

/-- The method of a factory has the statement as its body, with the epilogue behind it. -/
theorem factoryMethod_eq (rendering : Rendering) (owner : String) (called : operation.name ≠ "") :
    rendering.factoryMethod owner operation =
      rendering.docBlock (rendering.methodDoc operation) ++
        .importing (rendering.signatureImports operation {}) ++
        if operation.isAbstract then .ofText (rendering.signature owner operation {} ++ ";")
        else .block (rendering.signature owner operation {})
          (chainFragment operation ++ rendering.epilogue operation) := by
  rw [Rendering.factoryMethod, method_eq called, methodBody_eq (lines_chainFragment_ne_nil operation)]

/-- Variables in factories. The method of a factory is that of its operation with a body of one statement, which
    calls one setter for each input parameter, in the order of the parameters. The signature lists all arguments,
    each with its hint, a mark if it is passed by reference, its variable and its default. What a call passes is
    the variable of its parameter exactly if the name of that parameter is in camel case; if it is not, what is
    passed is a variable of the signature only if another argument is called so. -/
theorem factory_passes_names_in_camel_case (rendering : Rendering) (owner : String)
    (factory : isFactory operation = true) :
    (∀ unit : SourceUnit, unit.indentUnit = rendering.options.indent.unit →
      unit.emit (rendering.factoryMethod owner operation) =
        unit.emit (rendering.operationMethod owner (withFactoryBody unit.indentUnit operation) {})) ∧
    rendering.factoryMethod owner operation =
      rendering.docBlock (rendering.methodDoc operation) ++
        .importing (rendering.signatureImports operation {}) ++
        (if operation.isAbstract then .ofText (rendering.signature owner operation {} ++ ";")
        else .block (rendering.signature owner operation {})
          (chainFragment operation ++ rendering.epilogue operation)) ∧
    (∀ indentation, (withFactoryBody indentation operation).body =
      "return self::create()" ++ String.join ((inputsOf operation).map fun parameter =>
        "\n" ++ indentation ++ "->set" ++ camelize parameter.name .upper ++ "(" ++ passedFor parameter ++ ")") ++
        ";") ∧
    (∃ words, rendering.signature owner operation {} =
      words ++ ("function " ++ operation.name ++ "(" ++
        ", ".intercalate (operation.arguments.map rendering.parameter) ++ ")" ++
          rendering.resultDeclaration owner operation)) ∧
    (∀ argument ∈ operation.arguments, ∃ hint value,
      (hint = "" ∨ ∃ given, rendering.hint? argument = some given ∧ hint = given.text ++ " ") ∧
      (value = "" ∨ ∃ default, argument.default? = some default ∧ value = " = " ++ default) ∧
      rendering.parameter argument =
        hint ++ (if '&' ∈ (trim argument.name).toList then "&" else "") ++ variableOf argument ++ value) ∧
    ∀ parameter ∈ inputsOf operation,
      (passedFor parameter = variableOf parameter ↔ InCamelCase parameter.name) ∧
      (passedFor parameter ∈ operation.arguments.map variableOf ↔
        InCamelCase parameter.name ∨
          ∃ other ∈ operation.arguments, other.name ≠ parameter.name ∧ variableOf other = passedFor parameter) := by
  have called : operation.name ≠ "" := by
    intro empty
    rw [isFactory, empty] at factory
    exact absurd factory (by decide)
  refine ⟨?_, factoryMethod_eq rendering owner called, fun indentation => withFactoryBody_body _ _,
    exists_signature rendering owner operation, fun argument _ => parameter_eq rendering argument, ?_⟩
  · intro unit indented
    have single := lineFeed_not_mem_unit rendering.options.indent
    rw [← indented] at single
    exact emit_factoryMethod single rendering owner operation
  · intro parameter passed
    exact ⟨camelize_eq_iff, passedFor_mem_iff (inputsOf_subset_arguments operation passed)⟩

/-- A factory with a parameter of two words, one in camel case and one that is passed by reference. -/
def personFactory : Operation where
  name := "createWithNames"
  isStatic := true
  parameters := [
    { name := "first_name", type := .primitive "string" },
    { name := "lastName", type := .primitive "string" },
    { name := "&tags" },
    .returning (.primitive "create")]

/-- A person, who is created by the factory. -/
def person : Model where
  author? := none
  elements := #[
    { id := 0, name := "Project", parent? := none, owned := [1], content := .model },
    { id := 1, name := "Person", parent? := some 0,
      content := .classifier .classType { operations := [personFactory] } }]
  relationships := []
  keys := []

/-- The first name is passed by a variable that the signature does not have, and so are the tags; the last name is
    passed. -/
theorem factory_passes_names_in_camel_case_person : isFactory personFactory = true ∧
    (withFactoryBody "  " personFactory).body =
      "return self::create()\n  ->setFirstName($firstName)\n  ->setLastName($lastName)\n  ->set&tags($&tags);" ∧
    (∃ words, (renderingIn person {} "").signature "Person" personFactory {} =
      words ++ "function createWithNames($first_name, $lastName, &$tags)") ∧
    personFactory.arguments.map variableOf = ["$first_name", "$lastName", "$tags"] ∧
    ¬InCamelCase "first_name" ∧ ¬InCamelCase "&tags" ∧ InCamelCase "lastName" ∧
    "$firstName" ∉ personFactory.arguments.map variableOf ∧ "$&tags" ∉ personFactory.arguments.map variableOf ∧
    "$lastName" ∈ personFactory.arguments.map variableOf := by
  have factory : isFactory personFactory = true := by decide +kernel
  obtain ⟨-, -, body, ⟨words, signature⟩, -, passes⟩ :=
    factory_passes_names_in_camel_case (renderingIn person {} "") "Person" factory
  have called : personFactory.arguments.map variableOf = ["$first_name", "$lastName", "$tags"] := by
    decide +kernel
  have inputs : inputsOf personFactory = personFactory.arguments := by decide +kernel
  have camel (name : String) (passed : name ∈ personFactory.arguments.map Parameter.name) :
      InCamelCase name ↔ "$" ++ camelize name .lower = parameterName .documentation name := by
    obtain ⟨parameter, taken, rfl⟩ := List.mem_map.mp passed
    exact (passes parameter (inputs ▸ taken)).1.symm
  refine ⟨factory, (body "  ").trans (by decide +kernel), ⟨words, signature.trans (congrArg _ (by decide +kernel))⟩,
    called, ?_, ?_, ?_, ?_⟩
  · rw [camel _ (by decide +kernel)]
    decide +kernel
  · rw [camel _ (by decide +kernel)]
    decide +kernel
  · rw [camel _ (by decide +kernel)]
    decide +kernel
  · rw [called]
    decide

end Blueprint.Php

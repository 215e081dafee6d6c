/-
Module: Blueprint.Proofs.Php.SetterNames
Purpose: The names under which a factory calls setters. A setter has its name from an attribute, and a call has it
  from a parameter, each by way of camel case. Camel case drops the separators of words and keeps the rest of an
  ASCII name but for the case of letters; taken again it gives what it would have given at first. So a parameter
  that is called as an attribute is in camel case calls the setter of that attribute.
Main exports: setterCall_eq, exists_setterCall, camelize_stable
-/
import Blueprint.Proofs.Php.Accessors
import Blueprint.Proofs.Php.FactoryArguments

namespace Blueprint.Php

open Text

variable {name : String} {leading : LeadingCase} {operation : Operation} {parameter : Parameter} {member : Attribute}

/-- The call for a parameter that is called as an attribute is in camel case. -/
theorem setterCall_eq (ascii : IsAscii member.name) (called : parameter.name = camelize member.name leading) :
    setterCall parameter = "->" ++ (setter member).name ++ "($" ++ camelize member.name .lower ++ ")" := by
  have arrow : "->set" = "->" ++ "set" := rfl
  have setterName : (setter member).name = "set" ++ camelize member.name .upper := rfl
  rw [setterCall, called, camelize_camelize ascii, camelize_camelize ascii, setterName, arrow]
  simp only [String.append_assoc]

/-- The call for a parameter stands on a line of the body. -/
theorem exists_setterCall (passed : parameter ∈ inputsOf operation) (indentation : String) :
    ∃ before after, (withFactoryBody indentation operation).body =
      before ++ "\n" ++ indentation ++ setterCall parameter ++ after := by
  obtain ⟨earlier, later, inputs⟩ := List.append_of_mem passed
  have body : (withFactoryBody indentation operation).body = "return self::create()" ++
      String.join ((inputsOf operation).map fun parameter => "\n" ++ indentation ++ setterCall parameter) ++ ";" :=
    chainText_eq indentation operation
  rw [body, inputs, List.map_append, List.map_cons, String.join_append, String.join_cons]
  refine ⟨"return self::create()" ++
    String.join (earlier.map fun parameter => "\n" ++ indentation ++ setterCall parameter),
    String.join (later.map fun parameter => "\n" ++ indentation ++ setterCall parameter) ++ ";", ?_⟩
  simp only [String.append_assoc]

/-- Camel case is stable. In camel case an ASCII name has no separators of words; but for the case of letters it is
    the name without its separators; and camel case taken again gives what it gives for the name itself, whichever
    case the first word has either time. So let a parameter be called as an attribute of that name is in camel
    case. A factory that has the parameter as an input calls the setter of the attribute for it, on a line of its
    body, and passes a variable of the name that the setter has for its value. -/
theorem camelize_stable (ascii : IsAscii name) (leading again : LeadingCase) :
    (∀ c ∈ (camelize name leading).toList, c ≠ '_' ∧ c ≠ '-' ∧ c ≠ ' ') ∧
    camelize (camelize name leading) again = camelize name again ∧
    (camelize name leading).toList.map Char.toLower =
      (name.toList.filter fun c => c ≠ '_' ∧ c ≠ '-' ∧ c ≠ ' ').map Char.toLower ∧
    ∀ (member : Attribute) (operation : Operation), member.name = name →
      ∀ parameter ∈ inputsOf operation, parameter.name = camelize name leading →
        (setter member).arguments.map Parameter.name = [camelize name .lower] ∧
        ∀ indentation, ∃ before after, (withFactoryBody indentation operation).body =
          before ++ "\n" ++ indentation ++
            ("->" ++ (setter member).name ++ "($" ++ camelize name .lower ++ ")") ++ after := by
  have separator (c : Char) : isWordSeparator c = false ↔ c ≠ '_' ∧ c ≠ '-' ∧ c ≠ ' ' := by
    simp [isWordSeparator, and_assoc]
  refine ⟨fun c member => (separator c).mp (isWordSeparator_of_mem_camelize member),
    camelize_camelize ascii leading again, ?_, ?_⟩
  · have kept : (fun c => !isWordSeparator c) = fun c => decide (c ≠ '_' ∧ c ≠ '-' ∧ c ≠ ' ') := by
      funext c
      rw [Bool.eq_iff_iff, Bool.not_eq_true', separator, decide_eq_true_iff]
    rw [map_toLower_camelize ascii, kept]
  · rintro member operation rfl parameter passed called
    constructor
    · rw [arguments_setter]
      rfl
    · intro indentation
      rw [← setterCall_eq ascii called]
      exact exists_setterCall passed indentation

/-- The family name of a person, in words of its own. -/
def familyName : Attribute :=
  { name := "last_name", type := .primitive "string", visibility := .priv }

/-- The parameter for the family name calls its setter. -/
theorem camelize_stable_familyName :
    IsAscii "last_name" ∧ camelize "last_name" .lower = "lastName" ∧ camelize "lastName" .upper = "LastName" ∧
      (setter familyName).name = "setLastName" ∧
      ∃ before after, (withFactoryBody "  " personFactory).body =
        before ++ "\n  ->setLastName($lastName)" ++ after := by
  have ascii : IsAscii "last_name" := by decide +kernel
  have camel : camelize "last_name" .lower = "lastName" := by decide +kernel
  have setterName : (setter familyName).name = "setLastName" := by decide +kernel
  obtain ⟨-, again, -, calls⟩ := camelize_stable ascii .lower .upper
  obtain ⟨-, body⟩ := calls familyName personFactory rfl { name := "lastName", type := .primitive "string" }
    (by decide +kernel) camel.symm
  obtain ⟨before, after, line⟩ := body "  "
  refine ⟨ascii, camel, ?_, setterName, before, after, ?_⟩
  · rw [← camel, again]
    decide +kernel
  · rw [line, setterName, camel]
    simp only [String.append_assoc]
    rfl

end Blueprint.Php

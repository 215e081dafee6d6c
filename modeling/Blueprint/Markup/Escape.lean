/-
Module: Blueprint.Markup.Escape
Purpose: Replacing the references of a text by the characters they stand for. A reference names one
  of five entities or gives the number of a character in decimal or, after a lower case x, in
  hexadecimal digits. The first faulty reference from the left decides the outcome; its place is
  told in bytes of the text.
Main exports: entity?, readNumber, characterOf, unescape
-/
import Blueprint.Markup.Fault
import Blueprint.Text.Cut

namespace Blueprint.Markup

open Blueprint.Text (Rest cutWhile byteLength)

/-- The characters that have a name. -/
def entity? (name : String) : Option Char :=
  [("lt", '<'), ("gt", '>'), ("amp", '&'), ("apos", '\''), ("quot", '"')].lookup name

/-- The value of a digit in a base up to sixteen. -/
def digit? (base : Nat) (c : Char) : Option Nat :=
  let value :=
    if c.isDigit then some (c.toNat - '0'.toNat)
    else if 'a' ≤ c ∧ c ≤ 'f' then some (c.toNat - 'a'.toNat + 10)
    else if 'A' ≤ c ∧ c ≤ 'F' then some (c.toNat - 'A'.toNat + 10)
    else none
  value.filter (· < base)

/-- The number that digits continue. A character that is no digit and a number of more than 32 bits
    are faults, whichever is met first. -/
def readDigits (base : Nat) (number : Nat) : List Char → Except CharacterFault Nat
  | [] => .ok number
  | c :: cs =>
    match digit? base c with
    | none => .error .digit
    | some d =>
      if number * base + d < 2 ^ 32 then readDigits base (number * base + d) cs
      else .error .tooLarge

/-- A number without a sign. -/
def readNumber (base : Nat) : List Char → Except CharacterFault Nat
  | [] => .error .empty
  | c :: cs => if c == '+' || c == '-' then .error .sign else readDigits base 0 (c :: cs)

/-- The character that a number after the number sign of a reference stands for. -/
def characterOf (number : List Char) : Except CharacterFault Char := do
  let code ←
    match number with
    | 'x' :: digits => readNumber 16 digits
    | digits => readNumber 10 digits
  if code = 0 then .error .nul
  else if code.isValidChar then .ok (Char.ofNat code)
  else .error (.notCharacter code)

/-- The character that a reference stands for, given its content and the byte offset of it. -/
def resolveReference (offset : Nat) (content : List Char) : Except EscapeFault Char :=
  match content with
  | '#' :: number => (characterOf number).mapError .character
  | name =>
    match entity? (String.ofList name) with
    | some c => .ok c
    | none => .error (.unknownEntity offset (offset + byteLength name) (String.ofList name))

/-- The content of a reference and what follows its semicolon, given what follows its ampersand. The
    semicolon must come before the next ampersand. -/
def cutContent? (cs : List Char) :
    Option (List Char × { rest : List Char // rest.length < cs.length }) :=
  match cutWhile (fun c => !(c == ';' || c == '&')) cs with
  | (content, ⟨';' :: rest, shorter⟩) => some (content, ⟨rest, shorter⟩)
  | _ => none

/-- The text with its references replaced, given the byte offset at which it begins. -/
def unescapeFrom (offset : Nat) : List Char → Except EscapeFault (List Char)
  | [] => .ok []
  | c :: cs =>
    if c == '&' then
      match cutContent? cs with
      | some (content, ⟨rest, _⟩) => do
        let character ← resolveReference (offset + 1) content
        let following ← unescapeFrom (offset + byteLength content + 2) rest
        return character :: following
      | none => .error (.unterminated offset (offset + byteLength ('&' :: cs)))
    else do
      let following ← unescapeFrom (offset + c.utf8Size) cs
      return c :: following
termination_by cs => cs.length

/-- The text with every reference replaced by its character. -/
def unescape (s : String) : Except EscapeFault String :=
  (unescapeFrom 0 s.toList).map String.ofList

end Blueprint.Markup

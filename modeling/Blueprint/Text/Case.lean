/-
Module: Blueprint.Text.Case
Purpose: Upper and lower case of a character, by the full mappings of Unicode: a character may map
  to several, as the sharp s does in upper case. Outside the tables a character maps to itself.
Main exports: upperCase, lowerCase, upperText, lowerText
-/
import Blueprint.Text.CaseTable

namespace Blueprint.Text

/-- The spans are stepped through from their first character. -/
def Span.covers (span : Span) (n : Nat) : Bool :=
  span.first ≤ n && n ≤ span.last && (n - span.first) % span.step == 0

/-- The image of a character under a mapping given by its sequences and its spans. -/
def mapCase (sequences : List (Nat × List Nat)) (spans : List Span) (c : Char) : List Char :=
  match sequences.lookup c.toNat with
  | some image => image.map Char.ofNat
  | none =>
    match spans.find? (·.covers c.toNat) with
    | some span => [Char.ofNat (c.toNat + span.shift).toNat]
    | none => [c]

/-- The upper case of a character. -/
def upperCase (c : Char) : List Char :=
  mapCase upperSequences upperSpans c

/-- The lower case of a character, wherever it stands in a word. -/
def lowerCase (c : Char) : List Char :=
  mapCase lowerSequences lowerSpans c

/-- The text in upper case. -/
def upperText (s : String) : String :=
  String.ofList (s.toList.flatMap upperCase)

/-- The text in lower case, character by character. A sigma at the end of a word is lowered like any
    other: the words this text is compared with are ASCII. -/
def lowerText (s : String) : String :=
  String.ofList (s.toList.flatMap lowerCase)

example : upperCase 'ß' = ['S', 'S'] ∧ lowerCase '\u212a' = ['k'] ∧ upperCase 'ǆ' = ['Ǆ'] := by decide

end Blueprint.Text

/-
Module: Blueprint.Text.Search
Purpose: Finding one text in another: at its beginning, or anywhere.
Main exports: after?, occursIn
-/

namespace Blueprint.Text

/-- What follows `start` at the beginning of a list of characters. -/
def after? : (start cs : List Char) → Option (List Char)
  | [], cs => some cs
  | _ :: _, [] => none
  | s :: start, c :: cs => if s == c then after? start cs else none

/-- What is found is what follows: nothing is lost and nothing is added. -/
theorem after?_eq_some_iff {start cs rest : List Char} :
    after? start cs = some rest ↔ cs = start ++ rest := by
  induction start generalizing cs with
  | nil => simp [after?]
  | cons s start ih =>
      cases cs with
      | nil => simp [after?]
      | cons c cs =>
          by_cases same : s = c
          · simp [after?, same, ih]
          · simp [after?, same, Ne.symm same]

/-- The characters `part` occur side by side somewhere in the list. -/
def occursIn (part : List Char) : List Char → Bool
  | [] => part.isEmpty
  | c :: cs => part.isPrefixOf (c :: cs) || occursIn part cs

end Blueprint.Text

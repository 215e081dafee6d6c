/-
Module: Blueprint.Text.Cut
Purpose: Cutting a list of characters in two. What remains after the cut comes with the proof that
  it is no longer than the list, so that a reader that goes on with the rest is seen to end.
Main exports: Rest, cutWhile, cutAfter
-/
import Blueprint.Text.Dedent

namespace Blueprint.Text

/-- A list that is no longer than `cs`, to go on with after a part of `cs` has been read. -/
abbrev Rest (cs : List Char) := { rest : List Char // rest.length ≤ cs.length }

/-- Cut before the first character that fails the test. -/
def cutWhile (test : Char → Bool) (cs : List Char) : List Char × Rest cs :=
  (cs.takeWhile test, ⟨cs.dropWhile test, (List.dropWhile_sublist test).length_le⟩)

/-- Cut around the first occurrence of the delimiter, which belongs to neither part. -/
def cutAfter (delimiter : List Char) : (cs : List Char) → Option (List Char × Rest cs)
  | [] => none
  | c :: cs =>
    if delimiter.isPrefixOf (c :: cs) then
      some ([], ⟨(c :: cs).drop delimiter.length, by simp only [List.length_drop]; omega⟩)
    else
      match cutAfter delimiter cs with
      | none => none
      | some (before, ⟨rest, shorter⟩) =>
        some (c :: before, ⟨rest, by simp only [List.length_cons]; omega⟩)

end Blueprint.Text

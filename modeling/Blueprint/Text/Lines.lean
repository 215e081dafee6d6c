/-
Module: Blueprint.Text.Lines
Purpose: Two ways of cutting a text at its line feeds. The pieces of a text keep every character
  but the line feeds, so that joining them gives the text back. The lines of a text follow the
  convention of text files: a carriage return right before a line feed belongs to the line end, and
  a line end at the very end of the text opens no further line.
Main exports: splitText, pieces, lines, joinLines, unifyLineEnds
-/

namespace Blueprint.Text

/-- The parts of a text between the separators; there is always at least one. -/
def splitText (separator : Char) (s : String) : List String :=
  (s.toList.splitOn separator).map String.ofList

/-- The pieces between the line feeds. -/
def pieces (s : String) : List String :=
  splitText '\n' s

/-- The line without one carriage return at its end. -/
def dropReturn (cs : List Char) : List Char :=
  if cs.getLast? = some '\r' then cs.dropLast else cs

/-- Each piece that a line feed ends is a line, less a carriage return right before that line feed.
    The last piece has no line feed: it is a line only if it holds something. -/
def linesOfPieces : List (List Char) → List (List Char)
  | [] => []
  | [last] => if last.isEmpty then [] else [last]
  | piece :: rest => dropReturn piece :: linesOfPieces rest

/-- The lines of a list of characters. -/
def charLines (cs : List Char) : List (List Char) :=
  linesOfPieces (cs.splitOn '\n')

/-- The lines of a text. -/
def lines (s : String) : List String :=
  (charLines s.toList).map String.ofList

/-- The lines with a line feed between each two. -/
def joinLines (ls : List String) : String :=
  "\n".intercalate ls

example : lines "a\r\nb\n" = ["a", "b"] ∧ lines "" = [] ∧ lines "a\n\nb\r" = ["a", "", "b\r"] := by cbv

example : pieces "" = [""] ∧ pieces "a\n" = ["a", ""] := by cbv

/-- The text with every line end as one line feed. A carriage return ends a line, together with a line
    feed or a next line character right after it; so do a next line character and a line separator of
    their own. -/
def unifyLineEnds : List Char → List Char
  | [] => []
  | '\r' :: '\n' :: cs | '\r' :: '\u0085' :: cs => '\n' :: unifyLineEnds cs
  | c :: cs =>
    (if c == '\r' || c == '\u0085' || c == '\u2028' then '\n' else c) :: unifyLineEnds cs

example : unifyLineEnds "a\r\nb\r\u0085\u2028\r".toList = "a\nb\n\n\n".toList := by decide

end Blueprint.Text

/-
Module: Blueprint.Text.Dedent
Purpose: Removing the indentation that a block of text owes to the document around it. Blank lines
  around the block go, and every line loses the indentation that all of them share. A first line
  that begins right after the tag that opens the block has no indentation to measure: it is trimmed
  and takes no part in the count.
Main exports: dedent
-/
import Blueprint.Text.Blank
import Blueprint.Text.Lines

namespace Blueprint.Text

/-- A line of nothing but blanks. -/
def isBlankLine (line : List Char) : Bool :=
  line.all isBlank

/-- The number of bytes that a list of characters takes in UTF-8. -/
def byteLength : List Char → Nat
  | [] => 0
  | c :: cs => c.utf8Size + byteLength cs

/-- The bytes of blanks that a line begins with. -/
def indentation (line : List Char) : Nat :=
  byteLength (line.takeWhile isBlank)

/-- The characters after the first `n` bytes, if a character begins there. -/
def dropBytes? : Nat → List Char → Option (List Char)
  | 0, cs => some cs
  | _ + 1, [] => none
  | n + 1, c :: cs => if c.utf8Size ≤ n + 1 then dropBytes? (n + 1 - c.utf8Size) cs else none

/-- The lines without the blank ones before the first and after the last that is not blank. -/
def stripBlankLines (ls : List (List Char)) : List (List Char) :=
  ((ls.dropWhile isBlankLine).reverse.dropWhile isBlankLine).reverse

/-- The least indentation of the lines that are not blank, or none when all are blank. -/
def sharedIndentation (ls : List (List Char)) : Nat :=
  ((ls.filter fun line => !isBlankLine line).map indentation).min?.getD 0

/-- A line without its first `n` bytes of indentation and without blanks at its end. A cut inside a
    character takes the whole blank beginning instead. -/
def unindent (n : Nat) (line : List Char) : List Char :=
  if isBlankLine line then [] else dropBlankEnd ((dropBytes? n line).getD (dropBlank line))

/-- The lines of a block with the indentation they share removed. -/
def dedentLines (ls : List (List Char)) : List (List Char) :=
  let block := stripBlankLines ls
  match ls.head?, block with
  | some first, inline :: rest =>
    if isBlankLine first then block.map (unindent (sharedIndentation block))
    else stripBlank inline :: rest.map (unindent (sharedIndentation rest))
  | _, _ => []

/-- The block of text with the indentation that its lines share removed. -/
def dedent (s : String) : String :=
  joinLines ((dedentLines (charLines s.toList)).map String.ofList)

example : dedent "\n    a\n      b\n\n    c\n  " = "a\n  b\n\nc" := by cbv

example : dedent " one \n   two\n  three" = "one\n two\nthree" := by cbv

end Blueprint.Text

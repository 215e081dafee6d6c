/-
Module: Blueprint.Text.Quoted
Purpose: A text in quotation marks, written so that every character of it can be told: quotation marks
  and backslashes are marked by a backslash, and what has no picture of its own is shown by a letter
  or by its number. The bytes of a text are quoted in a plainer way: quotation marks are marked, and
  what is outside of ASCII or a control is shown byte by byte.
Main exports: quoted, quotedBytes
-/
import Blueprint.Text.Unprintable

namespace Blueprint.Text

/-- The character is shown by its number. -/
def isUnprintable (c : Char) : Bool :=
  unprintableRanges.any fun (first, last) => first ≤ c.toNat && c.toNat ≤ last

/-- The number of a character in hexadecimal digits, in braces. -/
def numberedChar (c : Char) : List Char :=
  "\\u\x7b".toList ++ Nat.toDigits 16 c.toNat ++ "\x7d".toList

/-- The characters that stand for one character between quotation marks. -/
def quotedChar (c : Char) : List Char :=
  match [(Char.ofNat 0, '0'), ('\t', 't'), ('\r', 'r'), ('\n', 'n'), ('"', '"'), ('\\', '\\')].lookup c with
  | some letter => ['\\', letter]
  | none => if isUnprintable c then numberedChar c else [c]

/-- The text in quotation marks. -/
def quoted (s : String) : String :=
  String.ofList ('"' :: s.toList.flatMap quotedChar ++ ['"'])

/-- The characters that stand for one byte between quotation marks. -/
def quotedByte (byte : Nat) : List Char :=
  if byte = '"'.toNat then ['\\', '"']
  else if 0x20 ≤ byte && byte < 0x7F then [Char.ofNat byte]
  else "0x".toList ++ (Nat.toDigits 16 byte).map Char.toUpper

/-- The bytes of the text in quotation marks. -/
def quotedBytes (s : String) : String :=
  String.ofList ('"' :: s.toUTF8.toList.flatMap (fun byte => quotedByte byte.toNat) ++ ['"'])

example : quotedBytes "a\t\\\"é" = "\"a0x9\\\\\"0xC30xA9\"" := by decide +kernel

end Blueprint.Text

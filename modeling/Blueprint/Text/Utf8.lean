/-
Module: Blueprint.Text.Utf8
Purpose: Showing bytes as text when they may not be text. What is valid UTF-8 is decoded; each longest
  beginning of a character that does not go on as it should is shown by one replacement character.
Main exports: decodeLossy
-/

namespace Blueprint.Text

/-- A character of which some bytes have been read: how many are still to come, the bounds for the next
    one, and the number that the bytes so far make up. -/
structure PartialChar where
  missing : Nat
  low : Nat
  high : Nat
  code : Nat

/-- The character that a first byte opens, if it opens one of several bytes. -/
def openChar? (byte : Nat) : Option PartialChar :=
  if 0xC2 ≤ byte && byte ≤ 0xDF then some ⟨1, 0x80, 0xBF, byte - 0xC0⟩
  else if byte = 0xE0 then some ⟨2, 0xA0, 0xBF, 0⟩
  else if byte = 0xED then some ⟨2, 0x80, 0x9F, 0xD⟩
  else if 0xE1 ≤ byte && byte ≤ 0xEF then some ⟨2, 0x80, 0xBF, byte - 0xE0⟩
  else if byte = 0xF0 then some ⟨3, 0x90, 0xBF, 0⟩
  else if 0xF1 ≤ byte && byte ≤ 0xF3 then some ⟨3, 0x80, 0xBF, byte - 0xF0⟩
  else if byte = 0xF4 then some ⟨3, 0x80, 0x8F, 4⟩
  else none

/-- What shows bytes that are no character. -/
def replacement : Char :=
  '\ufffd'

/-- A byte outside any character: the text it gives at once, and the character it opens. -/
def decodeFirst (byte : Nat) : List Char × Option PartialChar :=
  if byte < 0x80 then ([Char.ofNat byte], none)
  else
    match openChar? byte with
    | some opened => ([], some opened)
    | none => ([replacement], none)

/-- A byte inside a character. One that does not belong there ends the character and is looked at
    anew. -/
def decodeNext (opened : PartialChar) (byte : Nat) : List Char × Option PartialChar :=
  if opened.low ≤ byte && byte ≤ opened.high then
    let code := opened.code * 64 + (byte - 0x80)
    match opened.missing with
    | missing + 2 => ([], some ⟨missing + 1, 0x80, 0xBF, code⟩)
    | _ => ([Char.ofNat code], none)
  else
    let (text, opened) := decodeFirst byte
    (replacement :: text, opened)

/-- The characters of bytes, given the character that is open. -/
def decodeFrom : Option PartialChar → List UInt8 → List Char
  | none, [] => []
  | some _, [] => [replacement]
  | none, byte :: bytes =>
    let (text, opened) := decodeFirst byte.toNat
    text ++ decodeFrom opened bytes
  | some opened, byte :: bytes =>
    let (text, opened) := decodeNext opened byte.toNat
    text ++ decodeFrom opened bytes

/-- The bytes as text. -/
def decodeLossy (bytes : ByteArray) : String :=
  String.ofList (decodeFrom none bytes.toList)

example : decodeFrom none [0x61, 0xC3, 0xA9, 0xFF, 0xE2, 0x82, 0x62] =
    ['a', 'é', '\ufffd', '\ufffd', 'b'] := by decide +kernel

end Blueprint.Text

/-
Module: Blueprint.Text.Number
Purpose: Reading a number of at most 64 bits from decimal digits, with an optional plus sign.
Main exports: readSize?
-/

namespace Blueprint.Text

/-- The number that digits continue, if they are digits and the number has at most 64 bits. -/
def sizeFrom? (number : Nat) : List Char → Option Nat
  | [] => some number
  | c :: cs =>
    let next := number * 10 + (c.toNat - '0'.toNat)
    if c.isDigit && decide (next < 2 ^ 64) then sizeFrom? next cs else none

/-- The number that a text writes. -/
def readSize? (text : List Char) : Option Nat :=
  match text with
  | '+' :: digits => if digits.isEmpty then none else sizeFrom? 0 digits
  | [] => none
  | digits => sizeFrom? 0 digits

example : readSize? "+007".toList = some 7 ∧ readSize? "-1".toList = none := by decide

example : readSize? "18446744073709551615".toList = some (2 ^ 64 - 1) ∧
    readSize? "18446744073709551616".toList = none := by decide +kernel

end Blueprint.Text

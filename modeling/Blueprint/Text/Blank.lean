/-
Module: Blueprint.Text.Blank
Purpose: Blank characters and trimming. A character is blank when Unicode gives it the property
  White_Space; the zero width space and the byte order mark are not blank. Trimming is defined on
  lists of characters, where the core list lemmas apply, and carried over to strings.
Main exports: isBlank, trimStart, trimEnd, trim, isBlankText
-/

namespace Blueprint.Text

/-- A character is blank when it has the Unicode property White_Space. -/
def isBlank (c : Char) : Bool :=
  let n := c.toNat
  (0x9 ≤ n && n ≤ 0xD) || n == 0x20 || n == 0x85 || n == 0xA0 || n == 0x1680 ||
    (0x2000 ≤ n && n ≤ 0x200A) || n == 0x2028 || n == 0x2029 || n == 0x202F || n == 0x205F ||
    n == 0x3000

/-! ### Trimming lists of characters -/

/-- The list without its blank beginning. -/
def dropBlank (cs : List Char) : List Char :=
  cs.dropWhile isBlank

/-- The list without its blank end. -/
def dropBlankEnd (cs : List Char) : List Char :=
  (cs.reverse.dropWhile isBlank).reverse

/-- The list without its blank beginning and its blank end. -/
def stripBlank (cs : List Char) : List Char :=
  dropBlankEnd (dropBlank cs)

/-! ### Trimming strings -/

/-- The text without its blank beginning. -/
def trimStart (s : String) : String :=
  String.ofList (dropBlank s.toList)

/-- The text without its blank end. -/
def trimEnd (s : String) : String :=
  String.ofList (dropBlankEnd s.toList)

/-- The text without blanks at either end. -/
def trim (s : String) : String :=
  String.ofList (stripBlank s.toList)

/-- A text is blank when all its characters are; the empty text is blank. -/
def isBlankText (s : String) : Bool :=
  s.toList.all isBlank

@[simp]
theorem toList_trimStart (s : String) : (trimStart s).toList = dropBlank s.toList :=
  String.toList_ofList

@[simp]
theorem toList_trimEnd (s : String) : (trimEnd s).toList = dropBlankEnd s.toList :=
  String.toList_ofList

@[simp]
theorem toList_trim (s : String) : (trim s).toList = stripBlank s.toList :=
  String.toList_ofList

end Blueprint.Text

/-
Module: Blueprint.Text.Words
Purpose: Names in camel case. Underscores, hyphens and spaces separate the words of a name and are
  dropped; every word begins in upper case, except that the first one may begin in lower case.
Main exports: LeadingCase, camelize
-/
import Blueprint.Text.Case

namespace Blueprint.Text

/-- How the first word of a name in camel case begins. -/
inductive LeadingCase where
  | upper
  | lower
deriving DecidableEq, Repr

/-- The characters that separate the words of a name. -/
def isWordSeparator (c : Char) : Bool :=
  c == '_' || c == '-' || c == ' '

/-- The words of a name: what stands between separators, without the empty ones. -/
def words (cs : List Char) : List (List Char) :=
  (cs.splitOnP isWordSeparator).filter fun word => !word.isEmpty

/-- The word with its first character in the given case; the others stay as they are. -/
def leadWith (leading : LeadingCase) : List Char → List Char
  | [] => []
  | c :: cs =>
    match leading with
    | .upper => upperCase c ++ cs
    | .lower => lowerCase c ++ cs

/-- The words joined, the first one beginning as asked and the others in upper case. -/
def camelWords (leading : LeadingCase) : List (List Char) → List Char
  | [] => []
  | word :: rest => leadWith leading word ++ rest.flatMap (leadWith .upper)

/-- The name in camel case. -/
def camelize (name : String) (leading : LeadingCase) : String :=
  String.ofList (camelWords leading (words name.toList))

example : camelize "created-at date" .lower = "createdAtDate" := by decide +kernel

example : camelize "_first__name" .upper = "FirstName" := by decide +kernel

end Blueprint.Text

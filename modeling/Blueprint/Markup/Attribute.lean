/-
Module: Blueprint.Markup.Attribute
Purpose: Reading the attributes of a tag, one after the other. A fault in one attribute is reported
  in its place, and reading goes on behind it wherever the text still shows where that is. A reader
  that tolerates faults keeps the attributes that were read; a strict one stops at the first fault.
Main exports: Attribute, readAttributes, soundAttributes, leadingAttributes
-/
import Blueprint.Markup.Event
import Blueprint.Text.Cut

namespace Blueprint.Markup

open Blueprint.Text (Rest cutWhile byteLength)

/-- An attribute as written: its value still holds references. -/
structure Attribute where
  name : String
  value : String
deriving DecidableEq, Repr

/-- Not white space. -/
def isInk (c : Char) : Bool :=
  !isSpace c

/-- The characters of an attribute's name after the first one. -/
def isKeyPart (c : Char) : Bool :=
  !(c == '=' || isSpace c)

/-- The outcome of reading one attribute, and the text after it with its byte offset; no text when
    nothing can follow. -/
structure AttributeStep (cs : List Char) where
  outcome : Except AttributeFault Attribute
  following : Option (Nat × Rest cs)

/-- The value of an attribute from the equals sign on. A quoted value ends at the same quotation
    mark. A value without quotation marks is passed over up to the next white space. -/
def readValue (name : List Char) (offset : Nat) (cs : List Char) : AttributeStep cs :=
  let (gap, ⟨rest, within⟩) := cutWhile isSpace cs
  let first := offset + byteLength gap
  match rest, within with
  | [], _ => ⟨.error (.missingValue first), none⟩
  | quote :: body, within =>
    if quote == '\'' || quote == '"' then
      match cutWhile (fun c => c != quote) body with
      | (content, ⟨[], _⟩) =>
        ⟨.error (.missingQuote (first + byteLength (quote :: content)) quote), none⟩
      | (content, ⟨mark :: after, shorter⟩) =>
        ⟨.ok ⟨String.ofList name, String.ofList content⟩,
          some (first + byteLength (quote :: content) + mark.utf8Size,
            ⟨after, by simp only [List.length_cons] at within shorter; omega⟩)⟩
    else
      match cutWhile isInk (quote :: body) with
      | (_, ⟨[], _⟩) => ⟨.error (.unquotedValue first), none⟩
      | (skipped, ⟨after, shorter⟩) =>
        ⟨.error (.unquotedValue first),
          some (first + byteLength skipped, ⟨after, by omega⟩)⟩

/-- A name seen before makes the attribute a duplicate. Its value is passed over from the equals sign
    up to the next white space. -/
def skipValue (start earlier offset : Nat) (cs : List Char) : AttributeStep cs :=
  match cutWhile isInk cs with
  | (_, ⟨[], _⟩) => ⟨.error (.duplicate start earlier), none⟩
  | (skipped, rest) => ⟨.error (.duplicate start earlier), some (offset + byteLength skipped, rest)⟩

/-- The names that were followed by an equals sign, with their byte offsets, latest first. -/
abbrev SeenNames := List (List Char × Nat)

/-- The attributes in a text that begins at byte `offset` of the content of its tag. Where no names
    seen before are given, a name may come again. -/
def attributesFrom (seen? : Option SeenNames) (offset : Nat) (cs : List Char) :
    List (Except AttributeFault Attribute) :=
  let (gap, ⟨rest, _⟩) := cutWhile isSpace cs
  match rest with
  | [] => []
  | c :: more =>
    let start := offset + byteLength gap
    let (tail, ⟨afterName, _⟩) := cutWhile isKeyPart more
    let name := c :: tail
    let (gap, ⟨rest, _⟩) := cutWhile isSpace afterName
    let next := start + byteLength name + byteLength gap
    match rest with
    | [] => [.error (.missingEquals next)]
    | d :: value =>
      if d == '=' then
        match seen?.bind (·.lookup name) with
        | some earlier =>
          let step := skipValue start earlier next (d :: value)
          match step.following with
          | none => [step.outcome]
          | some (offset, ⟨following, _⟩) => step.outcome :: attributesFrom seen? offset following
        | none =>
          let step := readValue name (next + 1) value
          match step.following with
          | none => [step.outcome]
          | some (offset, ⟨following, _⟩) =>
            step.outcome :: attributesFrom (seen?.map ((name, start) :: ·)) offset following
      else .error (.missingEquals next) :: attributesFrom seen? next (d :: value)
termination_by cs.length
decreasing_by all_goals simp_all only [List.length_cons]; omega

/-- The attributes of a tag in order, each read or found faulty. -/
def readAttributes (tag : Tag) : List (Except AttributeFault Attribute) :=
  attributesFrom (some []) tag.name.utf8ByteSize tag.attributes.toList

/-- The attributes of a tag that can be read. -/
def soundAttributes (tag : Tag) : List Attribute :=
  (readAttributes tag).filterMap Except.toOption

/-- The attributes of a tag before the first one that cannot be read. A name may come again. -/
def leadingAttributes (tag : Tag) : List Attribute :=
  ((attributesFrom none tag.name.utf8ByteSize tag.attributes.toList).takeWhile Except.isOk).filterMap
    Except.toOption

end Blueprint.Markup

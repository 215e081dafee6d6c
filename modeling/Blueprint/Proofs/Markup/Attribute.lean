/-
Module: Blueprint.Proofs.Markup.Attribute
Purpose: Attributes as they are written. Whatever the text of a tag, the attributes that can be read in it have
  distinct names, and values that one of the two quotation marks can stand around. So they can be written again,
  and then there is no fault among them: mending a tag leaves its attributes and takes out all that cannot be
  read.
Main exports: cutWhile_append_cons, IsWritable, Attribute.written, Writable, attributesFrom_written,
  writable_attributesFrom, Tag.mended, readAttributes_mended
-/
import Blueprint.Markup.Attribute

namespace Blueprint.Markup

open Blueprint.Text (byteLength cutWhile)

/-! ### Cutting -/

/-- What passes a test is cut off before a character that does not, or at the end. -/
theorem cutWhile_of_stop {test : Char → Bool} {front back : List Char} (passes : ∀ c ∈ front, test c = true)
    (stop : ∀ c ∈ back.head?, test c = false) :
    ∃ shorter, cutWhile test (front ++ back) = (front, ⟨back, shorter⟩) := by
  have cut : back.takeWhile test = [] ∧ back.dropWhile test = back := by
    cases back with
    | nil => exact ⟨rfl, rfl⟩
    | cons c back => simp [stop c rfl]
  refine ⟨by simp, ?_⟩
  simp only [cutWhile, List.takeWhile_append_of_pos passes, List.dropWhile_append_of_pos passes, cut,
    List.append_nil]

/-- Up to a character that does not pass the test. -/
theorem cutWhile_append_cons {test : Char → Bool} {front : List Char} (passes : ∀ c ∈ front, test c = true)
    {c : Char} (fails : test c = false) (back : List Char) :
    ∃ shorter, cutWhile test (front ++ c :: back) = (front, ⟨c :: back, shorter⟩) :=
  cutWhile_of_stop passes (by simpa using fails)

/-- Nothing is cut off before a character that does not pass the test. -/
theorem cutWhile_cons_of_false {test : Char → Bool} {c : Char} (fails : test c = false) (back : List Char) :
    ∃ shorter, cutWhile test (c :: back) = ([], ⟨c :: back, shorter⟩) :=
  @cutWhile_append_cons test [] (by simp) c fails back

/-! ### Writing attributes -/

/-- One of the two quotation marks can stand around the value. -/
def CanBeQuoted (value : String) : Prop :=
  '"' ∉ value.toList ∨ '\'' ∉ value.toList

/-- The quotation mark around a value: the double one, unless it stands in the value. -/
def quoteOf (value : String) : Char :=
  if '"' ∈ value.toList then '\'' else '"'

namespace Attribute

/-- The characters of an attribute, with a space before it. -/
def written (given : Attribute) : List Char :=
  ' ' :: (given.name.toList ++ '=' :: quoteOf given.value :: (given.value.toList ++ [quoteOf given.value]))

/-- The attribute can be written: its name is one for a reader of attributes, and one of the quotation marks can
    stand around its value. -/
structure IsWritable (given : Attribute) : Prop where
  named : ∃ first rest, given.name.toList = first :: rest ∧ isSpace first = false ∧ ∀ c ∈ rest, isKeyPart c = true
  quotable : CanBeQuoted given.value

theorem IsWritable.quoteOf_not_mem {given : Attribute} (writable : given.IsWritable) :
    quoteOf given.value ∉ given.value.toList := by
  rw [quoteOf]
  split
  · rcases writable.quotable with noDouble | noSingle
    · exact absurd ‹_› noDouble
    · exact noSingle
  · assumption

end Attribute

theorem quoteOf_cases (value : String) : quoteOf value = '\'' ∨ quoteOf value = '"' := by
  rw [quoteOf]
  split
  · exact .inl rfl
  · exact .inr rfl

/-- Attributes that can be written one after the other: no name comes again, nor any that has been seen before. -/
inductive Writable : SeenNames → List Attribute → Prop where
  | nil {seen : SeenNames} : Writable seen []
  | cons {seen : SeenNames} {given : Attribute} {rest : List Attribute} {start : Nat} (writable : given.IsWritable)
      (fresh : seen.lookup given.name.toList = none) (later : Writable ((given.name.toList, start) :: seen) rest) :
      Writable seen (given :: rest)

variable {seen more : SeenNames} {given : Attribute} {attributes : List Attribute}

/-- A name has not been seen if it is not the latest one and has not been seen before that. -/
theorem lookup_cons_eq_none {key name : List Char} {start : Nat} :
    List.lookup key ((name, start) :: seen) = none ↔ key ≠ name ∧ seen.lookup key = none := by
  rw [List.lookup_cons]
  by_cases same : key = name
  · simp only [same, BEq.rfl, reduceCtorEq, ne_eq, not_true_eq_false, false_and]
  · simp only [beq_eq_false_iff_ne.mpr same, ne_eq, same, not_false_eq_true, true_and]

/-- Fewer names that have been seen leave more to be written. -/
theorem Writable.mono (writable : Writable more attributes)
    (fewer : ∀ name, more.lookup name = none → seen.lookup name = none) : Writable seen attributes := by
  induction writable generalizing seen with
  | nil => exact .nil
  | @cons more given rest start here fresh later ih =>
      refine @Writable.cons _ _ _ start here (fewer _ fresh) (ih fun name unseen => ?_)
      obtain ⟨other, unseen⟩ := lookup_cons_eq_none.mp unseen
      exact lookup_cons_eq_none.mpr ⟨other, fewer name unseen⟩

/-- Where a name has been seen does not matter. -/
theorem Writable.moved {name : List Char} {start : Nat} (writable : Writable ((name, start) :: seen) attributes)
    (other : Nat) : Writable ((name, other) :: seen) attributes :=
  writable.mono fun _ unseen => lookup_cons_eq_none.mpr (lookup_cons_eq_none.mp unseen)

/-! ### Reading what is written -/

/-- A quoted value is read up to its quotation mark. -/
theorem readValue_quoted (name : List Char) (offset : Nat) {value : String} {quote : Char}
    (isQuote : quote = '\'' ∨ quote = '"') (absent : quote ∉ value.toList) (after : List Char) :
    ∃ next shorter, readValue name offset (quote :: (value.toList ++ quote :: after)) =
      ⟨.ok ⟨String.ofList name, value⟩, some (next, ⟨after, shorter⟩)⟩ := by
  have ink : isSpace quote = false := by rcases isQuote with rfl | rfl <;> decide
  have opens : (quote == '\'' || quote == '"') = true := by rcases isQuote with rfl | rfl <;> decide
  have inside : ∀ c ∈ value.toList, (c != quote) = true := by
    intro c member
    exact bne_iff_ne.mpr fun same => absent (same ▸ member)
  obtain ⟨_, gap⟩ := cutWhile_cons_of_false ink (value.toList ++ quote :: after)
  obtain ⟨_, content⟩ := cutWhile_append_cons inside (bne_self_eq_false quote) after
  rw [readValue, gap]
  dsimp only
  rw [if_pos opens, content]
  refine ⟨offset + byteLength [] + byteLength (quote :: value.toList) + quote.utf8Size, by simp; omega, ?_⟩
  simp only [String.ofList_toList]

/-- Attributes that are written are read one by one. -/
theorem attributesFrom_written (writable : Writable seen attributes) (offset : Nat) :
    attributesFrom (some seen) offset (attributes.flatMap Attribute.written) = attributes.map .ok := by
  induction attributes generalizing seen offset with
  | nil =>
      rw [List.flatMap_nil, attributesFrom]
      rfl
  | cons given attributes ih =>
      obtain ⟨behind, same⟩ : ∃ behind, behind = attributes.flatMap Attribute.written := ⟨_, rfl⟩
      cases writable with
      | cons here fresh later =>
          obtain ⟨first, rest, parts, ink, keyParts⟩ := here.named
          have text : (given :: attributes).flatMap Attribute.written =
              [' '] ++ first :: (rest ++ '=' :: quoteOf given.value ::
                (given.value.toList ++ quoteOf given.value :: behind)) := by
            simp [Attribute.written, parts, same]
          have unseen : seen.lookup (first :: rest) = none := parts ▸ fresh
          obtain ⟨_, gap⟩ := @cutWhile_append_cons isSpace [' '] (by simp [isSpace]) first ink
            (rest ++ '=' :: quoteOf given.value :: (given.value.toList ++ quoteOf given.value :: behind))
          obtain ⟨_, key⟩ := cutWhile_append_cons keyParts (by decide : isKeyPart '=' = false)
            (quoteOf given.value :: (given.value.toList ++ quoteOf given.value :: behind))
          obtain ⟨_, gap'⟩ := cutWhile_cons_of_false (by decide : isSpace '=' = false)
            (quoteOf given.value :: (given.value.toList ++ quoteOf given.value :: behind))
          rw [text, attributesFrom, gap]
          dsimp only
          rw [key]
          dsimp only
          rw [gap']
          dsimp only
          rw [if_pos (by decide)]
          simp only [Option.bind_some, unseen]
          obtain ⟨next, _, read⟩ := readValue_quoted (first :: rest)
            (offset + byteLength [' '] + byteLength (first :: rest) + byteLength [] + 1)
            (quoteOf_cases given.value) here.quoteOf_not_mem behind
          rw [read]
          dsimp only
          rw [← parts, String.ofList_toList, List.map_cons, same]
          exact congrArg _ (ih (later.moved _) next)

/-! ### What is read can be written -/

/-- What is cut off passes the test. -/
theorem cutWhile_passes {test : Char → Bool} {cs front : List Char} {rest : Text.Rest cs}
    (cut : cutWhile test cs = (front, rest)) : ∀ c ∈ front, test c = true := by
  cases cut
  exact List.all_eq_true.mp List.all_takeWhile

/-- What remains begins with a character that does not pass the test. -/
theorem cutWhile_stops {test : Char → Bool} {cs front : List Char} {rest : Text.Rest cs}
    (cut : cutWhile test cs = (front, rest)) : ∀ c ∈ rest.val.head?, test c = false := by
  cases cut
  intro c first
  have stops := List.head?_dropWhile_not test cs
  simp only [Option.mem_def] at first
  simp [first] at stops
  exact stops

/-- A value that is read goes with a name. -/
theorem readValue_eq_ok {name : List Char} {offset : Nat} {cs : List Char}
    (reads : (readValue name offset cs).outcome = .ok given) :
    given.name = String.ofList name ∧ CanBeQuoted given.value := by
  unfold readValue at reads
  split at reads
  rename_i gap rest within cut
  split at reads
  · cases reads
  · rename_i quote body _
    split at reads
    · rename_i opens
      split at reads
      · cases reads
      · rename_i content mark after shorter cut
        cases reads
        have absent : quote ∉ content := fun member => by simpa using cutWhile_passes cut quote member
        simp only [Bool.or_eq_true, beq_iff_eq] at opens
        rcases opens with rfl | rfl
        · exact ⟨rfl, .inr (by simpa using absent)⟩
        · exact ⟨rfl, .inl (by simpa using absent)⟩
    · split at reads
      · cases reads
      · cases reads

theorem skipValue_eq_error (start earlier offset : Nat) (cs : List Char) :
    (skipValue start earlier offset cs).outcome = .error (.duplicate start earlier) := by
  rw [skipValue]
  split <;> rfl

/-- A value that cannot be read is left out, and one that can be read belongs to the name before it. -/
theorem writable_readValue {first : Char} {tail cs : List Char} {start offset : Nat}
    {outcomes : List (Except AttributeFault Attribute)} (ink : isSpace first = false)
    (keyParts : ∀ c ∈ tail, isKeyPart c = true) (fresh : seen.lookup (first :: tail) = none)
    (later : Writable ((first :: tail, start) :: seen) (outcomes.filterMap Except.toOption)) :
    Writable seen (((readValue (first :: tail) offset cs).outcome :: outcomes).filterMap Except.toOption) := by
  cases reads : (readValue (first :: tail) offset cs).outcome with
  | error fault => exact later.mono fun _ unseen => (lookup_cons_eq_none.mp unseen).2
  | ok given =>
      obtain ⟨named, quotable⟩ := readValue_eq_ok reads
      have name : given.name.toList = first :: tail := by rw [named, String.toList_ofList]
      rw [← name] at fresh later
      exact .cons ⟨⟨first, tail, name, ink, keyParts⟩, quotable⟩ fresh later

/-- Whatever the text, the attributes that are read can be written. -/
theorem writable_attributesFrom (seen : SeenNames) (offset : Nat) (cs : List Char) :
    Writable seen ((attributesFrom (some seen) offset cs).filterMap Except.toOption) := by
  rw [attributesFrom]
  rcases gap : cutWhile isSpace cs with ⟨blank, begins, shorter⟩
  cases begins with
  | nil => exact .nil
  | cons first more =>
      have ink : isSpace first = false := cutWhile_stops gap first rfl
      dsimp only
      rcases key : cutWhile isKeyPart more with ⟨tail, afterName, within⟩
      have keyParts : ∀ c ∈ tail, isKeyPart c = true := cutWhile_passes key
      dsimp only
      rcases cutWhile isSpace afterName with ⟨blank', behind, shorter'⟩
      cases behind with
      | nil => exact .nil
      | cons sign value =>
          have fewer : (sign :: value).length < cs.length :=
            Nat.lt_of_lt_of_le (Nat.lt_succ_of_le (Nat.le_trans shorter' within)) shorter
          dsimp only
          split
          · rw [Option.bind_some]
            split
            · rename_i earlier known
              rw [skipValue_eq_error]
              split
              · exact .nil
              · rename_i next following left _
                have fewer' : following.length < cs.length := Nat.lt_of_le_of_lt left fewer
                exact writable_attributesFrom seen _ _
            · rename_i fresh
              split
              · exact @writable_readValue _ _ _ _ 0 _ [] ink keyParts fresh .nil
              · rename_i next following left _
                have fewer' : following.length < cs.length :=
                  Nat.lt_of_le_of_lt (Nat.le_succ_of_le left) fewer
                exact writable_readValue ink keyParts fresh (writable_attributesFrom _ _ _)
          · exact writable_attributesFrom seen _ _
termination_by cs.length
decreasing_by all_goals assumption

/-! ### Mending tags -/

/-- The tag with the attributes that can be read in it and nothing else. -/
def Tag.mended (tag : Tag) : Tag :=
  ⟨tag.name, String.ofList ((soundAttributes tag).flatMap Attribute.written)⟩

/-- In a mended tag every attribute can be read, and these are the attributes that could be read before. -/
theorem readAttributes_mended (tag : Tag) : readAttributes tag.mended = (soundAttributes tag).map .ok := by
  rw [readAttributes, Tag.mended, String.toList_ofList]
  exact attributesFrom_written (writable_attributesFrom [] _ _) _

theorem soundAttributes_mended (tag : Tag) : soundAttributes tag.mended = soundAttributes tag := by
  rw [soundAttributes, readAttributes_mended, List.filterMap_map]
  exact List.filterMap_some

end Blueprint.Markup

/-
Module: Blueprint.Proofs.Text.Words
Purpose: What camel case does to the characters of a name. Characters without case are kept, as many as there
  are, and none are brought in; separators of words are dropped. Separators around a name make no words, and a
  name without separators is one word. In ASCII the characters of the words are kept but for the case of letters,
  and camel case can be taken again, with the first word in either case.
Main exports: IsCaseless, isCaseless_of_isBlank, isCaseless_of_isWordSeparator, words_append_separator,
  words_surrounded, words_of_solid, flatten_words, IsCaseless.count_camelWords, mem_of_mem_camelize,
  isWordSeparator_of_mem_camelize, IsAscii, camelize_camelize, map_toLower_camelize
-/
import Blueprint.Text.Blank
import Blueprint.Text.Words
import Mathlib.Data.List.Basic

namespace Blueprint.Text

variable {x c : Char} {cs front back : List Char}

/-! ### Characters without case -/

/-- The mapping neither changes the character of the number nor maps another one to it. The images of a span lie
    between those of its ends. -/
def spares (sequences : List (Nat × List Nat)) (spans : List Span) (n : Nat) : Bool :=
  (sequences.all fun entry => entry.1 != n && !entry.2.contains n) &&
    spans.all fun span =>
      (n.blt span.first || span.last.blt n) &&
        (n.blt (span.first + span.shift).toNat || (span.last + span.shift).toNat.blt n)

/-- The character is no letter that has another case. -/
def IsCaseless (x : Char) : Prop :=
  x ≠ '\x00' ∧ spares upperSequences upperSpans x.toNat = true ∧ spares lowerSequences lowerSpans x.toNat = true

instance (x : Char) : Decidable (IsCaseless x) :=
  inferInstanceAs (Decidable (_ ∧ _))

/-- Every character but the first one of all has its own number only. -/
theorem eq_toNat_of_ofNat {n : Nat} (filled : x ≠ '\x00') (same : Char.ofNat n = x) : n = x.toNat := by
  rw [← same]
  by_cases valid : n.isValidChar
  · rw [Char.ofNat, dif_pos valid]
    rfl
  · rw [Char.ofNat, dif_neg valid] at same
    exact absurd same.symm filled

/-- What a mapping spares, it keeps and does not bring in. -/
theorem count_mapCase {sequences : List (Nat × List Nat)} {spans : List Span}
    (spared : spares sequences spans x.toNat = true) (filled : x ≠ '\x00') (c : Char) :
    (mapCase sequences spans c).count x = [c].count x := by
  simp only [spares, Bool.and_eq_true, Bool.or_eq_true, List.all_eq_true, bne_iff_ne, ne_eq,
    Bool.not_eq_true', List.contains_eq_mem, decide_eq_false_iff_not, Nat.blt_eq] at spared
  obtain ⟨sequences_spare, spans_spare⟩ := spared
  have other (different : c.toNat ≠ x.toNat) : [c].count x = 0 := by
    rw [List.count_eq_zero, List.mem_singleton]
    rintro rfl
    exact different rfl
  unfold mapCase
  split
  · rename_i image found
    obtain ⟨earlier, later, entries, -⟩ := List.lookup_eq_some_iff.mp found
    obtain ⟨different, absent⟩ := sequences_spare (c.toNat, image) (by simp [entries])
    rw [other different, List.count_eq_zero, List.mem_map]
    rintro ⟨n, member, same⟩
    exact absent (eq_toNat_of_ofNat filled same ▸ member)
  · split
    · rename_i span found
      obtain ⟨outside, beyond⟩ := spans_spare span (List.mem_of_find?_eq_some found)
      have covered := List.find?_some found
      simp only [Span.covers, Bool.and_eq_true, decide_eq_true_eq] at covered
      rw [other (fun same => by omega), List.count_eq_zero, List.mem_singleton]
      intro same
      have number := eq_toNat_of_ofNat filled same.symm
      have positive : x.toNat ≠ 0 := fun zero => filled (by rw [← Char.ofNat_toNat x, zero])
      omega
    · rfl

namespace IsCaseless

variable (caseless : IsCaseless x)

include caseless

theorem count_upperCase (c : Char) : (upperCase c).count x = [c].count x :=
  count_mapCase caseless.2.1 caseless.1 c

theorem count_lowerCase (c : Char) : (lowerCase c).count x = [c].count x :=
  count_mapCase caseless.2.2 caseless.1 c

theorem count_leadWith (leading : LeadingCase) (word : List Char) :
    (leadWith leading word).count x = word.count x := by
  cases word with
  | nil => rfl
  | cons c cs =>
      have cut : (c :: cs).count x = [c].count x + cs.count x := by
        rw [← List.count_append]
        rfl
      cases leading with
      | upper =>
          change (upperCase c ++ cs).count x = _
          rw [List.count_append, caseless.count_upperCase, cut]
      | lower =>
          change (lowerCase c ++ cs).count x = _
          rw [List.count_append, caseless.count_lowerCase, cut]

/-- Camel case has the characters without case that the words have. -/
theorem count_camelWords (leading : LeadingCase) (ws : List (List Char)) :
    (camelWords leading ws).count x = ws.flatten.count x := by
  cases ws with
  | nil => rfl
  | cons word rest =>
      rw [camelWords, List.count_append, caseless.count_leadWith, List.flatten_cons, List.count_append,
        List.count_flatMap, List.count_flatten]
      congr 2
      apply List.map_congr_left
      exact fun word _ => caseless.count_leadWith .upper word

end IsCaseless

theorem isCaseless_of_isWordSeparator (separates : isWordSeparator c = true) : IsCaseless c := by
  have members : c = '_' ∨ c = '-' ∨ c = ' ' := by simpa [isWordSeparator, or_assoc] using separates
  rcases members with rfl | rfl | rfl <;> decide +kernel

/-- The numbers of the blank characters. -/
def blankNumbers : List Nat :=
  List.range' 0x9 5 ++ [0x20, 0x85, 0xA0, 0x1680] ++ List.range' 0x2000 11 ++
    [0x2028, 0x2029, 0x202F, 0x205F, 0x3000]

theorem isBlank_iff : isBlank c = true ↔ c.toNat ∈ blankNumbers := by
  simp only [isBlank, Bool.or_eq_true, Bool.and_eq_true, decide_eq_true_eq, beq_iff_eq, blankNumbers,
    List.mem_append, List.mem_range'_1, List.mem_cons, List.not_mem_nil, or_false]
  omega

/-- Blanks have no case. -/
theorem isCaseless_of_isBlank (blank : isBlank c = true) : IsCaseless c := by
  have all : ∀ n ∈ blankNumbers, n ≠ 0 ∧ spares upperSequences upperSpans n = true ∧
      spares lowerSequences lowerSpans n = true := by
    decide +kernel
  obtain ⟨positive, spared⟩ := all c.toNat (isBlank_iff.mp blank)
  refine ⟨?_, spared⟩
  rintro rfl
  exact positive rfl

/-! ### Words -/

theorem words_append_separator (separates : isWordSeparator c = true) (front back : List Char) :
    words (front ++ c :: back) = words front ++ words back := by
  rw [words, List.splitOnP_append_cons front back separates, List.filter_append]
  rfl

/-- Separators before a name make no words. -/
theorem words_append_of_separators (before : ∀ c ∈ front, isWordSeparator c = true) (cs : List Char) :
    words (front ++ cs) = words cs := by
  induction front with
  | nil => rfl
  | cons c front ih =>
      obtain ⟨separates, before⟩ := List.forall_mem_cons.mp before
      exact (words_append_separator separates [] (front ++ cs)).trans (ih before)

/-- Separators before and behind a name make no words. -/
theorem words_surrounded (before : ∀ c ∈ front, isWordSeparator c = true)
    (behind : ∀ c ∈ back, isWordSeparator c = true) (cs : List Char) :
    words (front ++ cs ++ back) = words cs := by
  rw [List.append_assoc, words_append_of_separators before]
  cases back with
  | nil => rw [List.append_nil]
  | cons c back =>
      obtain ⟨separates, behind⟩ := List.forall_mem_cons.mp behind
      have none := words_append_of_separators behind []
      rw [List.append_nil] at none
      rw [words_append_separator separates, none]
      exact List.append_nil _

/-- A name without separators is one word. -/
theorem words_of_solid (filled : cs ≠ []) (solid : ∀ c ∈ cs, isWordSeparator c = false) : words cs = [cs] := by
  simp [words, List.splitOnP_eq_singleton solid, filled]

/-- Only the first character of a name without separators is changed. -/
theorem camelWords_of_solid (leading : LeadingCase) (solid : ∀ c ∈ cs, isWordSeparator c = false) :
    camelWords leading (words cs) = leadWith leading cs := by
  by_cases filled : cs = []
  · subst filled
    rfl
  · rw [words_of_solid filled solid]
    exact List.append_nil _

theorem leadWith_lower_eq_self_iff : leadWith .lower cs = cs ↔ ∀ c ∈ cs.head?, lowerCase c = [c] := by
  cases cs with
  | nil => simp [leadWith]
  | cons c cs =>
      change lowerCase c ++ cs = [c] ++ cs ↔ _
      rw [List.append_left_inj]
      simp

theorem flatten_splitOnP (separates : Char → Bool) (cs : List Char) :
    (cs.splitOnP separates).flatten = cs.filter (!separates ·) := by
  induction cs with
  | nil => rfl
  | cons c cs ih =>
      obtain ⟨first, rest, parts⟩ := List.exists_cons_of_ne_nil (List.splitOnP_ne_nil separates cs)
      rw [List.splitOnP_cons_eq_if_modifyHead, List.filter_cons, ← ih, parts]
      cases separates c <;> rfl

/-- The words of a name have all of its characters but the separators. -/
theorem flatten_words (cs : List Char) : (words cs).flatten = cs.filter (!isWordSeparator ·) := by
  rw [words, List.flatten_filter_not_isEmpty, flatten_splitOnP]

section CamelCase

variable {name : String} {leading again : LeadingCase}

theorem mem_filter_of_mem_camelize (caseless : IsCaseless c) (member : c ∈ (camelize name leading).toList) :
    c ∈ name.toList.filter (!isWordSeparator ·) := by
  rwa [camelize, String.toList_ofList, ← List.count_pos_iff, caseless.count_camelWords, flatten_words,
    List.count_pos_iff] at member

/-- A character without case is in camel case only if it is in the name. -/
theorem mem_of_mem_camelize (caseless : IsCaseless c) (member : c ∈ (camelize name leading).toList) :
    c ∈ name.toList :=
  List.mem_of_mem_filter (mem_filter_of_mem_camelize caseless member)

/-- No name has separators in camel case. -/
theorem isWordSeparator_of_mem_camelize (member : c ∈ (camelize name leading).toList) :
    isWordSeparator c = false := by
  by_contra separates
  rw [Bool.not_eq_false] at separates
  have kept := mem_filter_of_mem_camelize (isCaseless_of_isWordSeparator separates) member
  rw [List.mem_filter, separates] at kept
  cases kept.2

/-! ### Names in ASCII

In ASCII one letter stands for another one when the case is changed, so that the case can be changed again.
Elsewhere that need not be so: the sharp s is two letters in upper case. -/

/-- The name has characters of ASCII only. -/
def IsAscii (name : String) : Prop :=
  ∀ c ∈ name.toList, c.isAscii = true

-- The instance goes through the characters of the name; the search may also find one through all characters.
instance (name : String) : Decidable (IsAscii name) :=
  (List.decidableBAll _ _ : Decidable (∀ c ∈ name.toList, c.isAscii = true))

/-- The character in the given case, if it is a letter of ASCII. -/
def LeadingCase.convert : LeadingCase → Char → Char
  | .upper => Char.toUpper
  | .lower => Char.toLower

theorem exists_ofNat_of_isAscii (ascii : c.isAscii = true) : ∃ n < 128, c = Char.ofNat n :=
  ⟨c.toNat, of_decide_eq_true ascii, (Char.ofNat_toNat c).symm⟩

/-- Of a mapping with one span of letters in ASCII nothing else matters there. -/
theorem mapCase_of_isAscii {sequences : List (Nat × List Nat)} {letters : Span} {spans : List Span}
    (ascii : c.isAscii = true) (beyond : ∀ entry ∈ sequences, 128 ≤ entry.1)
    (spans_beyond : ∀ span ∈ spans, 128 ≤ span.first) :
    mapCase sequences (letters :: spans) c = mapCase [] [letters] c := by
  have small : c.toNat < 128 := of_decide_eq_true ascii
  have listed : sequences.lookup c.toNat = none := by
    rw [List.lookup_eq_none_iff]
    intro entry member
    have large := beyond entry member
    rw [bne_iff_ne]
    omega
  have covered : spans.find? (·.covers c.toNat) = none := by
    rw [List.find?_eq_none]
    intro span member
    have large := spans_beyond span member
    simp only [Span.covers, Bool.and_eq_true, decide_eq_true_eq]
    omega
  rw [mapCase, mapCase, listed, List.find?_cons, List.find?_cons, covered]
  rfl

theorem upperCase_of_isAscii (ascii : c.isAscii = true) : upperCase c = [c.toUpper] := by
  have letters : upperCase c = mapCase [] [⟨0x61, 0x7A, 1, -32⟩] c :=
    mapCase_of_isAscii ascii (by decide +kernel) (by decide +kernel)
  have raised : ∀ n < 128, mapCase [] [⟨0x61, 0x7A, 1, -32⟩] (Char.ofNat n) = [(Char.ofNat n).toUpper] := by
    decide +kernel
  obtain ⟨n, small, rfl⟩ := exists_ofNat_of_isAscii ascii
  rw [letters, raised n small]

theorem lowerCase_of_isAscii (ascii : c.isAscii = true) : lowerCase c = [c.toLower] := by
  have letters : lowerCase c = mapCase [] [⟨0x41, 0x5A, 1, 32⟩] c :=
    mapCase_of_isAscii ascii (by decide +kernel) (by decide +kernel)
  have lowered : ∀ n < 128, mapCase [] [⟨0x41, 0x5A, 1, 32⟩] (Char.ofNat n) = [(Char.ofNat n).toLower] := by
    decide +kernel
  obtain ⟨n, small, rfl⟩ := exists_ofNat_of_isAscii ascii
  rw [letters, lowered n small]

theorem isAscii_convert (ascii : c.isAscii = true) (leading : LeadingCase) :
    (leading.convert c).isAscii = true := by
  have raised : ∀ n < 128, (Char.ofNat n).toUpper.isAscii = true := by decide +kernel
  have lowered : ∀ n < 128, (Char.ofNat n).toLower.isAscii = true := by decide +kernel
  obtain ⟨n, small, rfl⟩ := exists_ofNat_of_isAscii ascii
  cases leading with
  | upper => exact raised n small
  | lower => exact lowered n small

/-- Of two conversions of a character the last one counts. -/
theorem convert_convert (ascii : c.isAscii = true) (leading again : LeadingCase) :
    again.convert (leading.convert c) = again.convert c := by
  have letters : ∀ n < 128, (Char.ofNat n).toUpper.toUpper = (Char.ofNat n).toUpper ∧
      (Char.ofNat n).toUpper.toLower = (Char.ofNat n).toLower ∧
      (Char.ofNat n).toLower.toUpper = (Char.ofNat n).toUpper ∧
      (Char.ofNat n).toLower.toLower = (Char.ofNat n).toLower := by
    decide +kernel
  obtain ⟨n, small, rfl⟩ := exists_ofNat_of_isAscii ascii
  obtain ⟨raisedTwice, raisedLowered, loweredRaised, loweredTwice⟩ := letters n small
  match leading, again with
  | .upper, .upper => exact raisedTwice
  | .upper, .lower => exact raisedLowered
  | .lower, .upper => exact loweredRaised
  | .lower, .lower => exact loweredTwice

/-- The first character of a word in ASCII is converted, and nothing else. -/
theorem leadWith_cons (ascii : c.isAscii = true) (leading : LeadingCase) (cs : List Char) :
    leadWith leading (c :: cs) = leading.convert c :: cs := by
  cases leading with
  | upper =>
      rw [leadWith, upperCase_of_isAscii ascii]
      rfl
  | lower =>
      rw [leadWith, lowerCase_of_isAscii ascii]
      rfl

theorem map_toLower_leadWith {word : List Char} (ascii : ∀ c ∈ word, c.isAscii = true) (leading : LeadingCase) :
    (leadWith leading word).map Char.toLower = word.map Char.toLower := by
  cases word with
  | nil => rfl
  | cons c cs =>
      have first := ascii c List.mem_cons_self
      have lowered : (leading.convert c).toLower = c.toLower := convert_convert first leading .lower
      rw [leadWith_cons first, List.map_cons, lowered, List.map_cons]

section Words

variable {ws : List (List Char)} (ascii : ∀ word ∈ ws, ∀ c ∈ word, c.isAscii = true)

include ascii

/-- Words in camel case begin as the first of them does, so that one conversion covers another one. -/
theorem leadWith_camelWords (filled : ∀ word ∈ ws, word ≠ []) (leading again : LeadingCase) :
    leadWith again (camelWords leading ws) = camelWords again ws := by
  cases ws with
  | nil => rfl
  | cons word rest =>
      obtain ⟨c, cs, rfl⟩ := List.exists_cons_of_ne_nil (filled word List.mem_cons_self)
      have first := ascii (c :: cs) List.mem_cons_self c List.mem_cons_self
      rw [camelWords, camelWords, leadWith_cons first, leadWith_cons first, List.cons_append,
        leadWith_cons (isAscii_convert first leading), convert_convert first]
      rfl

/-- But for the case of letters, camel case has the characters of the words. -/
theorem map_toLower_camelWords (leading : LeadingCase) :
    (camelWords leading ws).map Char.toLower = ws.flatten.map Char.toLower := by
  cases ws with
  | nil => rfl
  | cons word rest =>
      have first := map_toLower_leadWith (ascii word List.mem_cons_self) leading
      have others : (rest.flatMap (leadWith .upper)).map Char.toLower = rest.flatten.map Char.toLower := by
        rw [List.map_flatMap, List.map_flatten, List.flatMap_def]
        congr 1
        apply List.map_congr_left
        exact fun word later => map_toLower_leadWith (ascii word (List.mem_cons_of_mem _ later)) .upper
      rw [camelWords, List.map_append, first, others, List.flatten_cons, List.map_append]

end Words

theorem ne_nil_of_mem_words {word : List Char} (member : word ∈ words cs) : word ≠ [] := by
  simpa using (List.mem_filter.mp member).2

section IsAscii

variable (ascii : IsAscii name)

include ascii

theorem isAscii_of_mem_words {word : List Char} (member : word ∈ words name.toList) :
    ∀ c ∈ word, c.isAscii = true := by
  intro c inside
  have among : c ∈ (words name.toList).flatten := List.mem_flatten.mpr ⟨word, member, inside⟩
  rw [flatten_words] at among
  exact ascii c (List.mem_of_mem_filter among)

/-- A name that is in camel case already is one word, of which only the first character is converted. -/
theorem camelize_camelize (leading again : LeadingCase) :
    camelize (camelize name leading) again = camelize name again := by
  have solid : ∀ c ∈ camelWords leading (words name.toList), isWordSeparator c = false := by
    intro c member
    exact isWordSeparator_of_mem_camelize (by rwa [camelize, String.toList_ofList])
  have filled : ∀ word ∈ words name.toList, word ≠ [] := fun _ => ne_nil_of_mem_words
  have covered := leadWith_camelWords (fun _ => isAscii_of_mem_words ascii) filled leading again
  rw [camelize, camelize, String.toList_ofList, camelWords_of_solid again solid, covered]
  rfl

/-- But for the case of letters, a name in camel case is the name without separators. -/
theorem map_toLower_camelize (leading : LeadingCase) :
    (camelize name leading).toList.map Char.toLower =
      (name.toList.filter (!isWordSeparator ·)).map Char.toLower := by
  rw [camelize, String.toList_ofList, map_toLower_camelWords fun _ => isAscii_of_mem_words ascii,
    flatten_words]

end IsAscii

example : camelize "ß" .lower = "ß" ∧ camelize (camelize "ß" .upper) .lower = "sS" := by decide +kernel

end CamelCase

end Blueprint.Text

/-
Module: Blueprint.Proofs.Document.Written
Purpose: Documents as they are written. A tag gives values to names, a forest is shown by its tags and the texts
  between them, and what is shown is read back: the values of a tag are those that it gives, the events of the
  text are those of the forest, and the document is read as recursion over the forest reads it. Names are words
  of letters and digits; a value holds neither the quotation mark around it nor a reference; and between two
  tags there is at most one text.
Main exports: IsWord, IsQuotable, IsPlainTag, tagOf, tagValues_tagOf, Forest.Shows, scanFrom_shows, ofDocument_shows
-/
import Blueprint.Proofs.Document.Resolution
import Blueprint.Proofs.Markup.Attribute
import Mathlib.Data.List.DropRight

namespace Blueprint.Document

open Blueprint.Markup (Attribute Event SeenNames Stream Tag Writable attributesFrom_written cutWhile_of_stop isKeyPart
  isSpace quoteOf readAttributes soundAttributes)
open Blueprint.Text (cutWhile)

/-! ### Tags -/

/-- A name as tags and their attributes have it: letters and digits, at least one of them. -/
structure IsWord (name : String) : Prop where
  filled : name ≠ ""
  plain : ∀ c ∈ name.toList, c.isAlphanum = true

/-- A value that can stand between quotation marks as it is. -/
def IsQuotable (value : String) : Prop :=
  ∀ c ∈ value.toList, c ≠ '"' ∧ c ≠ '&'

/-- The characters that give a value to a name. -/
def giving (name value : String) : List Char :=
  ' ' :: (name.toList ++ '=' :: '"' :: (value.toList ++ ['"']))

/-- The characters that give values to names in order. -/
def givings (values : List (String × String)) : List Char :=
  values.flatMap fun (name, value) => giving name value

/-- The tag that gives values to names in order. -/
def tagOf (name : String) (values : List (String × String)) : Tag :=
  ⟨name, String.ofList (givings values)⟩

/-- The tag has a word for its name, and gives values that can be quoted to distinct words. -/
structure IsPlainTag (name : String) (values : List (String × String)) : Prop where
  named : IsWord name
  words : ∀ given ∈ values, IsWord given.1 ∧ IsQuotable given.2
  distinct : (values.map Prod.fst).Nodup

-- The instances go through the characters of the text; the search may also find one through all characters.

instance (name : String) : Decidable (IsWord name) :=
  have : Decidable (∀ c ∈ name.toList, c.isAlphanum = true) := List.decidableBAll _ _
  decidable_of_iff (name ≠ "" ∧ ∀ c ∈ name.toList, c.isAlphanum = true)
    ⟨fun ⟨filled, plain⟩ => ⟨filled, plain⟩, fun ⟨filled, plain⟩ => ⟨filled, plain⟩⟩

instance (value : String) : Decidable (IsQuotable value) :=
  List.decidableBAll _ _

theorem isQuotable_append {first second : String} (before : IsQuotable first) (behind : IsQuotable second) :
    IsQuotable (first ++ second) := by
  intro c member
  rw [String.toList_append] at member
  exact (List.mem_append.mp member).elim (before c) (behind c)

theorem IsPlainTag.nil {name : String} (named : IsWord name) : IsPlainTag name [] where
  named
  words _ member := nomatch member
  distinct := List.nodup_nil

/-- One more value, for a word that has none. -/
theorem IsPlainTag.cons {name key value : String} {values : List (String × String)}
    (plain : IsPlainTag name values) (word : IsWord key) (quotable : IsQuotable value)
    (fresh : key ∉ values.map Prod.fst) : IsPlainTag name ((key, value) :: values) where
  named := plain.named
  words := List.forall_mem_cons.mpr ⟨⟨word, quotable⟩, plain.words⟩
  distinct := List.nodup_cons.mpr ⟨fresh, plain.distinct⟩

/-! ### Words -/

/-- Letters and digits are none of the characters that markup sets apart. -/
theorem alphanum_ne {c other : Char} (plain : c.isAlphanum = true) (special : other.isAlphanum = false) :
    c ≠ other := by
  rintro rfl
  rw [plain] at special
  cases special

theorem isSpace_of_alphanum {c : Char} (plain : c.isAlphanum = true) : isSpace c = false := by
  unfold isSpace
  simp [alphanum_ne plain (by decide : '\t'.isAlphanum = false),
    alphanum_ne plain (by decide : '\n'.isAlphanum = false),
    alphanum_ne plain (by decide : '\r'.isAlphanum = false),
    alphanum_ne plain (by decide : ' '.isAlphanum = false)]

theorem isKeyPart_of_alphanum {c : Char} (plain : c.isAlphanum = true) : isKeyPart c = true := by
  have differs : c ≠ '=' := alphanum_ne plain (by decide)
  simp [isKeyPart, differs, isSpace_of_alphanum plain]

/-- The first character of a word and the others. -/
theorem IsWord.exists_cons {name : String} (word : IsWord name) :
    ∃ first rest, name.toList = first :: rest ∧ first.isAlphanum = true ∧
      ∀ c ∈ rest, c.isAlphanum = true := by
  have filled : name.toList ≠ [] := by simpa using word.filled
  obtain ⟨first, rest, parts⟩ := List.exists_cons_of_ne_nil filled
  have plain := word.plain
  rw [parts, List.forall_mem_cons] at plain
  exact ⟨first, rest, parts, plain.1, plain.2⟩

/-! ### Reading attributes -/

/-- A word can be written as the name of an attribute. -/
theorem isWritable_of_word {name value : String} (word : IsWord name) (quotable : IsQuotable value) :
    Attribute.IsWritable ⟨name, value⟩ := by
  obtain ⟨first, rest, parts, plain, plains⟩ := word.exists_cons
  exact {
    named := ⟨first, rest, parts, isSpace_of_alphanum plain,
      fun c member => isKeyPart_of_alphanum (plains c member)⟩
    quotable := .inl fun member => (quotable _ member).1 rfl }

/-- Values that are given to words are written as attributes are. -/
theorem givings_eq_written {values : List (String × String)} (words : ∀ given ∈ values, IsQuotable given.2) :
    givings values = (values.map fun (name, value) => ⟨name, value⟩).flatMap Attribute.written := by
  rw [givings, List.flatMap_map]
  refine List.flatMap_congr fun given member => ?_
  have double : quoteOf given.2 = '"' := if_neg fun within => (words given member _ within).1 rfl
  simp [giving, Attribute.written, double]

/-- Values that are given to distinct words not seen before can be written one after the other. -/
theorem writable_givings {values : List (String × String)} {seen : SeenNames}
    (words : ∀ given ∈ values, IsWord given.1 ∧ IsQuotable given.2) (distinct : (values.map Prod.fst).Nodup)
    (fresh : ∀ given ∈ values, seen.lookup given.1.toList = none) :
    Writable seen (values.map fun (name, value) => ⟨name, value⟩) := by
  induction values generalizing seen with
  | nil => exact .nil
  | cons pair values ih =>
      obtain ⟨here, later⟩ := List.forall_mem_cons.mp words
      obtain ⟨apart, distinct⟩ := List.nodup_cons.mp distinct
      obtain ⟨unseen, fresh⟩ := List.forall_mem_cons.mp fresh
      refine @Writable.cons _ _ _ 0 (isWritable_of_word here.1 here.2) unseen (ih later distinct ?_)
      intro given member
      have differs : given.1.toList ≠ pair.1.toList := fun same =>
        apart (List.mem_map.mpr ⟨given, member, String.toList_inj.mp same⟩)
      exact Markup.lookup_cons_eq_none.mpr ⟨differs, fresh given member⟩

/-- A text without references stands for itself. -/
theorem unescapeFrom_quotable {cs : List Char} (offset : Nat) (plain : ∀ c ∈ cs, c ≠ '&') :
    Markup.unescapeFrom offset cs = .ok cs := by
  induction cs generalizing offset with
  | nil => rw [Markup.unescapeFrom]
  | cons c cs ih =>
      obtain ⟨here, later⟩ := List.forall_mem_cons.mp plain
      rw [Markup.unescapeFrom, if_neg (by simpa using here), ih _ later]
      rfl

theorem unescape_quotable {value : String} (quotable : IsQuotable value) : Markup.unescape value = .ok value := by
  rw [Markup.unescape, unescapeFrom_quotable 0 fun c member => (quotable c member).2]
  simp [Except.map]

/-- The values of a tag are those that it gives. -/
theorem tagValues_tagOf {name : String} {values : List (String × String)} (plain : IsPlainTag name values) :
    tagValues (tagOf name values) = .ok values := by
  have read : soundAttributes (tagOf name values) = values.map fun (name, value) => ⟨name, value⟩ := by
    simp only [soundAttributes, readAttributes, tagOf, String.toList_ofList]
    rw [givings_eq_written fun given member => (plain.words given member).2,
      attributesFrom_written (writable_givings plain.words plain.distinct (by simp)), List.filterMap_map]
    exact List.filterMap_some
  rw [tagValues, read, mapM_eq_ok, List.forall₂_map_left_iff, List.forall₂_same]
  intro given member
  simp only [unescape_quotable (plain.words given member).2]

/-! ### Scanning tags -/

/-- The text behind a tag, or the end of the document. -/
def BeginsTag (cs : List Char) : Prop :=
  ∀ c ∈ cs.head?, c = '<'

/-- The content of a tag goes up to a `>`, given the quotation mark that is open. -/
def CutsTag (quote : Option Char) (cs content rest : List Char) : Prop :=
  ∃ shorter, Markup.cutTag quote cs = .ok (content, ⟨rest, shorter⟩)

/-- The quotation mark that is open behind a character. -/
def quoteBehind (c : Char) : Option Char → Option Char
  | none => if c == '\'' || c == '"' then some c else none
  | some mark => if c == mark then none else some mark

/-- A tag is cut one character at a time. -/
theorem cutTag_cons (quote : Option Char) (c : Char) (cs : List Char) :
    Markup.cutTag quote (c :: cs) =
      if quote.isNone && c == '>' then .ok ([], ⟨cs, Nat.le_succ _⟩)
      else match Markup.cutTag (quoteBehind c quote) cs with
        | .error fault => .error fault
        | .ok (content, ⟨rest, shorter⟩) => .ok (c :: content, ⟨rest, Nat.le_succ_of_le shorter⟩) :=
  rfl

theorem cutsTag_close (rest : List Char) : CutsTag none ('>' :: rest) [] rest :=
  ⟨Nat.le_succ _, rfl⟩

variable {content rest : List Char}

/-- Any other character belongs to the content, and so does a `>` between quotation marks. -/
theorem CutsTag.cons {quote behind : Option Char} {c : Char} {cs : List Char}
    (goesOn : (quote.isNone && c == '>') = false) (turned : quoteBehind c quote = behind)
    (cuts : CutsTag behind cs content rest) : CutsTag quote (c :: cs) (c :: content) rest := by
  obtain ⟨shorter, cut⟩ := cuts
  refine ⟨Nat.le_succ_of_le shorter, ?_⟩
  rw [cutTag_cons, goesOn, if_neg Bool.false_ne_true, turned, cut]

/-- Characters outside of quotation marks belong to the content. -/
theorem CutsTag.bare {front cs : List Char} (plain : ∀ c ∈ front, c ≠ '>' ∧ c ≠ '\'' ∧ c ≠ '"')
    (cuts : CutsTag none cs content rest) : CutsTag none (front ++ cs) (front ++ content) rest := by
  induction front with
  | nil => exact cuts
  | cons c front ih =>
      obtain ⟨⟨notEnd, notSingle, notDouble⟩, later⟩ := List.forall_mem_cons.mp plain
      have none_opened : quoteBehind c none = none := by simp [quoteBehind, notSingle, notDouble]
      exact .cons (by simpa using notEnd) none_opened (ih later)

/-- A slash belongs to the content. -/
theorem CutsTag.slash {cs : List Char} (cuts : CutsTag none cs content rest) :
    CutsTag none ('/' :: cs) ('/' :: content) rest :=
  @CutsTag.bare _ _ ['/'] _ (by simp) cuts

/-- A quoted value belongs to the content with the quotation marks around it. -/
theorem CutsTag.quoted {value cs : List Char} (plain : ∀ c ∈ value, c ≠ '"')
    (cuts : CutsTag none cs content rest) :
    CutsTag none ('"' :: (value ++ '"' :: cs)) ('"' :: (value ++ '"' :: content)) rest := by
  have inside : CutsTag (some '"') (value ++ '"' :: cs) (value ++ '"' :: content) rest := by
    induction value with
    | nil => exact .cons rfl (by simp [quoteBehind]) cuts
    | cons c value ih =>
        obtain ⟨here, later⟩ := List.forall_mem_cons.mp plain
        have still_open : quoteBehind c (some '"') = some '"' := by simp [quoteBehind, here]
        exact .cons rfl still_open (ih later)
  exact .cons (by simp) (by simp [quoteBehind]) inside

/-- A word belongs to the content. -/
theorem CutsTag.word {name : String} {cs : List Char} (word : IsWord name) (cuts : CutsTag none cs content rest) :
    CutsTag none (name.toList ++ cs) (name.toList ++ content) rest :=
  cuts.bare fun c member => ⟨alphanum_ne (word.plain c member) (by decide),
    alphanum_ne (word.plain c member) (by decide), alphanum_ne (word.plain c member) (by decide)⟩

/-- What gives values to names belongs to the content. -/
theorem CutsTag.givings {values : List (String × String)} {cs : List Char}
    (words : ∀ given ∈ values, IsWord given.1 ∧ IsQuotable given.2) (cuts : CutsTag none cs content rest) :
    CutsTag none (givings values ++ cs) (givings values ++ content) rest := by
  induction values with
  | nil => exact cuts
  | cons pair values ih =>
      obtain ⟨name, value⟩ := pair
      obtain ⟨⟨word, quotable⟩, later⟩ := List.forall_mem_cons.mp words
      have text : ∀ cs, Document.givings ((name, value) :: values) ++ cs =
          [' '] ++ (name.toList ++ (['='] ++ '"' :: (value.toList ++ '"' :: (Document.givings values ++ cs)))) := by
        simp [Document.givings, giving]
      rw [text, text]
      exact ((((ih later).quoted fun c member => (quotable c member).1).bare (by simp)).word word).bare (by simp)

/-! ### Forests and their texts -/

/-- The content of a tag that gives values to names in order. -/
def tagText (name : String) (values : List (String × String)) : List Char :=
  name.toList ++ givings values

/-- The text shows the forest. -/
inductive Forest.Shows : Forest → List Char → Prop where
  | nil : Shows .nil []
  | text {content : String} {rest : Forest} {cs : List Char} (filled : content ≠ "")
      (plain : ∀ c ∈ content.toList, c ≠ '<' ∧ c ≠ '&') (apart : BeginsTag cs) (later : Shows rest cs) :
      Shows (.leaf (.text content) rest) (content.toList ++ cs)
  | empty {name : String} {values : List (String × String)} {rest : Forest} {cs : List Char}
      (plain : IsPlainTag name values) (later : Shows rest cs) :
      Shows (.empty (tagOf name values) rest) ('<' :: (tagText name values ++ '/' :: '>' :: cs))
  | element {name : String} {values : List (String × String)} {inside rest : Forest} {within cs : List Char}
      (plain : IsPlainTag name values) (held : Shows inside within) (later : Shows rest cs) :
      Shows (.element (tagOf name values) inside name rest)
        ('<' :: (tagText name values ++ '>' :: (within ++ '<' :: '/' :: (name.toList ++ '>' :: cs))))

/-! ### Scanning forests -/

open Markup (closingName nextPiece scanFrom)

/-- A text is a part of the document up to the next tag. -/
theorem scanFrom_text {content : List Char} (filled : content ≠ []) (plain : ∀ c ∈ content, c ≠ '<' ∧ c ≠ '&')
    {cs : List Char} (apart : BeginsTag cs) (opened : List String) :
    scanFrom opened (content ++ cs) = (scanFrom opened cs).cons (.text (String.ofList content)) := by
  obtain ⟨c, content, rfl⟩ := List.exists_cons_of_ne_nil filled
  obtain ⟨⟨notTag, notReference⟩, later⟩ := List.forall_mem_cons.mp plain
  obtain ⟨shorter, cut⟩ : ∃ shorter, cutWhile (fun c => !(c == '<' || c == '&')) (content ++ cs) =
      (content, ⟨cs, shorter⟩) :=
    cutWhile_of_stop (fun c member => by simpa using later c member) fun c first => by simp [apart c first]
  have piece : nextPiece c (content ++ cs) = .ok (.text (c :: content), ⟨cs, shorter⟩) := by
    simp only [nextPiece, beq_iff_eq, notReference, notTag, if_false, cut]
  rw [List.cons_append, scanFrom, piece]
  rfl

/-- A tag is a part of the document up to its `>`. -/
theorem scanFrom_tag {cs content rest : List Char} (cuts : CutsTag none cs content rest)
    (plain : ∀ c ∈ cs.head?, c ≠ '!' ∧ c ≠ '?') {opened inner : List String} {event : Event}
    (stands : Event.ofPiece opened (.tag content) = .ok (event, inner)) :
    scanFrom opened ('<' :: cs) = (scanFrom inner rest).cons event := by
  obtain ⟨shorter, cut⟩ := cuts
  have piece : nextPiece '<' cs = .ok (.tag content, ⟨rest, shorter⟩) := by
    cases cs with
    | nil => simp [nextPiece, cut]
    | cons c cs =>
        obtain ⟨notDeclared, notInstruction⟩ := plain c rfl
        simp [nextPiece, notDeclared, notInstruction, cut]
  rw [scanFrom, piece]
  dsimp only
  rw [stands]

section Tags

variable {name : String} {values : List (String × String)} (plain : IsPlainTag name values)

include plain

/-- A tag begins with a letter or digit. -/
theorem IsPlainTag.exists_cons :
    ∃ first rest, tagText name values = first :: rest ∧ first.isAlphanum = true := by
  obtain ⟨first, rest, parts, letter, -⟩ := plain.named.exists_cons
  exact ⟨first, rest ++ givings values, by simp [tagText, parts], letter⟩

/-- A tag begins neither a declaration nor an instruction. -/
theorem IsPlainTag.head?_plain {more : List Char} : ∀ c ∈ (tagText name values ++ more).head?, c ≠ '!' ∧ c ≠ '?' := by
  intro c first
  obtain ⟨letter, rest, text, plain⟩ := plain.exists_cons
  rw [text] at first
  cases first
  exact ⟨alphanum_ne plain (by decide), alphanum_ne plain (by decide)⟩

/-- A tag does not end with a slash. -/
theorem IsPlainTag.getLast?_ne : (tagText name values).getLast? ≠ some '/' := by
  rcases List.eq_nil_or_concat values with rfl | ⟨front, ⟨key, value⟩, rfl⟩
  · have letters : ∀ c ∈ (tagText name []).getLast?, c.isAlphanum = true := fun c last =>
      plain.named.plain c (by simpa [tagText, givings] using List.mem_of_getLast? last)
    exact fun last => absurd (letters '/' last) (by decide)
  · have text : tagText name (front ++ [(key, value)]) =
        name.toList ++ givings front ++ ' ' :: (key.toList ++ '=' :: '"' :: value.toList) ++ ['"'] := by
      simp [tagText, givings, giving]
    rw [List.concat_eq_append, text, List.getLast?_concat]
    decide

/-- What names a tag and gives it values belongs to its content. -/
theorem IsPlainTag.cutsTag {cs content rest : List Char} (cuts : CutsTag none cs content rest) :
    CutsTag none (tagText name values ++ cs) (tagText name values ++ content) rest := by
  simpa only [tagText, List.append_assoc] using (cuts.givings plain.words).word plain.named

/-- The name of a tag goes up to the first value that it gives. -/
theorem IsPlainTag.ofContent : Tag.ofContent (tagText name values) = tagOf name values := by
  have letters : ∀ c ∈ name.toList, (!isSpace c) = true := fun c member => by
    rw [isSpace_of_alphanum (plain.named.plain c member)]
    rfl
  have text : (givings values).takeWhile (fun c => !isSpace c) = [] ∧
      (givings values).dropWhile (fun c => !isSpace c) = givings values := by
    cases values with
    | nil => exact ⟨rfl, rfl⟩
    | cons given values => simp [givings, giving, isSpace]
  simp only [Tag.ofContent, tagText, List.takeWhile_append_of_pos letters, List.dropWhile_append_of_pos letters,
    text, List.append_nil, String.ofList_toList, tagOf]

/-- A tag that ends with a slash is an empty element. -/
theorem IsPlainTag.ofPiece_empty (opened : List String) :
    Event.ofPiece opened (.tag (tagText name values ++ ['/'])) = .ok (.empty (tagOf name values), opened) := by
  obtain ⟨first, rest, text, letter⟩ := plain.exists_cons
  have notClosing : first ≠ '/' := alphanum_ne letter (by decide)
  have content : tagText name values ++ ['/'] = first :: (rest ++ ['/']) := by rw [text, List.cons_append]
  rw [content, Event.ofPiece, ← content]
  · rw [if_pos List.getLast?_concat, List.dropLast_concat, plain.ofContent]
  · intro others same
    exact notClosing (List.cons.inj same).1

/-- A tag opens the element that it names. -/
theorem IsPlainTag.ofPiece_start (opened : List String) :
    Event.ofPiece opened (.tag (tagText name values)) = .ok (.start (tagOf name values), name :: opened) := by
  obtain ⟨first, rest, text, letter⟩ := plain.exists_cons
  have notClosing : first ≠ '/' := alphanum_ne letter (by decide)
  rw [text, Event.ofPiece, ← text]
  · rw [if_neg plain.getLast?_ne, plain.ofContent]
    rfl
  · intro others same
    exact notClosing (List.cons.inj same).1

end Tags

/-- A word is its own name in a closing tag. -/
theorem IsWord.closingName {name : String} (word : IsWord name) : closingName name.toList = name := by
  obtain ⟨first, rest, parts, letter, -⟩ := word.exists_cons
  have notBlank : ¬name.toList.all isSpace = true := by
    simp [parts, isSpace_of_alphanum letter]
  have last : (name.toList.reverse.dropWhile isSpace).reverse = name.toList := by
    refine List.rdropWhile_eq_self_iff.mpr fun filled => ?_
    simp [isSpace_of_alphanum (word.plain _ (List.getLast_mem filled))]
  rw [Markup.closingName, if_neg notBlank, last, String.ofList_toList]

/-- A closing tag closes the element opened last when it has its name. -/
theorem IsWord.ofPiece_finish {name : String} (word : IsWord name) (opened : List String) :
    Event.ofPiece (name :: opened) (.tag ('/' :: name.toList)) = .ok (.finish name, opened) := by
  rw [Event.ofPiece, word.closingName, Markup.closeElement, if_pos rfl]

/-- The events of a text that shows a forest are those of the forest. -/
theorem scanFrom_shows {forest : Forest} {text : List Char} (shows_ : forest.Shows text) {after : List Char}
    (apart : BeginsTag after) (opened : List String) :
    scanFrom opened (text ++ after) = forest.events.foldr Stream.cons (scanFrom opened after) := by
  induction shows_ generalizing after opened with
  | nil => rfl
  | @text content rest cs filled plain begins later ih =>
      have apart' : BeginsTag (cs ++ after) := by
        cases cs with
        | nil => exact apart
        | cons c cs => exact begins
      rw [List.append_assoc, scanFrom_text (by simpa using filled) plain apart', ih apart, String.ofList_toList]
      rfl
  | @empty name values rest cs plain later ih =>
      have cuts := plain.cutsTag (cutsTag_close (cs ++ after)).slash
      have stands := plain.ofPiece_empty opened
      simp only [List.cons_append, List.append_assoc]
      rw [scanFrom_tag cuts plain.head?_plain stands, ih apart]
      rfl
  | @element name values inside rest within cs plain held later ihHeld ih =>
      have cuts := plain.cutsTag
        (cutsTag_close (within ++ '<' :: '/' :: (name.toList ++ '>' :: (cs ++ after))))
      have cuts' := ((cutsTag_close (cs ++ after)).word plain.named).slash
      rw [List.append_nil] at cuts cuts'
      simp only [List.cons_append, List.append_assoc]
      rw [scanFrom_tag cuts plain.head?_plain (plain.ofPiece_start opened), ihHeld (by simp [BeginsTag]),
        scanFrom_tag cuts' (by simp) (plain.named.ofPiece_finish opened), ih apart]
      simp [Forest.events]

/-! ### Reading what is shown -/

theorem events_foldr_cons (events : List Event) (stream : Stream) :
    (events.foldr Stream.cons stream).events = events ++ stream.events := by
  induction events with
  | nil => rfl
  | cons event events ih => rw [List.foldr_cons, Stream.events_cons, ih, List.cons_append]

/-- A document that shows a model is read as recursion over the forest that the model holds reads it. -/
theorem ofDocument_shows {document : String} {values : List (String × String)} {inside rest : Forest}
    {within after : List Char} (plain : IsPlainTag "model" values) (held : inside.Shows within)
    (later : rest.Shows after)
    (written : document.toList =
      '<' :: (tagText "model" values ++ '>' :: (within ++ '<' :: '/' :: ("model".toList ++ '>' :: after)))) :
    Model.ofDocument document = modelOf (tagOf "model" values) inside := by
  have scanned := scanFrom_shows (.element plain held later) (by simp [BeginsTag] : BeginsTag []) []
  rw [List.append_nil, scanFrom, ← written] at scanned
  have stream : Stream.ofText document = scanFrom [] document.toList := by
    rw [Stream.ofText, written]
    rfl
  have events : (Stream.ofText document).events =
      [] ++ .start (tagOf "model" values) :: (inside.events ++ .finish "model" :: rest.events) := by
    rw [stream, scanned, events_foldr_cons]
    simp [Forest.events]
  have holds : ModelDocument (Stream.ofText document).events false (tagOf "model" values) inside := by
    rw [events]
    exact .filled rfl (by simp [NoneOpens])
  exact readDocument_document holds

end Blueprint.Document

/-
Module: Blueprint.Proofs.Php.Comments
Purpose: Doc blocks can be left out. A doc block stands right before a line that is not blank, so it is never
  the end of a block, where a blank line may be taken back. Without doc blocks a declaration needs the same
  imports, and its lines are those with doc blocks, less the doc blocks, each whole: one for each text that
  documents the declaration, its members and what is nested in it.
Main exports: DocBlock, LosesDocs, Fragment.LosesDocs, Rendering.declaredDocs, docTexts, DiffersInDocs,
  docs_change_comments_only
-/
import Blueprint.Proofs.Php.Declaration
import Blueprint.Proofs.Text.Lines

namespace Blueprint.Php

/-! ### Doc blocks -/

/-- The doc block of a text: a line that opens it, one that closes it, and between them lines that begin with
    a star and tell the text, all at one level. -/
inductive DocBlock (text : String) : List SourceLine → Prop where
  | comment {level : Nat} {inner : List SourceLine}
      (starred : ∀ line ∈ inner, line.level = level ∧
        (line.text = " *" ∨ ∃ rest, line.text = " * " ++ rest))
      (tells : inner.map SourceLine.text = (Text.lines (Text.trim text)).map docLine) :
      DocBlock text (⟨level, "/**"⟩ :: inner ++ [⟨level, " */"⟩])

/-- The second list of lines is the first one without the doc blocks of the texts, in their order. Each of
    them stands before a line that is kept and is not blank. -/
inductive LosesDocs : List String → List SourceLine → List SourceLine → Prop where
  | nil : LosesDocs [] [] []
  | kept {texts : List String} {lines bare : List SourceLine} (line : SourceLine)
      (rest : LosesDocs texts lines bare) : LosesDocs texts (line :: lines) (line :: bare)
  | lost {text : String} {texts : List String} {block lines bare : List SourceLine}
      (docs : DocBlock text block) (line : SourceLine) (filled : line.text ≠ "")
      (rest : LosesDocs texts lines bare) :
      LosesDocs (text :: texts) (block ++ line :: lines) (line :: bare)

theorem DocBlock.deeper {text : String} {block : List SourceLine} (docs : DocBlock text block) :
    DocBlock text (block.map SourceLine.deeper) := by
  cases docs with
  | comment starred tells =>
      rw [List.map_append, List.map_cons, List.map_singleton]
      apply DocBlock.comment
      · intro line member
        obtain ⟨line, inside, rfl⟩ := List.mem_map.mp member
        obtain ⟨level, text⟩ := starred line inside
        exact ⟨congrArg (· + 1) level, text⟩
      · rw [List.map_map, ← tells]
        rfl

namespace LosesDocs

variable {texts moreTexts : List String} {lines bare more bareMore : List SourceLine}

theorem refl (lines : List SourceLine) : LosesDocs [] lines lines := by
  induction lines with
  | nil => exact .nil
  | cons line lines ih => exact .kept line ih

theorem append (first : LosesDocs texts lines bare) (second : LosesDocs moreTexts more bareMore) :
    LosesDocs (texts ++ moreTexts) (lines ++ more) (bare ++ bareMore) := by
  induction first with
  | nil => exact second
  | kept line _ ih => exact .kept line ih
  | lost docs line filled _ ih =>
      rw [List.append_assoc]
      exact .lost docs line filled ih

/-- Lines that come before are kept. -/
theorem preceded (more : List SourceLine) (loses : LosesDocs texts lines bare) :
    LosesDocs texts (more ++ lines) (more ++ bare) := by
  induction more with
  | nil => exact loses
  | cons line _ ih => exact .kept line ih

/-- Lines that follow are kept. -/
theorem followed (loses : LosesDocs texts lines bare) (more : List SourceLine) :
    LosesDocs texts (lines ++ more) (bare ++ more) := by
  have whole := loses.append (.refl more)
  rwa [List.append_nil] at whole

theorem deeper (loses : LosesDocs texts lines bare) :
    LosesDocs texts (lines.map SourceLine.deeper) (bare.map SourceLine.deeper) := by
  induction loses with
  | nil => exact .nil
  | kept line _ ih => exact .kept line.deeper ih
  | lost docs line filled _ ih =>
      rw [List.map_append, List.map_cons]
      exact .lost docs.deeper line.deeper filled ih

/-- The last line is the same with and without doc blocks, and if it is blank it can be taken back from both:
    there is no doc block before it. -/
theorem concat_inv (loses : LosesDocs texts lines bare) :
    (texts = [] ∧ lines = [] ∧ bare = []) ∨ ∃ before bareBefore last, lines = before ++ [last] ∧
      bare = bareBefore ++ [last] ∧ (last.text = "" → LosesDocs texts before bareBefore) := by
  induction loses with
  | nil => exact .inl ⟨rfl, rfl, rfl⟩
  | kept line _ ih =>
      right
      rcases ih with ⟨rfl, rfl, rfl⟩ | ⟨before, bareBefore, last, rfl, rfl, loses⟩
      · exact ⟨[], [], line, rfl, rfl, fun _ => .nil⟩
      · exact ⟨line :: before, line :: bareBefore, last, rfl, rfl, fun blank => .kept line (loses blank)⟩
  | @lost _ _ block _ _ docs line filled _ ih =>
      right
      rcases ih with ⟨rfl, rfl, rfl⟩ | ⟨before, bareBefore, last, rfl, rfl, loses⟩
      · exact ⟨block, [], line, rfl, rfl, fun blank => absurd blank filled⟩
      · refine ⟨block ++ line :: before, line :: bareBefore, last, ?_, rfl, fun blank => ?_⟩
        · rw [List.append_assoc, List.cons_append]
        · exact .lost docs line filled (loses blank)

end LosesDocs

/-! ### Fragments -/

/-- The second fragment is the first one without the doc blocks of the texts. It needs the same imports. -/
structure Fragment.LosesDocs (texts : List String) (documented bare : Fragment) : Prop where
  imports : bare.imports = documented.imports
  lines : Php.LosesDocs texts documented.lines bare.lines

namespace Fragment.LosesDocs

variable {texts moreTexts : List String} {first bareFirst second bareSecond : Fragment}

theorem refl (fragment : Fragment) : Fragment.LosesDocs [] fragment fragment where
  imports := rfl
  lines := .refl fragment.lines

theorem append (before : Fragment.LosesDocs texts first bareFirst)
    (after : Fragment.LosesDocs moreTexts second bareSecond) :
    Fragment.LosesDocs (texts ++ moreTexts) (first ++ second) (bareFirst ++ bareSecond) where
  imports := by rw [imports_append, imports_append, before.imports, after.imports]
  lines := before.lines.append after.lines

/-- What comes before is kept. -/
theorem preceded (before : Fragment) (loses : Fragment.LosesDocs texts first bareFirst) :
    Fragment.LosesDocs texts (before ++ first) (before ++ bareFirst) where
  imports := by rw [imports_append, imports_append, loses.imports]
  lines := loses.lines.preceded before.lines

theorem concat {α : Type} {items : List α} {told : α → List String} {documented bare : α → Fragment}
    (each : ∀ item ∈ items, Fragment.LosesDocs (told item) (documented item) (bare item)) :
    Fragment.LosesDocs (items.flatMap told) (.concat (items.map documented))
      (.concat (items.map bare)) := by
  induction items with
  | nil => exact .refl _
  | cons item items ih =>
      have here := each item List.mem_cons_self
      exact here.append (ih fun later member => each later (List.mem_cons_of_mem item member))

theorem spaced (loses : Fragment.LosesDocs texts first bareFirst) :
    Fragment.LosesDocs texts (Php.spaced first) (Php.spaced bareFirst) where
  imports := congrArg (· ++ []) loses.imports
  lines := loses.lines.followed _

theorem withoutFinalBlank (loses : Fragment.LosesDocs texts first bareFirst) :
    Fragment.LosesDocs texts first.withoutFinalBlank bareFirst.withoutFinalBlank where
  imports := by rw [imports_withoutFinalBlank, imports_withoutFinalBlank, loses.imports]
  lines := by
    unfold Fragment.withoutFinalBlank
    rcases loses.lines.concat_inv with ⟨-, none, none'⟩ | ⟨before, bareBefore, last, lines, lines', kept⟩
    · rw [none, none']
      exact loses.lines
    · rw [lines, lines', List.getLast?_concat, List.getLast?_concat]
      by_cases blank : last.text = ""
      · simpa [blank] using kept blank
      · simpa [blank] using loses.lines

theorem block (header : String) (loses : Fragment.LosesDocs texts first bareFirst) :
    Fragment.LosesDocs texts (.block header first) (.block header bareFirst) where
  imports := by simp [Fragment.block, Fragment.deeper, loses.imports]
  lines := (loses.lines.deeper.preceded _).followed _

end Fragment.LosesDocs

/-! ### Behind a doc block -/

/-- The fragments begin with the same line, which is not blank. Doc blocks are lost behind it only. -/
structure Fragment.Headed (texts : List String) (documented bare : Fragment) : Prop where
  imports : bare.imports = documented.imports
  lines : ∃ line rest bareRest, documented.lines = line :: rest ∧ bare.lines = line :: bareRest ∧
    line.text ≠ "" ∧ Php.LosesDocs texts rest bareRest

namespace Fragment.Headed

variable {text : String} {texts : List String} {documented bare : Fragment}

theorem exists_lines_ofText (solid : Text.BeginsSolid text) :
    ∃ line rest, (ofText text).lines = line :: rest ∧ line.text ≠ "" := by
  obtain ⟨piece, rest, pieces, filled⟩ := Text.exists_pieces_of_beginsSolid solid
  exact ⟨⟨0, Text.trimEnd piece⟩, rest.map fun piece => ⟨0, Text.trimEnd piece⟩,
    by rw [ofText, pieces]; rfl, filled⟩

theorem ofText (solid : Text.BeginsSolid text) : Headed [] (.ofText text) (.ofText text) where
  imports := rfl
  lines := by
    obtain ⟨line, rest, lines, filled⟩ := exists_lines_ofText solid
    exact ⟨line, rest, rest, lines, lines, filled, .refl rest⟩

theorem block (solid : Text.BeginsSolid text) (loses : Fragment.LosesDocs texts documented bare) :
    Headed texts (.block text documented) (.block text bare) where
  imports := (Fragment.LosesDocs.block text loses).imports
  lines := by
    obtain ⟨line, rest, lines, filled⟩ := exists_lines_ofText solid
    have begins : ∀ content : Fragment, (Fragment.block text content).lines =
        line :: (rest ++ ((Fragment.ofText "\x7b").lines ++
          (content.deeper.lines ++ (Fragment.ofText "\x7d").lines))) := by
      intro content
      simp [Fragment.block, lines]
    refine ⟨line, _, _, begins documented, begins bare, filled, ?_⟩
    exact ((loses.lines.deeper.followed _).preceded _).preceded _

theorem importing (paths : List String) (headed : Headed texts documented bare) :
    Headed texts (.importing paths ++ documented) (.importing paths ++ bare) where
  imports := by rw [imports_append, imports_append, headed.imports]
  lines := headed.lines

end Fragment.Headed

/-! ### What is documented -/

/-- The text, if it has a doc block: a blank text has none. -/
def told (text : String) : List String :=
  if (Text.trim text).isEmpty then [] else [text]

namespace Rendering

/-- What the doc block of a member tells; one without a name is left out. -/
def fieldDocs (rendering : Rendering) (member : Variable) : List String :=
  if member.name.isEmpty then [] else told (rendering.variableDoc member)

/-- What the doc block of the method of an operation tells. -/
def operationDocs (rendering : Rendering) (operation : Operation) : List String :=
  if operation.name.isEmpty then [] else told (rendering.methodDoc operation)

/-- What the doc block of a method of a class tells. -/
def classMethodDocs (rendering : Rendering) (subject : Subject) : ClassMethod → List String
  | .defaultConstructor => told subject.element.documentation
  | .factory operation | .ordinary operation => rendering.operationDocs operation

/-- What the doc blocks of the attributes tell. -/
def attributeDocs (rendering : Rendering) (subject : Subject) : List String :=
  (subject.classifier.attributes.filter (!·.name.isEmpty)).flatMap fun member =>
    rendering.fieldDocs (.ofAttribute member)

/-- What the doc blocks of the association ends tell. -/
def endDocs (rendering : Rendering) (subject : Subject) : List String :=
  (rendering.memberEnds subject).flatMap fun found => rendering.fieldDocs (.ofEnd found)

/-- What the doc blocks of a declaration tell, from its own to those of what is nested in it. -/
def declarationDocs (rendering : Rendering) (subject : Subject) (nested : List String) :
    Form → List String
  | .classForm =>
    told (rendering.docWithAuthor subject.element.documentation) ++
      (rendering.attributeDocs subject ++ rendering.endDocs subject ++
        (rendering.classMethods subject).flatMap (rendering.classMethodDocs subject) ++ nested)
  | .interfaceForm =>
    told subject.element.documentation ++
      (rendering.attributeDocs subject ++ rendering.endDocs subject ++
        subject.classifier.operations.flatMap rendering.operationDocs ++ nested)
  | .annotationForm =>
    told (rendering.docWithAuthor subject.element.documentation) ++
      (rendering.attributeDocs subject ++
        subject.classifier.operations.flatMap rendering.operationDocs ++ nested)
  | .enumForm =>
    told subject.element.documentation ++
      (namedLiterals subject.classifier).flatMap fun (literal, _) => told literal.documentation

/-- What the doc blocks of an element tell when it is declared with up to `depth` levels. -/
def declaredDocs (rendering : Rendering) : (depth : Nat) → Form → ElementId → List String
  | 0, _, _ => []
  | depth + 1, form, id =>
    match Subject.find? rendering.model id with
    | none => []
    | some subject =>
      rendering.declarationDocs subject
        (subject.element.owned.flatMap fun child =>
          match (rendering.model.element? child).bind (nestedForm? form) with
          | some inner => rendering.declaredDocs depth inner child
          | none => [])
        form

end Rendering

/-- What the doc blocks in the unit of an element tell, in their order. -/
def docTexts (model : Model) (options : Options) (id : ElementId) : List String :=
  match (model.element? id).bind (·.content.kind?) with
  | some kind =>
    (renderingIn model options (namespaceOf model id)).declaredDocs model.elements.size (.ofKind kind) id
  | none => []

/-- The rendering with doc blocks, or without. -/
def Rendering.documenting (rendering : Rendering) (docs : Bool) : Rendering :=
  { rendering with options := { rendering.options with docs } }

section Rendering

variable {rendering : Rendering}

/-- A line of a doc block begins with a star. -/
theorem docLine_cases (line : String) : docLine line = " *" ∨ ∃ rest, docLine line = " * " ++ rest := by
  unfold docLine
  dsimp only
  split
  · exact .inl rfl
  · exact .inr ⟨_, rfl⟩

theorem lineFeed_not_mem_docLine {text line : String} (member : line ∈ Text.lines text) :
    '\n' ∉ (docLine line).toList := by
  unfold docLine
  dsimp only
  split
  · decide
  · rw [String.toList_append, List.mem_append, not_or]
    exact ⟨by decide, fun inside => Text.not_mem_of_mem_lines member (Text.mem_of_mem_trim inside)⟩

/-- A line of a doc block is one line. -/
theorem lines_ofText_docLine {text line : String} (member : line ∈ Text.lines text) :
    (Fragment.ofText (docLine line)).lines = [⟨0, docLine line⟩] := by
  rw [Fragment.ofText, Text.pieces_of_not_mem (lineFeed_not_mem_docLine member), List.map_singleton]
  unfold docLine
  dsimp only
  split
  · cbv
  · rename_i filled
    have solid : Text.trimEnd (Text.trim line) ≠ "" := by
      rw [Text.trimEnd_trim]
      simpa using filled
    rw [Text.trimEnd_append solid, Text.trimEnd_trim]

theorem lines_ofText_open : (Fragment.ofText "/**").lines = [⟨0, "/**"⟩] := by cbv

theorem lines_ofText_close : (Fragment.ofText " */").lines = [⟨0, " */"⟩] := by cbv

theorem lines_docBlock (text : String) : ((rendering.documenting true).docBlock text).lines =
    (docLines text).map (SourceLine.mk 0) := by
  have single : ∀ line ∈ docLines text, (Fragment.ofText line).lines = [⟨0, line⟩] := by
    intro line member
    unfold docLines at member
    dsimp only at member
    split at member
    · cases member
    · simp only [List.cons_append, List.mem_cons, List.mem_append, List.mem_map, List.not_mem_nil,
        or_false] at member
      rcases member with rfl | ⟨inner, inside, rfl⟩ | rfl
      · exact lines_ofText_open
      · exact lines_ofText_docLine inside
      · exact lines_ofText_close
  have whole : (rendering.documenting true).docBlock text = .concat ((docLines text).map .ofText) := rfl
  rw [whole, Fragment.lines_concat, List.flatMap_map, List.flatMap_congr single]
  exact List.map_eq_flatMap.symm

/-- A text that is not blank has a doc block. -/
theorem docBlock_cases (text : String) :
    (told text = [] ∧ ((rendering.documenting true).docBlock text).lines = []) ∨
      (told text = [text] ∧ DocBlock text ((rendering.documenting true).docBlock text).lines) := by
  rw [lines_docBlock]
  unfold docLines told
  dsimp only
  split
  · exact .inl ⟨rfl, rfl⟩
  · refine .inr ⟨rfl, ?_⟩
    rw [List.map_append, List.map_cons, List.map_singleton]
    apply DocBlock.comment
    · intro line member
      obtain ⟨_, inside, rfl⟩ := List.mem_map.mp member
      obtain ⟨line, -, rfl⟩ := List.mem_map.mp inside
      refine ⟨rfl, ?_⟩
      dsimp only
      exact docLine_cases line
    · rw [List.map_map]
      exact List.map_id _

/-- A doc block before a line that is not blank is lost, and nothing else. -/
theorem Fragment.Headed.documented {texts : List String} {part bare : Fragment}
    (headed : Fragment.Headed texts part bare) (text : String) :
    Fragment.LosesDocs (told text ++ texts) ((rendering.documenting true).docBlock text ++ part)
      ((rendering.documenting false).docBlock text ++ bare) where
  imports := by
    have none : ((rendering.documenting true).docBlock text).imports = [] := by
      have whole : (rendering.documenting true).docBlock text = .concat ((docLines text).map .ofText) := rfl
      rw [whole, Fragment.imports_concat, List.flatMap_eq_nil_iff]
      intro fragment member
      obtain ⟨line, -, rfl⟩ := List.mem_map.mp member
      rfl
    rw [Fragment.imports_append, Fragment.imports_append, none, headed.imports]
    rfl
  lines := by
    obtain ⟨line, rest, bareRest, lines, bareLines, filled, loses⟩ := headed.lines
    have off : ((rendering.documenting false).docBlock text).lines = [] := rfl
    rw [Fragment.lines_append, Fragment.lines_append, lines, bareLines, off, List.nil_append]
    rcases @docBlock_cases rendering text with ⟨silent, none⟩ | ⟨tells, docs⟩
    · rw [silent, none]
      exact .kept line loses
    · rw [tells]
      exact .lost docs line filled loses

/-! ### Texts behind doc blocks -/

theorem beginsSolid_keyword (visibility : Visibility) :
    ∀ word ∈ visibility.keyword?.toList, Text.BeginsSolid word := by
  cases visibility <;> decide

theorem beginsSolid_declaration (member : Variable) : Text.BeginsSolid member.declaration := by
  have words : ∀ word ∈ member.declarators, Text.BeginsSolid word := by
    unfold Variable.declarators
    split
    · have constant : Text.BeginsSolid "const " := by decide
      simpa using constant.append (Text.upperText member.name)
    · have dollar : Text.BeginsSolid "$" := by decide
      simp only [List.forall_mem_append, List.forall_mem_singleton]
      refine ⟨⟨beginsSolid_keyword member.visibility, ?_⟩, dollar.append member.name⟩
      split <;> decide
  have filled : member.declarators ≠ [] := by
    unfold Variable.declarators
    split <;> simp
  exact (Text.beginsSolid_intercalate filled words _).append ";"

theorem beginsSolid_signature (owner : String) (operation : Operation) (style : SignatureStyle) :
    Text.BeginsSolid (rendering.signature owner operation style) := by
  have words : ∀ word ∈ methodWords operation, Text.BeginsSolid word := by
    simp only [methodWords, List.forall_mem_append]
    refine ⟨⟨⟨⟨beginsSolid_keyword operation.visibility, ?_⟩, ?_⟩, ?_⟩, by decide⟩
    all_goals split <;> decide
  exact Text.beginsSolid_intercalate (by simp [methodWords]) words _

theorem beginsSolid_classWords (classifier : Classifier) :
    ∀ word ∈ classWords classifier, Text.BeginsSolid word := by
  simp only [classWords, List.forall_mem_append]
  refine ⟨⟨?_, ?_⟩, ?_⟩
  all_goals split <;> decide

/-- The header of a declaration begins with a modifier or the word for its form. -/
theorem beginsSolid_heading (options : Options) (subject : Subject) (form : Form) :
    Text.BeginsSolid (heading options subject form) := by
  have modified : ∀ (word : String) (more : List String), Text.BeginsSolid word →
      Text.BeginsSolid (" ".intercalate (classWords subject.classifier ++ (word :: more))) := by
    intro word more solid
    rw [← List.singleton_append, ← List.append_assoc]
    apply Text.beginsSolid_intercalate (by simp)
    rw [List.forall_mem_append, List.forall_mem_singleton]
    exact ⟨beginsSolid_classWords subject.classifier, solid⟩
  cases form with
  | classForm =>
      apply modified
      split <;> decide
  | interfaceForm =>
      have word : Text.BeginsSolid "interface " := by decide
      exact word.append subject.element.name
  | annotationForm => exact modified _ _ (by decide)
  | enumForm =>
      have word : Text.BeginsSolid "enum " ∧ Text.BeginsSolid "class " := by decide
      dsimp only [heading]
      split
      · exact word.1.append subject.element.name
      · exact (word.2.append subject.element.name).append " extends \\SplEnum"

theorem beginsSolid_headerText (model : Model) (options : Options) (subject : Subject) (form : Form) :
    Text.BeginsSolid (headerText model options subject form) :=
  ((beginsSolid_heading options subject form).append _).append _

end Rendering

/-! ### Members and declarations -/

section Declarations

variable (rendering : Rendering)

theorem field_losesDocs (member : Variable) :
    Fragment.LosesDocs (rendering.fieldDocs member) ((rendering.documenting true).field member)
      ((rendering.documenting false).field member) := by
  unfold Rendering.field Rendering.fieldDocs
  split
  · exact .refl .empty
  · have losesDocs := @Fragment.Headed.documented rendering _ _ _
      (Fragment.Headed.ofText (beginsSolid_declaration member)) (rendering.variableDoc member)
    rwa [List.append_nil] at losesDocs

theorem method_losesDocs (owner : String) (operation : Operation) (specified : Fragment)
    (style : SignatureStyle) :
    Fragment.LosesDocs (rendering.operationDocs operation)
      ((rendering.documenting true).method owner operation specified style)
      ((rendering.documenting false).method owner operation specified style) := by
  have solid := @beginsSolid_signature rendering owner operation style
  unfold Rendering.method Rendering.operationDocs
  split
  · exact .refl .empty
  · dsimp only
    rw [Fragment.append_assoc, Fragment.append_assoc, ← List.append_nil (told _)]
    apply Fragment.Headed.documented
    apply Fragment.Headed.importing
    split
    · exact .ofText (solid.append ";")
    · exact .block solid (.refl _)

theorem classMethod_losesDocs (subject : Subject) (method : ClassMethod) :
    Fragment.LosesDocs (rendering.classMethodDocs subject method)
      ((rendering.documenting true).classMethod subject method)
      ((rendering.documenting false).classMethod subject method) := by
  cases method with
  | defaultConstructor =>
      have words : ∀ word ∈ subject.classifier.visibility.keyword?.toList ++ ["function __construct()"],
          Text.BeginsSolid word := by
        rw [List.forall_mem_append]
        exact ⟨beginsSolid_keyword subject.classifier.visibility, by decide⟩
      have solid := @Text.beginsSolid_intercalate " " _ (by simp) words []
      rw [List.append_nil] at solid
      rw [Rendering.classMethodDocs, ← List.append_nil (told _)]
      exact (Fragment.Headed.block solid (.refl .empty)).documented _
  | factory operation => exact method_losesDocs rendering _ operation _ _
  | ordinary operation => exact method_losesDocs rendering _ operation _ _

theorem attributeFields_losesDocs (subject : Subject) :
    Fragment.LosesDocs (rendering.attributeDocs subject)
      ((rendering.documenting true).attributeFields subject)
      ((rendering.documenting false).attributeFields subject) :=
  .concat fun member _ => (field_losesDocs rendering (.ofAttribute member)).spaced

theorem endFields_losesDocs (subject : Subject) :
    Fragment.LosesDocs (rendering.endDocs subject) ((rendering.documenting true).endFields subject)
      ((rendering.documenting false).endFields subject) :=
  .concat fun found _ => (field_losesDocs rendering (.ofEnd found)).spaced

theorem bareMethods_losesDocs (subject : Subject) (withParameters : Bool) :
    Fragment.LosesDocs (subject.classifier.operations.flatMap rendering.operationDocs)
      ((rendering.documenting true).bareMethods subject withParameters)
      ((rendering.documenting false).bareMethods subject withParameters) :=
  .concat fun operation _ => (method_losesDocs rendering _ operation _ _).spaced

theorem classMembers_losesDocs (subject : Subject) {texts : List String} {nested bareNested : Fragment}
    (loses : Fragment.LosesDocs texts nested bareNested) :
    Fragment.LosesDocs
      (rendering.attributeDocs subject ++ rendering.endDocs subject ++
        (rendering.classMethods subject).flatMap (rendering.classMethodDocs subject) ++ texts)
      ((rendering.documenting true).classMembers subject nested)
      ((rendering.documenting false).classMembers subject bareNested) := by
  have opening : Fragment.LosesDocs [] ((rendering.documenting true).traitUses subject ++ .blank)
      ((rendering.documenting false).traitUses subject ++ .blank) := .refl _
  have fields := attributeFields_losesDocs rendering subject
  have ends := endFields_losesDocs rendering subject
  have methods : Fragment.LosesDocs
      ((rendering.classMethods subject).flatMap (rendering.classMethodDocs subject))
      (.concat (((rendering.documenting true).classMethods subject).map fun method =>
        spaced ((rendering.documenting true).classMethod subject method)))
      (.concat (((rendering.documenting false).classMethods subject).map fun method =>
        spaced ((rendering.documenting false).classMethod subject method))) :=
    .concat fun method _ => (classMethod_losesDocs rendering subject method).spaced
  exact (((opening.append fields).append ends).append methods).append loses

/-- The block of a declaration behind its imports and its doc block. -/
theorem block_losesDocs (before : Fragment) (text : String) {header : String}
    (solid : Text.BeginsSolid header) {texts : List String} {content bareContent : Fragment}
    (loses : Fragment.LosesDocs texts content bareContent) :
    Fragment.LosesDocs (told text ++ texts)
      (before ++ (rendering.documenting true).docBlock text ++ .block header content)
      (before ++ (rendering.documenting false).docBlock text ++ .block header bareContent) := by
  rw [Fragment.append_assoc, Fragment.append_assoc]
  exact ((Fragment.Headed.block solid loses).documented text).preceded before

theorem literals_losesDocs (classifier : Classifier) {statement : Literal → Nat → String}
    (solid : ∀ literal number, Text.BeginsSolid (statement literal number)) :
    Fragment.LosesDocs
      ((Rendering.namedLiterals classifier).flatMap fun (literal, _) => told literal.documentation)
      (.concat ((Rendering.namedLiterals classifier).map fun (literal, number) =>
        (rendering.documenting true).docBlock literal.documentation ++ .ofText (statement literal number)))
      (.concat ((Rendering.namedLiterals classifier).map fun (literal, number) =>
        (rendering.documenting false).docBlock literal.documentation ++
          .ofText (statement literal number))) := by
  apply Fragment.LosesDocs.concat
  rintro ⟨literal, number⟩ _
  have losesDocs := @Fragment.Headed.documented rendering _ _ _
    (Fragment.Headed.ofText (solid literal number)) literal.documentation
  rwa [List.append_nil] at losesDocs

theorem enumDeclaration_losesDocs (subject : Subject) (texts : List String) :
    Fragment.LosesDocs (rendering.declarationDocs subject texts .enumForm)
      ((rendering.documenting true).enumDeclaration subject)
      ((rendering.documenting false).enumDeclaration subject) := by
  have header := beginsSolid_heading rendering.options subject .enumForm
  have same : ∀ docs, (rendering.documenting docs).options.enumStyle = rendering.options.enumStyle :=
    fun _ => rfl
  unfold Rendering.enumDeclaration
  simp only [same]
  dsimp only [heading] at header
  cases style : rendering.options.enumStyle with
  | native =>
      rw [style] at header
      have word : Text.BeginsSolid "case " := by decide
      exact block_losesDocs rendering _ _ header (literals_losesDocs rendering subject.classifier
        fun literal _ => (word.append literal.name).append ";")
  | splEnum =>
      rw [style] at header
      have word : Text.BeginsSolid "const " := by decide
      exact block_losesDocs rendering _ _ header (literals_losesDocs rendering subject.classifier
        fun literal number => (((word.append literal.name).append " = ").append (toString number)).append ";")

theorem declarationIn_losesDocs (subject : Subject) {texts : List String} {nested bareNested : Fragment}
    (loses : Fragment.LosesDocs texts nested bareNested) (form : Form) :
    Fragment.LosesDocs (rendering.declarationDocs subject texts form)
      (declarationIn (rendering.documenting true) subject nested form)
      (declarationIn (rendering.documenting false) subject bareNested form) := by
  have fields := attributeFields_losesDocs rendering subject
  have ends := endFields_losesDocs rendering subject
  cases form with
  | classForm =>
      have header := beginsSolid_headerText rendering.model rendering.options subject .classForm
      rw [← classHeader_eq] at header
      exact block_losesDocs rendering _ _ header
        (classMembers_losesDocs rendering subject loses).withoutFinalBlank
  | interfaceForm =>
      have header := beginsSolid_headerText rendering.model rendering.options subject .interfaceForm
      rw [← interfaceHeader_eq] at header
      have methods := bareMethods_losesDocs rendering subject true
      exact block_losesDocs rendering _ _ header
        (((fields.append ends).append methods).append loses).withoutFinalBlank
  | annotationForm =>
      have header := beginsSolid_heading rendering.options subject .annotationForm
      have methods := bareMethods_losesDocs rendering subject false
      have opening := Fragment.LosesDocs.refl .blank
      exact (Fragment.Headed.block header
        (((opening.append fields).append methods).append loses).withoutFinalBlank).documented _
  | enumForm => exact enumDeclaration_losesDocs rendering subject texts

/-- Doc blocks are lost at every level of nesting. -/
theorem declareNested_losesDocs (depth : Nat) (form : Form) (id : ElementId) :
    Fragment.LosesDocs (rendering.declaredDocs depth form id)
      ((rendering.documenting true).declareNested depth form id)
      ((rendering.documenting false).declareNested depth form id) := by
  induction depth generalizing form id with
  | zero => exact .refl .empty
  | succ depth ih =>
      have same : ∀ docs, Subject.find? (rendering.documenting docs).model id =
          Subject.find? rendering.model id := fun _ => rfl
      cases found : Subject.find? rendering.model id with
      | none =>
          rw [declareNested_of_absent ((same true).trans found),
            declareNested_of_absent ((same false).trans found), Rendering.declaredDocs, found]
          exact .refl .empty
      | some subject =>
          rw [declareNested_succ ((same true).trans found), declareNested_succ ((same false).trans found),
            Rendering.declaredDocs, found]
          apply declarationIn_losesDocs
          apply Fragment.LosesDocs.concat
          intro child _
          have known : ∀ docs, (rendering.documenting docs).model.element? child =
              rendering.model.element? child := fun _ => rfl
          rw [known, known]
          cases (rendering.model.element? child).bind (Rendering.nestedForm? form) with
          | none => exact .refl .empty
          | some inner => exact (ih inner child).spaced

end Declarations

/-- Without doc blocks, what an element declares is without the doc blocks of its texts. -/
theorem declare_losesDocs (model : Model) (options : Options) (id : ElementId) :
    Fragment.LosesDocs (docTexts model options id)
      ((renderingIn model { options with docs := true } (namespaceOf model id)).declare id)
      ((renderingIn model { options with docs := false } (namespaceOf model id)).declare id) := by
  have known : ∀ docs, (renderingIn model { options with docs } (namespaceOf model id)).model.element? id =
      model.element? id := fun _ => rfl
  rw [Rendering.declare, Rendering.declare, known, known, docTexts]
  cases (model.element? id).bind (·.content.kind?) with
  | none => exact .refl .empty
  | some kind => exact declareNested_losesDocs (renderingIn model options (namespaceOf model id)) _ _ id

/-! ### Units -/

/-- The second unit is the first one without the doc blocks of the texts: it has the same header, and the
    lines that it does have are indented alike. -/
structure DiffersInDocs (texts : List String) (documented bare : SourceUnit) : Prop where
  header : bare.header = documented.header
  imports : bare.imports = documented.imports
  lines : ∃ source stripped, LosesDocs texts source stripped ∧
    documented.lines.toList = source.map (·.render documented.indentUnit 0) ∧
    bare.lines.toList = stripped.map (·.render documented.indentUnit 0)

/-- Two units that start alike and take in fragments of which one is the other without doc blocks. -/
theorem differsInDocs_emit {texts : List String} {documented bare : Fragment}
    (loses : Fragment.LosesDocs texts documented bare) (indentUnit namespaceName : String) :
    DiffersInDocs texts ((SourceUnit.start indentUnit namespaceName).emit documented)
      ((SourceUnit.start indentUnit namespaceName).emit bare) := by
  rw [SourceUnit.emit_eq, SourceUnit.emit_eq, loses.imports]
  exact
    { header := rfl
      imports := rfl
      lines := ⟨_, _, loses.lines, by simp [SourceUnit.start], by simp [SourceUnit.start]⟩ }

/-- Doc blocks are comments. Whether they are wanted or not, an element has a unit with the same namespace and
    the same imports. Without them, the lines of the unit are those that it has with them, in order and with
    the same indentation, less whole doc blocks: that of each text which documents the element, its members
    or what is nested in it. Each of these stands before a line that is not blank. -/
theorem docs_change_comments_only (model : Model) (options : Options) (id : ElementId) :
    Option.Rel (DiffersInDocs (docTexts model options id)) (unitOf? model { options with docs := true } id)
      (unitOf? model { options with docs := false } id) := by
  unfold unitOf?
  cases Subject.find? model id with
  | none => exact .none
  | some subject =>
      dsimp only
      split
      · exact .none
      · exact .some (differsInDocs_emit (declare_losesDocs model options id) _ _)

/-- A note has three doc blocks: its own, that of its text, and that of its constructor. -/
example : docTexts
    { author? := none
      elements := #[{ id := 0, name := "Notes", parent? := none, owned := [1], content := .model },
        { id := 1, name := "Note", documentation := "To be kept.", parent? := some 0,
          content := .classifier .classType { attributes := [{ name := "text" }] } }]
      relationships := []
      keys := [] } {} 1 = ["To be kept.", "@var void ", "To be kept."] := by
  decide +kernel

end Blueprint.Php

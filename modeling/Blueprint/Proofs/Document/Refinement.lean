/-
Module: Blueprint.Proofs.Document.Refinement
Purpose: Reading the events of a document is plain recursion over its tree. The reading phase performs
  the declarations of the outline, resolution settles what they refer to, and the outcome is the
  model of the outline, or the first fault that the recursion meets. What stands in an unknown
  element, in a use case or in a directed relationship has no part in it.
Main exports: resolve_layInto, readDraft_document, Forest.pruned, Consumes, readDocument_refines
-/
import Blueprint.Proofs.Document.Construction

namespace Blueprint.Document

open Blueprint.Markup (Event Tag Ending Stream)

/-! ### Resolution of a whole draft -/

theorem resolveKey_congr {first second : Model} (keys : first.keys = second.keys)
    (context : ReferenceContext) (key : String) :
    Draft.resolveKey first context key = Draft.resolveKey second context key := by
  simp only [Draft.resolveKey, Model.lookup, keys]

theorem resolveReference_settles (model : Model) (reference : Reference) :
    Draft.resolveReference model reference =
      (Draft.resolveKey model reference.context reference.key).map fun _ =>
        settleOne model.lookup model reference := by
  rw [resolveReference_eq]
  unfold settleOne Draft.resolveKey
  cases model.lookup reference.key <;> rfl

/-- References are resolved in order: the first key that names nothing is the fault, and without one
    every reference is settled. -/
theorem foldlM_resolveReference (references : List Reference) (model : Model) :
    references.foldlM Draft.resolveReference model =
      ((references.map Reference.mention).forM fun (context, key) => do
        let _ ← Draft.resolveKey model context key).bind
      fun _ => .ok (settleAll model.lookup references model) := by
  induction references generalizing model with
  | nil => rfl
  | cons reference references ih =>
      rw [List.foldlM_cons, resolveReference_settles, List.map_cons, List.forM]
      simp only [Reference.mention]
      cases Draft.resolveKey model reference.context reference.key with
      | error fault => rfl
      | ok target =>
          have keys : (settleOne model.lookup model reference).keys = model.keys :=
            keys_settleAll model.lookup [reference] model
          have lookup : (settleOne model.lookup model reference).lookup = model.lookup :=
            funext fun key => congrArg (List.lookup key) keys
          have same : Draft.resolveKey (settleOne model.lookup model reference) =
              Draft.resolveKey model :=
            funext fun context => funext fun key => resolveKey_congr keys context key
          have following := ih (settleOne model.lookup model reference)
          rw [lookup, same] at following
          exact following

/-- The draft of a model that has just been opened, for the tag of the model. -/
def opened (record : ModelTag) : Draft :=
  { model := Model.named record.name record.author? }

theorem ofTag_eq (tag : Tag) : Draft.ofTag tag = (ModelTag.read tag).map opened := by
  unfold Draft.ofTag
  cases ModelTag.read tag <;> rfl

/-- Settling a draft that an outline has been laid into leaves the elements of the outline. -/
theorem settled_opened {outline : Outline} (valid : outline.Valid false []) (record : ModelTag) :
    let draft := outline.layInto (opened record) Model.root
    draft.model.keys = (outline.keyed 1).reverse ∧
      draft.settled draft.model.lookup = outline.unrelated record := by
  intro draft
  have landed : (opened record).Landed := by simp [Draft.Landed, opened]
  have known : Model.root < (Model.named record.name record.author?).nextId := Nat.zero_lt_one
  have settled : ∀ lookup, draft.settled lookup =
      outline.build lookup (Model.named record.name record.author?) Model.root := fun lookup =>
    (settled_layInto lookup outline landed known).2
  have keys : draft.model.keys = (outline.keyed 1).reverse := by
    rw [← keys_settleAll draft.model.lookup draft.references draft.model]
    exact (congrArg Model.keys (settled _)).trans
      ((keys_build _ outline _ _).trans (List.append_nil _))
  refine ⟨keys, ?_⟩
  have lookup : draft.model.lookup = fun key => (outline.keyed 1).reverse.lookup key :=
    funext fun key => congrArg (List.lookup key) keys
  rw [settled, lookup, Outline.unrelated]
  have elements := elements_build (fun key => (outline.keyed 1).reverse.lookup key) valid known
  have others := relationships_build (fun key => (outline.keyed 1).reverse.lookup key) outline
    (Model.named record.name record.author?) Model.root
  have declared := keys_build (fun key => (outline.keyed 1).reverse.lookup key) outline
    (Model.named record.name record.author?) Model.root
  revert elements others declared
  generalize outline.build _ (Model.named record.name record.author?) Model.root = model
  obtain ⟨author?, found, relationships, known⟩ := model
  rintro elements ⟨rfl, rfl⟩ rfl
  simp only [Model.mk.injEq]
  refine ⟨rfl, ?_, rfl, List.append_nil _⟩
  exact Array.toList_inj.mp elements

/-- A draft that an outline has been laid into resolves to the model of the outline. -/
theorem resolve_layInto {outline : Outline} (valid : outline.Valid false []) (record : ModelTag) :
    (outline.layInto (opened record) Model.root).resolve = outline.model record := by
  have mentions : (outline.layInto (opened record) Model.root).references.map Reference.mention =
      outline.mentions := mentions_layInto outline (opened record) Model.root
  have links : (outline.layInto (opened record) Model.root).links = outline.links :=
    links_layInto outline (opened record) Model.root
  obtain ⟨keys, settled⟩ := settled_opened valid record
  have same : Draft.resolveKey (outline.layInto (opened record) Model.root).model =
      Draft.resolveKey (outline.unrelated record) :=
    funext fun context => funext fun key => resolveKey_congr keys context key
  rw [Draft.settled] at settled
  rw [Draft.resolve, foldlM_resolveReference, mentions, links, same]
  rw [settled, Outline.model]
  cases outline.mentions.forM fun (context, key) => do
      let _ ← Draft.resolveKey (outline.unrelated record) context key with
  | error fault => rfl
  | ok _ => rfl

/-! ### Whole documents -/

theorem opening?_view (cursor : Cursor) (event : Event) :
    opening? (cursor.view event) = opening? event := by
  cases event <;> rfl

/-- Events before the model are passed over. -/
theorem readDraft_before {ending : Ending} {trimming : Bool} (before events : List Event)
    (first : NoneOpens "model" before) :
    readDraft ⟨before ++ events, ending, trimming⟩ = readDraft ⟨events, ending, trimming⟩ := by
  induction before with
  | nil => rfl
  | cons event before ih =>
      have following := ih fun other member => first other (List.mem_cons_of_mem _ member)
      rw [List.cons_append, readDraft]
      simp only [Cursor.next?, opening?_view]
      cases opens : opening? event with
      | none => exact following
      | some opening =>
          obtain ⟨tag, isEmpty⟩ := opening
          have other := first event List.mem_cons_self tag isEmpty opens
          simpa [other] using following

/-- The first element named `model` is read, and the model with it. -/
theorem readDraft_model {ending : Ending} {trimming isEmpty : Bool} {event : Event}
    {events : List Event} {tag : Tag} (opens : opening? event = some (tag, isEmpty))
    (named : tag.name = "model") :
    readDraft ⟨event :: events, ending, trimming⟩ = (ModelTag.read tag).bind fun record =>
      if isEmpty then .ok (opened record)
      else (stops (readChildren (opened record) Model.root ⟨events, ending, trimming⟩)).map Prod.fst := by
  rw [readDraft]
  simp only [Cursor.next?, opening?_view, opens, named, beq_self_eq_true, if_true, ofTag_eq]
  cases ModelTag.read tag with
  | error fault => rfl
  | ok record =>
      cases isEmpty with
      | true => rfl
      | false =>
          show (readChildren (opened record) Model.root ⟨events, ending, trimming⟩).bind _ = Except.map _ _
          cases readChildren (opened record) Model.root ⟨events, ending, trimming⟩ <;> rfl

/-- The reading phase performs the declarations of the outline of the model. -/
theorem readDraft_document {stream : Stream} {isEmpty : Bool} {tag : Tag} {inside : Forest}
    (document : ModelDocument stream.events isEmpty tag inside) :
    readDraft (Cursor.ofStream stream) = do
      let record ← ModelTag.read tag
      let outline ← inside.outline false []
      return outline.layInto (opened record) Model.root := by
  obtain ⟨events, ending⟩ := stream
  rw [Cursor.ofStream]
  cases document with
  | @filled before after _ _ closing named first =>
      refine (readDraft_before before _ first).trans ((readDraft_model rfl named).trans ?_)
      cases ModelTag.read tag with
      | error fault => rfl
      | ok record =>
          have known : Model.root < (opened record).model.nextId := Nat.zero_lt_one
          have read : stops (readChildren (opened record) Model.root
                ⟨inside.events ++ .finish closing :: after, ending, true⟩) =
              (inside.outline false []).map fun found =>
                (found.layInto (opened record) Model.root, ⟨after, ending, true⟩) :=
            readChildren_follows inside closing after (opened record) Model.root known
          simp only [Except.bind, bind, read, Bool.false_eq_true, if_false]
          cases inside.outline false [] <;> rfl
  | @hollow before after _ named first =>
      refine (readDraft_before before _ first).trans ((readDraft_model rfl named).trans ?_)
      cases ModelTag.read tag <;> rfl

/-- A document is read as plain recursion over its tree reads it. -/
theorem readDocument_document {stream : Stream} {isEmpty : Bool} {tag : Tag} {inside : Forest}
    (document : ModelDocument stream.events isEmpty tag inside) :
    readDocument (Cursor.ofStream stream) = modelOf tag inside := by
  rw [readDocument, readDraft_document document, modelOf]
  cases ModelTag.read tag with
  | error fault => rfl
  | ok record =>
      cases found : inside.outline false [] with
      | error fault => rfl
      | ok outline => exact resolve_layInto (valid_outline found) record

/-! ### What has no part in a document -/

namespace Forest

/-- The elements of a forest that have one of the given names. -/
def only (names : List String) : Forest → Forest
  | nil => nil
  | element tag inside closing rest =>
    if tag.name ∈ names then element tag inside closing (rest.only names) else rest.only names
  | empty tag rest => if tag.name ∈ names then empty tag (rest.only names) else rest.only names
  | leaf _ rest => rest.only names

/-- What a container holds, less everything that has no part in its interpretation: unknown elements
    and what stands between elements, all that a use case or a directed relationship holds, and in a
    member all but the elements that its reader knows. -/
def pruned : Forest → Forest
  | nil => nil
  | element tag inside closing rest =>
    match TagKind.ofName tag.name with
    | .package | .classifier => element tag inside.pruned closing rest.pruned
    | .useCase | .directed => element tag nil closing rest.pruned
    | .attr | .literal => element tag (inside.only ["documentation"]) closing rest.pruned
    | .operation =>
      element tag (inside.only ["parameter", "documentation", "specification"]) closing rest.pruned
    | .association => element tag (inside.only ["end"]) closing rest.pruned
    | .documentation => element tag inside closing rest.pruned
    | .unknown => rest.pruned
  | empty tag rest =>
    match TagKind.ofName tag.name with
    | .unknown => rest.pruned
    | _ => empty tag rest.pruned
  | leaf _ rest => rest.pruned

theorem documentation_only (forest : Forest) (found : String) :
    (forest.only ["documentation"]).documentation found = forest.documentation found := by
  induction forest generalizing found with
  | nil => rfl
  | element tag inside closing rest _ restIH =>
      by_cases named : tag.name = "documentation" <;> simp [only, documentation, named, restIH]
  | empty tag rest restIH =>
      by_cases named : tag.name = "documentation" <;> simp [only, documentation, named, restIH]
  | leaf piece rest restIH => exact restIH found

theorem operationWith_other {tag : Tag} (other : tag.name ∉ ["parameter", "documentation", "specification"])
    (record : OperationRecord) (isEmpty : Bool) (inside : Forest) :
    operationWith record tag isEmpty inside = .ok record := by
  simp only [List.mem_cons, List.not_mem_nil, or_false, not_or] at other
  simp [operationWith, other, pure, Except.pure]

theorem operation_only (forest : Forest) (record : OperationRecord) :
    (forest.only ["parameter", "documentation", "specification"]).operation record =
      forest.operation record := by
  induction forest generalizing record with
  | nil => rfl
  | element tag inside closing rest _ restIH =>
      by_cases known : tag.name ∈ ["parameter", "documentation", "specification"]
      · simp only [only, if_pos known, operation, restIH]
      · rw [only, if_neg known, operation, operationWith_other known, restIH]
        rfl
  | empty tag rest restIH =>
      by_cases known : tag.name ∈ ["parameter", "documentation", "specification"]
      · simp only [only, if_pos known, operation, restIH]
      · rw [only, if_neg known, operation, operationWith_other known, restIH]
        rfl
  | leaf piece rest restIH => exact restIH record

theorem ends_only (forest : Forest) : (forest.only ["end"]).ends = forest.ends := by
  induction forest with
  | nil => rfl
  | element tag inside closing rest _ restIH =>
      by_cases named : tag.name = "end" <;> simp [only, ends, named, restIH]
  | empty tag rest restIH =>
      by_cases named : tag.name = "end" <;> simp [only, ends, named, restIH]
  | leaf piece rest restIH => exact restIH

/-- Pruning a tree does not change its outline. -/
theorem outline_pruned (forest : Forest) (inClassifier : Bool) (taken : List String) :
    forest.pruned.outline inClassifier taken = forest.outline inClassifier taken := by
  induction forest generalizing inClassifier taken with
  | nil => rfl
  | element tag inside closing rest insideIH restIH =>
      rw [pruned, outline]
      cases kind : TagKind.ofName tag.name <;>
        simp only [outline, declaring, kind, insideIH, restIH, attributeOf, literalOf, documentation_only,
          operation_only, ends_only]
  | empty tag rest restIH =>
      rw [pruned, outline]
      cases kind : TagKind.ofName tag.name <;> simp only [outline, declaring, kind, restIH]
  | leaf piece rest restIH => exact restIH inClassifier taken

end Forest

/-! ### The refinement -/

/-- Each loop that takes up behind the tag of an element returns what recursion over the element
    returns, and stops right behind its end tag. -/
structure Consumes (ending : Ending) (inside : Forest) (closing : String) (events : List Event) : Prop where
  skipElement :
    (skipElement 0 ⟨inside.events ++ .finish closing :: events, ending, true⟩).map Subtype.val =
      .ok ⟨events, ending, true⟩
  collectText : ∀ done run,
    gathered 0 done run ⟨inside.events ++ .finish closing :: events, ending, false⟩ =
      (textOf run inside.leaves).map fun text => (done ++ text, ⟨events, ending, false⟩)
  readText :
    textRead ⟨inside.events ++ .finish closing :: events, ending, true⟩ =
      inside.text.map fun text => (text, ⟨events, ending, true⟩)
  readBody : ∀ found,
    stops (readBody found ⟨inside.events ++ .finish closing :: events, ending, true⟩) =
      (inside.documentation found).map fun text => (text, ⟨events, ending, true⟩)
  readOperation : ∀ record : OperationRecord,
    stops (readOperation record.draft ⟨inside.events ++ .finish closing :: events, ending, true⟩) =
      (inside.operation record).map fun record => (record.draft, ⟨events, ending, true⟩)
  readEnds : ∀ ends,
    stops (readEnds ends ⟨inside.events ++ .finish closing :: events, ending, true⟩) =
      inside.ends.map fun found => (ends ++ found, ⟨events, ending, true⟩)
  readChildren : ∀ (draft : Draft) parent, parent < draft.model.nextId →
    stops (readChildren draft parent ⟨inside.events ++ .finish closing :: events, ending, true⟩) =
      (inside.outline (draft.hasMembers parent) draft.takenKeys).map fun outline =>
        (outline.layInto draft parent, ⟨events, ending, true⟩)

theorem consumes (ending : Ending) (inside : Forest) (closing : String) (events : List Event) :
    Consumes ending inside closing events where
  skipElement := skipTo_events inside closing events
  collectText done run := gathered_events inside done run closing events
  readText := textRead_events inside closing events
  readBody found := stops_readBody_events inside found closing events
  readOperation record := stops_readOperation_events inside record closing events
  readEnds ends := stops_readEnds_events inside ends closing events
  readChildren draft parent known := readChildren_follows inside closing events draft parent known

/-- Reading a document refines plain recursion over its tree: the outcome is the same, model or fault;
    what has no part in the interpretation may hold anything; and every loop reads the events of
    its own element and none behind it. -/
theorem readDocument_refines {stream : Stream} {isEmpty : Bool} {tag : Tag} {inside : Forest}
    (document : ModelDocument stream.events isEmpty tag inside) :
    readDocument (Cursor.ofStream stream) = modelOf tag inside ∧
      modelOf tag inside.pruned = modelOf tag inside ∧
      ∀ ending (part : Forest) closing events, Consumes ending part closing events := by
  refine ⟨readDocument_document document, ?_, consumes⟩
  simp only [modelOf, Forest.outline_pruned]

/-- The document of a small shop: a class with an attribute of its own type, and a note around another
    attribute that no reader knows. -/
def shopText : String :=
  "<model>\n<class id='s'><note><attribute/></note><attribute typeRef='s'/></class></model>"

/-- What the model of the shop holds. -/
def shopForest : Forest :=
  .leaf (.text "\n") <|
  .element ⟨"class", " id='s'"⟩
    (.element ⟨"note", ""⟩ (.empty ⟨"attribute", ""⟩ .nil) "note" <|
      .empty ⟨"attribute", " typeRef='s'"⟩ .nil)
    "class" .nil

theorem shop_document :
    ModelDocument (Stream.ofText shopText).events false ⟨"model", ""⟩ shopForest := by
  have events : (Stream.ofText shopText).events =
      [] ++ .start ⟨"model", ""⟩ :: (shopForest.events ++ .finish "model" :: []) := by
    decide +kernel
  rw [events]
  exact .filled rfl (by simp [NoneOpens])

/-- The shop is read as recursion over its tree reads it. -/
theorem readDocument_shop :
    (Model.ofDocument shopText).toOption = some {
      author? := none
      elements := #[
        { id := 0, name := "", parent? := none, owned := [1], content := .model },
        { id := 1, name := "", parent? := some 0
          content := .classifier .classType { attributes := [{ type := .element 1 }] } }]
      relationships := []
      keys := [("s", 1)] } := by
  rw [Model.ofDocument, (readDocument_refines shop_document).1]
  decide +kernel

end Blueprint.Document

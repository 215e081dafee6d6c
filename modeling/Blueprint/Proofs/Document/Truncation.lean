/-
Module: Blueprint.Proofs.Document.Truncation
Purpose: Documents that break off inside an element. On unfinished events a text cannot be read, a
  member is read to the end of the document, and a container is a fault. So whatever is read in full
  is the layout of a tree.
Main exports: Halts, ChildHalts, readChildren_unfinished, document_of_readDraft, EndsInside,
  truncated_document_is_rejected
-/
import Blueprint.Proofs.Document.Refinement

namespace Blueprint.Document

open Blueprint.Markup (Event Tag Ending Stream)

/-! ### Loops on unfinished events -/

variable {ending : Ending} {events : List Event}

theorem map_eq_ok {ε α β : Type} {first : Except ε α} {change : α → β} {result : β} :
    first.map change = .ok result ↔ ∃ value, first = .ok value ∧ change value = result := by
  cases first <;> simp [Except.map]

/-- A reader that stops where nothing is left succeeds with what it has, if at all. -/
theorem stop_eq_ok {α : Type} {cursor : Cursor} {outcome : Except DocumentFault α} {value : α}
    (stopped : cursor.stop outcome = .ok value) : outcome = .ok value := by
  unfold Cursor.stop at stopped
  split at stopped
  · exact stopped
  · cases stopped

theorem skipTo_unfinished {trimming : Bool} (unfinished : Unfinished events) {depth : Nat}
    {after : Cursor} (skipped : skipTo depth ⟨events, ending, trimming⟩ = .ok after) :
    after.events = [] := by
  induction unfinished generalizing depth with
  | nil =>
      unfold skipTo at skipped
      rw [skipElement] at skipped
      obtain ⟨later, stopped, same⟩ := map_eq_ok.mp skipped
      cases stop_eq_ok stopped
      rw [← same]
      rfl
  | leaf piece _ laterIH => exact laterIH (skipTo_leaf depth piece ▸ skipped)
  | empty tag _ laterIH => exact laterIH (skipTo_empty depth tag ▸ skipped)
  | inner tag _ withinIH => exact withinIH (skipTo_start depth tag ▸ skipped)
  | outer tag inside closing _ laterIH =>
      rw [skipTo_start, skipTo_events_append, skipTo_finish_succ] at skipped
      exact laterIH skipped

/-- The text of an element that does not end is a fault. -/
theorem readText_unfinished {trimming : Bool} (unfinished : Unfinished events) :
    ∃ fault, textRead ⟨events, ending, trimming⟩ = .error fault := by
  obtain ⟨fault, failed⟩ := (readText_fails_iff ⟨events, ending, trimming⟩).mpr (.inl unfinished)
  exact ⟨fault, by rw [textRead, failed]; rfl⟩

theorem events_of_readBody {cursor after : Cursor} {found text : String} (exhausted : cursor.events = [])
    (read : stops (readBody found cursor) = .ok (text, after)) : after.events = [] := by
  obtain ⟨events, ending, trimming⟩ := cursor
  cases exhausted
  unfold stops at read
  rw [readBody] at read
  obtain ⟨later, stopped, same⟩ := map_eq_ok.mp read
  cases stop_eq_ok stopped
  cases same
  rfl

theorem readBody_unfinished (unfinished : Unfinished events) {found text : String} {after : Cursor}
    (read : stops (readBody found ⟨events, ending, true⟩) = .ok (text, after)) : after.events = [] := by
  induction unfinished generalizing found with
  | nil => exact events_of_readBody rfl read
  | leaf piece _ laterIH => exact laterIH (stops_readBody_leaf ▸ read)
  | empty tag _ laterIH => exact laterIH (stops_readBody_empty ▸ read)
  | inner tag within _ =>
      by_cases named : tag.name = "documentation"
      · rw [stops_readBody_documentation named] at read
        obtain ⟨fault, failed⟩ := @readText_unfinished ending _ true within
        rw [failed] at read
        cases read
      · rw [stops_readBody_other named] at read
        obtain ⟨behind, skipped, read⟩ := bind_eq_ok.mp read
        exact events_of_readBody (skipTo_unfinished within skipped) read
  | outer tag inside closing _ laterIH =>
      by_cases named : tag.name = "documentation"
      · rw [stops_readBody_documentation named, textRead_events] at read
        obtain ⟨⟨text, behind⟩, found, read⟩ := bind_eq_ok.mp read
        obtain ⟨_, _, same⟩ := map_eq_ok.mp found
        cases same
        exact laterIH read
      · rw [stops_readBody_other named, skipTo_events] at read
        exact laterIH read

/-! ### Where readers halt -/

/-- Whatever succeeds behind the tag of an element halts at a cursor with the given property. -/
structure Halts (halt : Cursor → Prop) (isEmpty : Bool) (cursor : Cursor) : Prop where
  skip : ∀ later, skipOpened isEmpty cursor = .ok later → halt later.val
  body : ∀ text later, readMemberBody isEmpty cursor = .ok (text, later) → halt later.val
  text : isEmpty = false → ∀ text later, readText cursor = (.ok text, later) → halt later.val

variable {isEmpty : Bool} {inside : Forest} {cursor after : Cursor} {halt : Cursor → Prop}

/-- Behind the tag of an element that ends, readers halt behind that element. -/
theorem halts_spans (spans : Spans ending isEmpty inside cursor after) :
    Halts (· = after) isEmpty cursor where
  skip later skipped := by
    obtain ⟨other, same, stopped⟩ := exists_skipOpened spans
    cases same.symm.trans skipped
    exact stopped
  body text later read := by
    rcases stops_cases (stops_readMemberBody spans) with ⟨_, failed, _⟩ | ⟨_, _, same, stopped, _⟩
    · cases failed.symm.trans read
    · cases same.symm.trans read
      exact stopped
  text filled text later read := by
    subst filled
    rcases readText_cases spans with ⟨_, _, failed, _⟩ | ⟨_, _, same, stopped, _⟩
    · cases failed.symm.trans read
    · cases same.symm.trans read
      exact stopped

/-- Behind the tag of an element that does not end, readers halt at the end of the document. -/
theorem halts_unfinished (unfinished : Unfinished events) :
    Halts (·.events = []) false ⟨events, ending, true⟩ where
  skip later skipped :=
    skipTo_unfinished unfinished (map_eq_ok.mpr ⟨later, skipped, rfl⟩)
  body text later read :=
    readBody_unfinished unfinished (map_eq_ok.mpr ⟨(text, later), read, rfl⟩)
  text _ text later read := by
    obtain ⟨fault, failed⟩ := @readText_unfinished ending _ true unfinished
    simp [textRead, read, Except.map] at failed

/-- A member halts where its body does. -/
theorem halts_member {α β : Type} (halts : Halts halt isEmpty cursor) {record : Except DocumentFault α}
    {finish : α → String × cursor.Later → Except DocumentFault (β × cursor.Later)}
    (keeps : ∀ record text behind value later,
      finish record (text, behind) = .ok (value, later) → later = behind)
    {value : β} {later : cursor.Later}
    (read : (record.bind fun record => (readMemberBody isEmpty cursor).bind (finish record)) =
      .ok (value, later)) : halt later.val := by
  obtain ⟨record, _, read⟩ := bind_eq_ok.mp read
  obtain ⟨⟨text, behind⟩, body, read⟩ := bind_eq_ok.mp read
  rw [keeps record text behind value later read]
  exact halts.body text behind body

theorem halts_readAttribute (halts : Halts halt isEmpty cursor) {tag : Tag} {record : AttributeTag}
    {later : cursor.Later} (read : readAttribute tag isEmpty cursor = .ok (record, later)) :
    halt later.val :=
  halts_member halts (fun _ _ _ _ _ same => by cases same; rfl) read

theorem halts_readParameter (halts : Halts halt isEmpty cursor) {tag : Tag} {record : ParameterTag}
    {later : cursor.Later} (read : readParameter tag isEmpty cursor = .ok (record, later)) :
    halt later.val :=
  halts_member halts (fun _ _ _ _ _ same => by cases same; rfl) read

theorem halts_readLiteral (halts : Halts halt isEmpty cursor) {tag : Tag} {literal : Literal}
    {later : cursor.Later} (read : readLiteral tag isEmpty cursor = .ok (literal, later)) :
    halt later.val :=
  halts_member halts (fun _ _ _ _ _ same => by cases same; rfl) read

theorem halts_readEnd (halts : Halts halt isEmpty cursor) {tag : Tag} {found : AssociationEnd String}
    {later : cursor.Later} (read : readEnd tag isEmpty cursor = .ok (found, later)) :
    halt later.val := by
  refine halts_member halts (fun record text behind value later same => ?_) read
  dsimp only at same
  split at same
  · cases same
    rfl
  · cases same

theorem halts_readOperationChild (halts : Halts halt isEmpty cursor) {draft read : OperationDraft}
    {tag : Tag} {later : cursor.Later}
    (done : readOperationChild draft tag isEmpty cursor = .ok (read, later)) : halt later.val := by
  unfold readOperationChild at done
  split at done
  · obtain ⟨⟨record, behind⟩, parameter, done⟩ := bind_eq_ok.mp done
    cases done
    exact halts_readParameter halts parameter
  · split at done
    · rename_i documents
      simp only [Bool.and_eq_true, Bool.not_eq_true'] at documents
      rcases text : readText cursor with ⟨outcome, behind⟩
      simp only [text] at done
      obtain ⟨content, rfl, done⟩ := bind_eq_ok.mp done
      cases done
      exact halts.text documents.2 content _ text
    · split at done
      · rename_i specifies
        simp only [Bool.and_eq_true, Bool.not_eq_true'] at specifies
        rcases text : readText cursor with ⟨outcome, behind⟩
        simp only [text] at done
        obtain ⟨content, rfl, done⟩ := bind_eq_ok.mp done
        cases done
        exact halts.text specifies.2 content _ text
      · obtain ⟨behind, skipped, done⟩ := bind_eq_ok.mp done
        cases done
        exact halts.skip _ skipped

/-- Where one reader and then another succeed, the second begins where the first has stopped. -/
theorem exists_of_stops_bind {α β : Type} {first : Except DocumentFault (α × cursor.Later)}
    {next : α × Cursor → Except DocumentFault (β × Cursor)} {result : β × Cursor}
    (read : (stops first).bind next = .ok result) :
    ∃ middle later, first = .ok (middle, later) ∧ next (middle, later.val) = .ok result := by
  obtain ⟨_, stopped, read⟩ := bind_eq_ok.mp read
  obtain ⟨⟨middle, later⟩, same, rfl⟩ := map_eq_ok.mp stopped
  exact ⟨middle, later, same, read⟩

/-- Let a reader of what an element holds stop where the events are over, pass over what is no element, and go
    on behind each element from where that element halts. When the events do not end the element, it has read
    all of them. -/
theorem exhausted_of_unfinished {α : Type} {read : α → Cursor → Except DocumentFault (α × Cursor)}
    (atEnd : ∀ {state cursor result after}, cursor.events = [] →
      read state cursor = .ok (result, after) → after.events = [])
    (leaf : ∀ state (piece : Leaf) events,
      read state ⟨piece.event :: events, ending, true⟩ = read state ⟨events, ending, true⟩)
    (opening : ∀ {state result after event events tag isEmpty} {halt : Cursor → Prop},
      opening? event = some (tag, isEmpty) → Halts halt isEmpty ⟨events, ending, true⟩ →
      read state ⟨event :: events, ending, true⟩ = .ok (result, after) →
      ∃ middle behind, halt behind ∧ read middle behind = .ok (result, after))
    (unfinished : Unfinished events) {state result : α}
    (done : read state ⟨events, ending, true⟩ = .ok (result, after)) : after.events = [] := by
  induction unfinished generalizing state with
  | nil => exact atEnd rfl done
  | leaf piece _ laterIH => exact laterIH (leaf state piece _ ▸ done)
  | empty tag _ laterIH =>
      obtain ⟨_, _, rfl, done⟩ := opening rfl (halts_spans (.hollow _)) done
      exact laterIH done
  | inner tag within _ =>
      obtain ⟨_, _, exhausted, done⟩ := opening rfl (halts_unfinished within) done
      exact atEnd exhausted done
  | outer tag inside closing _ laterIH =>
      obtain ⟨_, _, rfl, done⟩ := opening rfl (halts_spans (.filled inside closing _)) done
      exact laterIH done

theorem events_of_readOperation {draft read : OperationDraft} (exhausted : cursor.events = [])
    (done : stops (readOperation draft cursor) = .ok (read, after)) : after.events = [] := by
  obtain ⟨events, ending, trimming⟩ := cursor
  cases exhausted
  unfold stops at done
  rw [readOperation] at done
  obtain ⟨later, stopped, same⟩ := map_eq_ok.mp done
  cases stop_eq_ok stopped
  cases same
  rfl

/-- Reading one element inside an operation and what follows it: the element halts where its readers
    do, and reading goes on from there. -/
theorem exists_of_readOperation_opening {draft read : OperationDraft} {event : Event} {tag : Tag}
    {trimming : Bool} (opens : opening? event = some (tag, isEmpty))
    (halts : Halts halt isEmpty ⟨events, ending, trimming⟩)
    (done : stops (readOperation draft ⟨event :: events, ending, trimming⟩) = .ok (read, after)) :
    ∃ middle behind, halt behind ∧ stops (readOperation middle behind) = .ok (read, after) := by
  rw [stops_readOperation_opening draft opens] at done
  obtain ⟨middle, later, child, done⟩ := exists_of_stops_bind done
  exact ⟨middle, later.val, halts_readOperationChild halts child, done⟩

theorem readOperation_unfinished (unfinished : Unfinished events) {draft read : OperationDraft}
    (done : stops (readOperation draft ⟨events, ending, true⟩) = .ok (read, after)) :
    after.events = [] :=
  exhausted_of_unfinished events_of_readOperation (fun draft piece _ => stops_readOperation_leaf draft piece)
    exists_of_readOperation_opening unfinished done

theorem events_of_readEnds {ends found : List (AssociationEnd String)} (exhausted : cursor.events = [])
    (done : stops (readEnds ends cursor) = .ok (found, after)) : after.events = [] := by
  obtain ⟨events, ending, trimming⟩ := cursor
  cases exhausted
  unfold stops at done
  rw [readEnds] at done
  obtain ⟨later, stopped, same⟩ := map_eq_ok.mp done
  cases stop_eq_ok stopped
  cases same
  rfl

/-- Reading one element inside an association and what follows it: the element halts where its readers
    do, and reading goes on from there. -/
theorem exists_of_readEnds_opening {ends found : List (AssociationEnd String)} {event : Event} {tag : Tag}
    {trimming : Bool} (opens : opening? event = some (tag, isEmpty))
    (halts : Halts halt isEmpty ⟨events, ending, trimming⟩)
    (done : stops (readEnds ends ⟨event :: events, ending, trimming⟩) = .ok (found, after)) :
    ∃ middle behind, halt behind ∧ stops (readEnds middle behind) = .ok (found, after) := by
  by_cases named : tag.name = "end"
  · rw [stops_readEnds_opening ends opens named] at done
    obtain ⟨middle, later, child, done⟩ := exists_of_stops_bind done
    exact ⟨_, _, halts_readEnd halts child, done⟩
  · rw [stops_readEnds_other ends opens named] at done
    obtain ⟨_, passed, done⟩ := bind_eq_ok.mp done
    obtain ⟨later, skipped, rfl⟩ := map_eq_ok.mp passed
    exact ⟨_, _, halts.skip later skipped, done⟩

theorem readEnds_unfinished (unfinished : Unfinished events) {ends found : List (AssociationEnd String)}
    (done : stops (readEnds ends ⟨events, ending, true⟩) = .ok (found, after)) :
    after.events = [] :=
  exhausted_of_unfinished events_of_readEnds (fun ends piece _ => stops_readEnds_leaf ends piece)
    exists_of_readEnds_opening unfinished done

/-! ### Containers -/

/-- Reading any element behind its tag halts at a cursor with the given property. -/
def ChildHalts (halt : Cursor → Prop) (isEmpty : Bool) (cursor : Cursor) : Prop :=
  ∀ (draft read : Draft) (parent : ElementId) (tag : Tag) (later : cursor.Later),
    readChild draft parent tag isEmpty cursor = .ok (read, later) → halt later.val

/-- A member that is accepted ends where its own reader stops. -/
theorem exists_of_member {α : Type} {content : Except DocumentFault (α × cursor.Later)}
    {add : α → Except DocumentFault Draft} {read : Draft} {later : cursor.Later}
    (done : (do
      let (value, behind) ← content
      return (← add value, behind)) = .ok (read, later)) : ∃ value, content = .ok (value, later) := by
  obtain ⟨⟨value, behind⟩, member, done⟩ := bind_eq_ok.mp done
  obtain ⟨_, _, done⟩ := bind_eq_ok.mp done
  cases done
  exact ⟨value, member⟩

/-- A declaration that is accepted and passed over ends where passing stops. -/
theorem passed_of_declaration {accepted : Except DocumentFault Draft}
    {passed : Except DocumentFault cursor.Later} {read : Draft} {later : cursor.Later}
    (done : (do
      let grown ← accepted
      return (grown, ← passed)) = .ok (read, later)) : passed = .ok later := by
  obtain ⟨_, _, done⟩ := bind_eq_ok.mp done
  obtain ⟨_, passed, done⟩ := bind_eq_ok.mp done
  cases done
  exact passed

/-- A child of a container halts where its own reader does. -/
theorem halts_readChild (halts : Halts halt isEmpty cursor)
    (operation : isEmpty = false → ∀ {tag operation}, readOperationTag tag = .ok operation →
      ∀ read later, readOperation { operation } cursor = .ok (read, later) → halt later.val)
    (ends : isEmpty = false → ∀ found later, readEnds [] cursor = .ok (found, later) → halt later.val)
    (here : isEmpty = true → halt cursor)
    (children : isEmpty = false → ∀ draft parent read later,
      readChildren draft parent cursor = .ok (read, later) → halt later.val) :
    ChildHalts halt isEmpty cursor := by
  intro draft read parent tag later done
  have container : ∀ (draft : Draft) (id : ElementId),
      (if isEmpty then .ok (draft, cursor.here) else readChildren draft id cursor) = .ok (read, later) →
      halt later.val := by
    intro draft id done
    cases isEmpty with
    | true =>
        cases done
        exact here rfl
    | false => exact children rfl draft id read later done
  rw [readChild] at done
  cases kind : TagKind.ofName tag.name <;> simp only [kind] at done
  case package =>
    obtain ⟨placed, _, done⟩ := bind_eq_ok.mp done
    exact container placed _ done
  case classifier =>
    obtain ⟨placed, _, done⟩ := bind_eq_ok.mp done
    exact container placed _ done
  case attr =>
    obtain ⟨record, member⟩ := exists_of_member done
    exact halts_readAttribute halts member
  case operation =>
    obtain ⟨found, tagRead, done⟩ := bind_eq_ok.mp done
    cases isEmpty with
    | true =>
        obtain ⟨_, _, done⟩ := bind_eq_ok.mp done
        cases done
        exact here rfl
    | false =>
        obtain ⟨⟨record, behind⟩, member, done⟩ := bind_eq_ok.mp done
        obtain ⟨_, _, done⟩ := bind_eq_ok.mp done
        cases done
        exact operation rfl tagRead record _ member
  case literal =>
    obtain ⟨literal, member⟩ := exists_of_member done
    exact halts_readLiteral halts member
  case useCase => exact halts.skip _ (passed_of_declaration done)
  case directed => exact halts.skip _ (passed_of_declaration done)
  case association =>
    cases isEmpty with
    | true =>
        cases done
        exact here rfl
    | false =>
        obtain ⟨⟨found, behind⟩, member, done⟩ := bind_eq_ok.mp done
        cases done
        exact ends rfl found _ member
  case documentation =>
    cases isEmpty with
    | true =>
        cases done
        exact here rfl
    | false =>
        rcases text : readText cursor with ⟨outcome, behind⟩
        simp only [text, Bool.false_eq_true, if_false] at done
        cases outcome with
        | error fault => cases done
        | ok content =>
            cases done
            exact halts.text rfl content _ text
  case unknown =>
    obtain ⟨_, skipped, done⟩ := bind_eq_ok.mp done
    cases done
    exact halts.skip _ skipped

/-- Reading one element inside a container and what follows it: the element halts where its reader
    does, and reading goes on from there. -/
theorem exists_of_readChildren_opening {draft read : Draft} {parent : ElementId} {event : Event}
    {tag : Tag} {trimming : Bool} (opens : opening? event = some (tag, isEmpty))
    (child : ChildHalts halt isEmpty ⟨events, ending, trimming⟩)
    (done : stops (readChildren draft parent ⟨event :: events, ending, trimming⟩) = .ok (read, after)) :
    ∃ middle behind, halt behind ∧ stops (readChildren middle parent behind) = .ok (read, after) := by
  rw [stops_readChildren_opening draft parent opens] at done
  obtain ⟨middle, later, first, done⟩ := exists_of_stops_bind done
  exact ⟨middle, later.val, child _ _ _ _ _ first, done⟩

/-- An element that is empty halts where it begins. -/
theorem halts_hollow : ChildHalts (· = ⟨events, ending, true⟩) true ⟨events, ending, true⟩ :=
  halts_readChild (halts_spans (.hollow events)) (by simp) (by simp) (fun _ => rfl) (by simp)

/-- An element that ends halts behind its end, if its own children do. -/
theorem halts_filled {inside : Forest} {closing : String}
    (children : ∀ {draft parent read after},
      stops (readChildren draft parent ⟨inside.events ++ .finish closing :: events, ending, true⟩) =
        .ok (read, after) → after = ⟨events, ending, true⟩) :
    ChildHalts (· = ⟨events, ending, true⟩) false
      ⟨inside.events ++ .finish closing :: events, ending, true⟩ := by
  have spans : Spans ending false inside ⟨inside.events ++ .finish closing :: events, ending, true⟩
      ⟨events, ending, true⟩ := .filled inside closing events
  refine halts_readChild (halts_spans spans) (fun _ _ _ tagRead read later done => ?_)
    (fun _ found later done => ?_) (by simp) (fun _ _ _ read later done => ?_)
  · rcases stops_cases (stops_readOperation_tag tagRead spans) with
      ⟨_, failed, _⟩ | ⟨_, _, same, stopped, _⟩
    · cases failed.symm.trans done
    · cases same.symm.trans done
      exact stopped
  · rcases stops_cases (stops_readEnds_tag spans) with ⟨_, failed, _⟩ | ⟨_, _, same, stopped, _⟩
    · cases failed.symm.trans done
    · cases same.symm.trans done
      exact stopped
  · exact children (map_eq_ok.mpr ⟨(read, later), done, rfl⟩)

/-- A container that ends halts behind its end. -/
theorem after_readChildren (forest : Forest) {closing : String} {draft read : Draft} {parent : ElementId}
    (done : stops (readChildren draft parent ⟨forest.events ++ .finish closing :: events, ending, true⟩) =
      .ok (read, after)) : after = ⟨events, ending, true⟩ := by
  induction forest generalizing closing events draft parent read after with
  | nil =>
      rw [Forest.events, List.nil_append, stops_readChildren_finish] at done
      cases done
      rfl
  | element tag inside final rest insideIH restIH =>
      rw [Forest.events_element_append] at done
      obtain ⟨_, _, rfl, done⟩ := exists_of_readChildren_opening rfl (halts_filled insideIH) done
      exact restIH done
  | empty tag rest restIH =>
      rw [Forest.events, List.cons_append] at done
      obtain ⟨_, _, rfl, done⟩ := exists_of_readChildren_opening rfl halts_hollow done
      exact restIH done
  | leaf piece rest restIH =>
      rw [Forest.events, List.cons_append, stops_readChildren_leaf] at done
      exact restIH done

theorem not_readChildren_of_events {draft : Draft} {parent : ElementId} {result : Draft × Cursor}
    (exhausted : cursor.events = []) : stops (readChildren draft parent cursor) ≠ .ok result := by
  obtain ⟨events, ending, trimming⟩ := cursor
  cases exhausted
  intro done
  unfold stops at done
  rw [readChildren] at done
  obtain ⟨later, stopped, _⟩ := map_eq_ok.mp done
  cases stop_eq_ok stopped

/-- A container that does not end is a fault. -/
theorem readChildren_unfinished (unfinished : Unfinished events) {draft : Draft} {parent : ElementId}
    {result : Draft × Cursor} :
    stops (readChildren draft parent ⟨events, ending, true⟩) ≠ .ok result := by
  obtain ⟨read, after⟩ := result
  intro done
  induction unfinished generalizing draft parent read after with
  | nil => exact not_readChildren_of_events rfl done
  | leaf piece _ laterIH =>
      rw [stops_readChildren_leaf] at done
      exact laterIH _ _ done
  | empty tag _ laterIH =>
      obtain ⟨_, _, rfl, done⟩ := exists_of_readChildren_opening rfl halts_hollow done
      exact laterIH _ _ done
  | inner tag within withinIH =>
      have child := halts_readChild (halts_unfinished within)
        (fun _ _ _ _ read later done =>
          readOperation_unfinished within (map_eq_ok.mpr ⟨(read, later), done, rfl⟩))
        (fun _ found later done =>
          readEnds_unfinished within (map_eq_ok.mpr ⟨(found, later), done, rfl⟩))
        (by simp)
        (fun _ _ _ read later done =>
          (withinIH _ _ (map_eq_ok.mpr ⟨(read, later), done, rfl⟩)).elim)
      obtain ⟨_, _, exhausted, done⟩ := exists_of_readChildren_opening rfl child done
      exact not_readChildren_of_events exhausted done
  | outer tag inside closing _ laterIH =>
      obtain ⟨_, _, rfl, done⟩ := exists_of_readChildren_opening rfl
        (halts_filled (after_readChildren inside)) done
      exact laterIH _ _ done

/-! ### Whole documents -/

/-- An event before the model does not change what the model is. -/
theorem ModelDocument.cons {event : Event} {tag : Tag}
    (other : ∀ tag isEmpty, opening? event = some (tag, isEmpty) → tag.name ≠ "model")
    (document : ModelDocument events isEmpty tag inside) :
    ModelDocument (event :: events) isEmpty tag inside := by
  have before : ∀ {before}, NoneOpens "model" before → NoneOpens "model" (event :: before) := by
    intro before first found member
    rcases List.mem_cons.mp member with rfl | later
    · exact other
    · exact first found later
  cases document with
  | filled named first => exact .filled named (before first)
  | hollow named first => exact .hollow named (before first)

/-- A document whose reading phase succeeds holds a model that ends. -/
theorem document_of_readDraft {events : List Event} {draft : Draft}
    (read : readDraft ⟨events, ending, true⟩ = .ok draft) :
    ∃ isEmpty tag inside, ModelDocument events isEmpty tag inside := by
  induction events with
  | nil =>
      rw [readDraft] at read
      cases stop_eq_ok read
  | cons event events ih =>
      by_cases model : ∃ tag isEmpty, opening? event = some (tag, isEmpty) ∧ tag.name = "model"
      · obtain ⟨tag, isEmpty, opens, named⟩ := model
        rw [readDraft_model opens named] at read
        obtain ⟨record, _, read⟩ := bind_eq_ok.mp read
        cases event with
        | start tag =>
            cases opens
            obtain ⟨_, done, _⟩ := map_eq_ok.mp read
            rcases finished_or_unfinished events with ⟨inside, closing, after, rfl⟩ | unfinished
            · exact ⟨_, _, _, .filled named (show NoneOpens "model" [] by simp [NoneOpens])⟩
            · exact (readChildren_unfinished unfinished done).elim
        | empty tag =>
            cases opens
            exact ⟨_, _, _, .hollow named (show NoneOpens "model" [] by simp [NoneOpens])⟩
        | _ => cases opens
      · have other : ∀ tag isEmpty, opening? event = some (tag, isEmpty) → tag.name ≠ "model" :=
          fun tag isEmpty opens named => model ⟨tag, isEmpty, opens, named⟩
        have passed : readDraft ⟨event :: events, ending, true⟩ = readDraft ⟨events, ending, true⟩ :=
          readDraft_before [event] events (by simpa [NoneOpens] using other)
        obtain ⟨isEmpty, tag, inside, document⟩ := ih (passed ▸ read)
        exact ⟨isEmpty, tag, inside, document.cons other⟩

/-! ### Documents cut off inside the model -/

/-- The number of elements that events open. -/
def openings (events : List Event) : Nat :=
  events.countP fun
    | .start _ => true
    | _ => false

/-- The number of elements that events close. -/
def closings (events : List Event) : Nat :=
  events.countP fun
    | .finish _ => true
    | _ => false

/-- Events behind a start tag that end before the element of that tag does: however many of them are read, no
    more elements have been closed than opened. -/
def EndsInside (events : List Event) : Prop :=
  ∀ n ≤ events.length, closings (events.take n) ≤ openings (events.take n)

instance (events : List Event) : Decidable (EndsInside events) :=
  inferInstanceAs (Decidable (∀ n ≤ events.length, closings (events.take n) ≤ openings (events.take n)))

/-- The layout of a tree closes as many elements as it opens. -/
theorem closings_events (forest : Forest) : closings forest.events = openings forest.events := by
  induction forest with
  | nil => rfl
  | element tag inside closing rest insideIH restIH =>
      simp only [closings, openings, Forest.events, List.countP_cons, List.countP_append] at *
      omega
  | empty tag rest restIH => simpa [closings, openings, Forest.events] using restIH
  | leaf piece rest restIH =>
      cases piece <;> simpa [closings, openings, Forest.events, Leaf.event] using restIH

/-- However much of the layout of a tree is read, no more elements have been closed than opened. -/
theorem closings_take_events (forest : Forest) (n : Nat) :
    closings (forest.events.take n) ≤ openings (forest.events.take n) := by
  induction forest generalizing n with
  | nil => simp [Forest.events, closings]
  | element tag inside closing rest insideIH restIH =>
      cases n with
      | zero => simp [closings]
      | succ n =>
          have inner := insideIH n
          rw [Forest.events, List.take_succ_cons, List.take_append]
          cases past : n - inside.events.length with
          | zero =>
              simp only [closings, openings, List.take_zero, List.append_nil, List.countP_cons, if_true,
                Bool.false_eq_true, if_false] at *
              omega
          | succ behind =>
              -- the element has been closed again, and what follows it is read in part
              have outer := restIH behind
              have balanced := closings_events inside
              rw [List.take_of_length_le (by omega), List.take_succ_cons]
              simp only [closings, openings, List.countP_cons, List.countP_append] at *
              omega
  | empty tag rest restIH =>
      cases n with
      | zero => simp [closings]
      | succ n => simpa [closings, openings, Forest.events] using restIH n
  | leaf piece rest restIH =>
      cases n with
      | zero => simp [closings]
      | succ n => cases piece <;> simpa [closings, openings, Forest.events, Leaf.event] using restIH n

theorem endsInside_take (forest : Forest) (n : Nat) : EndsInside (forest.events.take n) := by
  intro m _
  rw [List.take_take]
  exact closings_take_events forest _

/-- Events that end inside an element are not the layout of a tree up to its end tag. -/
theorem unfinished_of_endsInside {events : List Event} (cut : EndsInside events) : Unfinished events := by
  rcases finished_or_unfinished events with ⟨forest, closing, after, rfl⟩ | unfinished
  · -- behind the end tag one element more has been closed than opened
    have shorter : forest.events.length + 1 ≤ (forest.events ++ .finish closing :: after).length := by
      simp
    have counts := cut _ shorter
    have balanced := closings_events forest
    rw [List.take_length_add_append, List.take_succ_cons, List.take_zero] at counts
    simp only [closings, openings, List.countP_append, List.countP_singleton] at counts balanced
    simp only [if_true, Bool.false_eq_true, if_false] at counts
    omega
  · exact unfinished

/-- A document that is cut off inside its model is rejected. Whatever stands before the model and however the
    text ends, there is a fault and no model when the events end before the element of the first `model` tag
    does; and so it is wherever the layout of a complete model is cut before its end tag. -/
theorem truncated_document_is_rejected {before : List Event} {tag : Tag} (named : tag.name = "model")
    (first : NoneOpens "model" before) (ending : Ending) :
    (∀ events, EndsInside events →
      ∃ fault, readDocument (Cursor.ofStream ⟨before ++ .start tag :: events, ending⟩) = .error fault) ∧
    ∀ (inside : Forest) (n : Nat), ∃ fault,
      readDocument (Cursor.ofStream ⟨before ++ .start tag :: inside.events.take n, ending⟩) = .error fault := by
  have rejected : ∀ events, EndsInside events →
      ∃ fault, readDocument (Cursor.ofStream ⟨before ++ .start tag :: events, ending⟩) = .error fault := by
    intro events cut
    rw [readDocument, Cursor.ofStream, readDraft_before before _ first, readDraft_model rfl named]
    cases ModelTag.read tag with
    | error fault => exact ⟨fault, rfl⟩
    | ok record =>
        cases read : stops (readChildren (opened record) Model.root ⟨events, ending, true⟩) with
        | error fault => exact ⟨fault, by simp [read, Except.bind, Except.map, bind]⟩
        | ok result => exact (readChildren_unfinished (unfinished_of_endsInside cut) read).elim
  exact ⟨rejected, fun inside n => rejected _ (endsInside_take inside n)⟩

/-- The document of a workshop that breaks off inside the body of an operation. -/
def brokenText : String :=
  "<!-- -->\n<model><package name='p'><class name='C'><operation name='f'><parameter/><specification>re"

/-- What can be read of the workshop is no model. -/
theorem workshop_is_rejected :
    ∃ events, (Stream.ofText brokenText).events = [.comment " ", .text "\n"] ++ .start ⟨"model", ""⟩ :: events ∧
      EndsInside events ∧ ∃ fault, Model.ofDocument brokenText = .error fault := by
  let events : List Event :=
    [.start ⟨"package", " name='p'"⟩, .start ⟨"class", " name='C'"⟩, .start ⟨"operation", " name='f'"⟩,
      .empty ⟨"parameter", ""⟩, .start ⟨"specification", ""⟩, .text "re"]
  have stream : Stream.ofText brokenText =
      ⟨[.comment " ", .text "\n"] ++ .start ⟨"model", ""⟩ :: events, .complete⟩ := by
    decide +kernel
  have cut : EndsInside events := by decide
  refine ⟨events, by rw [stream], cut, ?_⟩
  rw [Model.ofDocument, stream]
  exact (truncated_document_is_rejected rfl (by simp [NoneOpens, opening?]) .complete).1 events cut

end Blueprint.Document

/-
Module: Blueprint.Proofs.Document.Consumption
Purpose: Every reader of a document reads exactly its own element. Each reader is first described one
  event at a time, with the cursor it stops at and without the bound on that cursor, and then on the
  layout of a whole forest: it returns what plain recursion over the forest returns, and stops
  behind the end tag.
Main exports: skipTo, textRead, skipTo_events, textRead_events, stops_readBody_events,
  stops_readOperation_events, stops_readEnds_events
-/
import Blueprint.Proofs.Document.Portions

namespace Blueprint.Document

open Blueprint.Markup (Event Tag Ending)

/-! ### Outcomes -/

/-- A step that succeeds is one that succeeds after another that does. -/
theorem bind_eq_ok {ε α β : Type} {first : Except ε α} {next : α → Except ε β} {result : β} :
    first.bind next = .ok result ↔ ∃ value, first = .ok value ∧ next value = .ok result := by
  cases first <;> simp [Except.bind]

/-- What a reader returns, with the cursor where it stops. -/
def stops {α : Type} {cursor : Cursor} (result : Except DocumentFault (α × cursor.Later)) :
    Except DocumentFault (α × Cursor) :=
  result.map fun (value, later) => (value, later.val)

/-- A reader that agrees with an interpretation fails with its fault, or returns its value and stops in
    the expected place. -/
theorem stops_cases {α : Type} {cursor after : Cursor}
    {result : Except DocumentFault (α × cursor.Later)} {expected : Except DocumentFault α}
    (agrees : stops result = expected.map (·, after)) :
    (∃ fault, result = .error fault ∧ expected = .error fault) ∨
      ∃ value later, result = .ok (value, later) ∧ later.val = after ∧ expected = .ok value := by
  cases result with
  | error fault =>
      cases expected with
      | error other =>
          simp only [stops, Except.map, Except.error.injEq] at agrees
          exact .inl ⟨fault, rfl, by rw [agrees]⟩
      | ok value => simp [stops, Except.map] at agrees
  | ok read =>
      obtain ⟨value, later⟩ := read
      cases expected with
      | error fault => simp [stops, Except.map] at agrees
      | ok other =>
          simp only [stops, Except.map, Except.ok.injEq, Prod.mk.injEq] at agrees
          exact .inr ⟨value, later, rfl, agrees.2, by rw [agrees.1]⟩

/-- An event that opens an element is handed out as it is. -/
theorem view_of_opening {cursor : Cursor} {event : Event} {tag : Tag} {isEmpty : Bool}
    (opens : opening? event = some (tag, isEmpty)) : cursor.view event = event := by
  cases event <;> simp_all [opening?, Cursor.view]

/-! ### Passing over elements -/

variable {ending : Ending} {trimming : Bool} {events : List Event}

/-- Where passing over the rest of an element stops. -/
def skipTo (depth : Nat) (cursor : Cursor) : Except DocumentFault Cursor :=
  (skipElement depth cursor).map Subtype.val

theorem skipTo_start (depth : Nat) (tag : Tag) :
    skipTo depth ⟨.start tag :: events, ending, trimming⟩ =
      skipTo (depth + 1) ⟨events, ending, trimming⟩ := by
  unfold skipTo
  rw [skipElement]
  simp only [Cursor.next?, Cursor.view]
  cases skipElement (depth + 1) ⟨events, ending, trimming⟩ <;> rfl

theorem skipTo_finish_zero (name : String) :
    skipTo 0 ⟨.finish name :: events, ending, trimming⟩ = .ok ⟨events, ending, trimming⟩ := by
  unfold skipTo
  rw [skipElement]
  simp only [Cursor.next?, Cursor.view]
  rfl

theorem skipTo_finish_succ (depth : Nat) (name : String) :
    skipTo (depth + 1) ⟨.finish name :: events, ending, trimming⟩ =
      skipTo depth ⟨events, ending, trimming⟩ := by
  unfold skipTo
  rw [skipElement]
  simp only [Cursor.next?, Cursor.view]
  cases skipElement depth ⟨events, ending, trimming⟩ <;> rfl

theorem skipTo_empty (depth : Nat) (tag : Tag) :
    skipTo depth ⟨.empty tag :: events, ending, trimming⟩ =
      skipTo depth ⟨events, ending, trimming⟩ := by
  unfold skipTo
  rw [skipElement]
  simp only [Cursor.next?, Cursor.view]
  cases skipElement depth ⟨events, ending, trimming⟩ <;> rfl

theorem skipTo_leaf (depth : Nat) (piece : Leaf) :
    skipTo depth ⟨piece.event :: events, ending, trimming⟩ =
      skipTo depth ⟨events, ending, trimming⟩ := by
  unfold skipTo
  rw [skipElement]
  cases piece <;> simp only [Cursor.next?, Cursor.view, Leaf.event] <;>
    cases skipElement depth ⟨events, ending, trimming⟩ <;> rfl

/-- Passing over a forest leaves the number of open elements as it is. -/
theorem skipTo_events_append (forest : Forest) (depth : Nat) (events : List Event) :
    skipTo depth ⟨forest.events ++ events, ending, trimming⟩ =
      skipTo depth ⟨events, ending, trimming⟩ := by
  induction forest generalizing depth events with
  | nil => rfl
  | element tag inside closing rest insideIH restIH =>
      rw [Forest.events_element_append, skipTo_start, insideIH, skipTo_finish_succ, restIH]
  | empty tag rest restIH =>
      rw [Forest.events, List.cons_append, skipTo_empty, restIH]
  | leaf piece rest restIH =>
      rw [Forest.events, List.cons_append, skipTo_leaf, restIH]

/-- Passing over the rest of an element stops behind it. -/
theorem skipTo_events (forest : Forest) (closing : String) (events : List Event) :
    skipTo 0 ⟨forest.events ++ .finish closing :: events, ending, trimming⟩ =
      .ok ⟨events, ending, trimming⟩ := by
  rw [skipTo_events_append, skipTo_finish_zero]

/-! ### Collecting text -/

/-- The text that is collected, with the cursor where collecting stops. -/
def gathered (depth : Nat) (done run : String) (cursor : Cursor) :
    Except DocumentFault (String × Cursor) :=
  (collectText depth done run cursor).1.map (·, (collectText depth done run cursor).2.val)

/-- Collecting takes up the text in front of an end tag, and stops behind the tag. -/
theorem gathered_events (forest : Forest) (done run closing : String) (events : List Event) :
    gathered 0 done run ⟨forest.events ++ .finish closing :: events, ending, false⟩ =
      (textOf run forest.leaves).map fun text => (done ++ text, ⟨events, ending, false⟩) := by
  change (collected _ _ _ _).1.map (·, (collected _ _ _ _).2) = _
  have text := textFrom_events done run forest
  rcases collected_layout ending forest closing events done run with
    joined | ⟨fault, behind, halts, failed⟩
  · rw [joined, text]
    cases textOf run forest.leaves <;> rfl
  · rw [halts.textFrom_fails] at text
    rw [failed]
    cases leaves : textOf run forest.leaves with
    | error other => simpa [leaves, Except.map] using text
    | ok found => simp [leaves, Except.map] at text

/-- The text that is read, with the cursor where reading stops. -/
def textRead (cursor : Cursor) : Except DocumentFault (String × Cursor) :=
  (readText cursor).1.map (·, (readText cursor).2.val)

/-- Reading a text reads the text of the element, and stops behind it. -/
theorem textRead_events (forest : Forest) (closing : String) (events : List Event) :
    textRead ⟨forest.events ++ .finish closing :: events, ending, true⟩ =
      forest.text.map (·, ⟨events, ending, true⟩) := by
  have collected : gathered 0 "" "" ⟨forest.events ++ .finish closing :: events, ending, false⟩ = _ :=
    gathered_events forest "" "" closing events
  unfold gathered at collected
  simp only [textRead, readText, Cursor.setTrimming, Forest.text]
  revert collected
  rcases collectText 0 "" "" ⟨forest.events ++ .finish closing :: events, ending, false⟩ with
    ⟨outcome, after, shorter⟩
  cases textOf "" forest.leaves <;> cases outcome <;>
    simp [Except.map]
  rintro rfl rfl
  simp

/-! ### Documentation of members -/

theorem stops_readBody_documentation {found : String} {tag : Tag} (named : tag.name = "documentation") :
    stops (readBody found ⟨.start tag :: events, ending, trimming⟩) =
      (textRead ⟨events, ending, trimming⟩).bind fun (text, after) => stops (readBody text after) := by
  unfold stops textRead
  rw [readBody]
  simp only [Cursor.next?, Cursor.view, named, beq_self_eq_true, if_true]
  rcases readText ⟨events, ending, trimming⟩ with ⟨outcome, after, shorter⟩
  cases outcome with
  | error fault => rfl
  | ok text =>
      simp only [Except.map, Except.bind]
      cases readBody text after <;> rfl

theorem stops_readBody_other {found : String} {tag : Tag} (other : tag.name ≠ "documentation") :
    stops (readBody found ⟨.start tag :: events, ending, trimming⟩) =
      (skipTo 0 ⟨events, ending, trimming⟩).bind fun after => stops (readBody found after) := by
  unfold stops skipTo
  rw [readBody]
  simp only [Cursor.next?, Cursor.view, beq_eq_false_iff_ne.mpr other, Bool.false_eq_true, if_false]
  cases skipElement 0 ⟨events, ending, trimming⟩ with
  | error fault => rfl
  | ok later =>
      simp only [bind, Except.map, Except.bind]
      cases readBody found later.val <;> rfl

theorem stops_readBody_finish {found name : String} :
    stops (readBody found ⟨.finish name :: events, ending, trimming⟩) =
      .ok (found, ⟨events, ending, trimming⟩) := by
  unfold stops
  rw [readBody]
  rfl

theorem stops_readBody_empty {found : String} {tag : Tag} :
    stops (readBody found ⟨.empty tag :: events, ending, trimming⟩) =
      stops (readBody found ⟨events, ending, trimming⟩) := by
  unfold stops
  rw [readBody]
  simp only [Cursor.next?, Cursor.view]
  cases readBody found ⟨events, ending, trimming⟩ <;> rfl

theorem stops_readBody_leaf {found : String} {piece : Leaf} :
    stops (readBody found ⟨piece.event :: events, ending, trimming⟩) =
      stops (readBody found ⟨events, ending, trimming⟩) := by
  unfold stops
  rw [readBody]
  cases piece <;> simp only [Leaf.event, Cursor.next?, Cursor.view] <;>
    cases readBody found ⟨events, ending, trimming⟩ <;> rfl

/-- Reading the body of a member finds its documentation, and stops behind the member. -/
theorem stops_readBody_events (forest : Forest) (found closing : String) (events : List Event) :
    stops (readBody found ⟨forest.events ++ .finish closing :: events, ending, true⟩) =
      (forest.documentation found).map (·, ⟨events, ending, true⟩) := by
  induction forest generalizing found with
  | nil => exact stops_readBody_finish
  | element tag inside final rest _ restIH =>
      rw [Forest.events_element_append, Forest.documentation]
      by_cases named : tag.name = "documentation"
      · rw [stops_readBody_documentation named, textRead_events]
        cases inside.text with
        | error fault => simp [named, Except.map, Except.bind, bind]
        | ok text => simpa [named, Except.map, Except.bind, bind] using restIH text
      · rw [stops_readBody_other named, skipTo_events]
        simpa [named, Except.bind] using restIH found
  | empty tag rest restIH =>
      rw [Forest.events, List.cons_append, stops_readBody_empty]
      exact restIH found
  | leaf piece rest restIH =>
      rw [Forest.events, List.cons_append, stops_readBody_leaf]
      exact restIH found

/-! ### Members -/

/-- What the reader of an element finds behind its tag: an empty element holds nothing and ends where it
    begins; any other holds a forest and ends behind its end tag. -/
inductive Spans (ending : Ending) : (isEmpty : Bool) → Forest → Cursor → Cursor → Prop where
  | filled (inside : Forest) (closing : String) (events : List Event) :
      Spans ending false inside ⟨inside.events ++ .finish closing :: events, ending, true⟩
        ⟨events, ending, true⟩
  | hollow (events : List Event) :
      Spans ending true .nil ⟨events, ending, true⟩ ⟨events, ending, true⟩

variable {isEmpty : Bool} {inside : Forest} {cursor after : Cursor}

theorem skipOpened_spans (spans : Spans ending isEmpty inside cursor after) :
    (skipOpened isEmpty cursor).map Subtype.val = .ok after := by
  cases spans with
  | filled inside closing events => exact skipTo_events inside closing events
  | hollow events => rfl

theorem stops_readMemberBody (spans : Spans ending isEmpty inside cursor after) :
    stops (readMemberBody isEmpty cursor) = (inside.documentation "").map (·, after) := by
  cases spans with
  | filled inside closing events => exact stops_readBody_events inside "" closing events
  | hollow events => rfl

/-- Reading a member reads its tag and then its documentation. -/
theorem stops_member {α β : Type} (record : Except DocumentFault α) (finish : α → String → β)
    (spans : Spans ending isEmpty inside cursor after) :
    stops (do
      let record ← record
      let (documentation, after) ← readMemberBody isEmpty cursor
      return (finish record documentation, after)) =
    (do
      let record ← record
      let documentation ← inside.documentation ""
      return finish record documentation : Except DocumentFault β).map (·, after) := by
  cases record with
  | error fault => rfl
  | ok record =>
      rcases stops_cases (stops_readMemberBody spans) with
        ⟨fault, read, found⟩ | ⟨documentation, later, read, rfl, found⟩ <;>
      simp [stops, read, found, bind, Except.bind, Except.map, pure, Except.pure]

theorem stops_readAttribute (tag : Tag) (spans : Spans ending isEmpty inside cursor after) :
    stops (readAttribute tag isEmpty cursor) = (attributeOf tag inside).map (·, after) :=
  stops_member (AttributeTag.read tag)
    (fun record documentation =>
      ({ record with member := { record.member with documentation } } : AttributeTag)) spans

theorem stops_readParameter (tag : Tag) (spans : Spans ending isEmpty inside cursor after) :
    stops (readParameter tag isEmpty cursor) = (parameterOf tag inside).map (·, after) :=
  stops_member (ParameterTag.read tag)
    (fun record documentation =>
      ({ record with parameter := { record.parameter with documentation } } : ParameterTag)) spans

theorem stops_readLiteral (tag : Tag) (spans : Spans ending isEmpty inside cursor after) :
    stops (readLiteral tag isEmpty cursor) = (literalOf tag inside).map (·, after) :=
  stops_member (readLiteralTag tag)
    (fun literal documentation => ({ literal with documentation } : Literal)) spans

theorem stops_readEnd (tag : Tag) (spans : Spans ending isEmpty inside cursor after) :
    stops (readEnd tag isEmpty cursor) = (endOf tag inside).map (·, after) := by
  unfold readEnd endOf
  cases EndTag.read tag with
  | error fault => rfl
  | ok record =>
      rcases stops_cases (stops_readMemberBody spans) with
        ⟨fault, read, found⟩ | ⟨documentation, later, read, rfl, found⟩ <;>
      simp only [stops, read, found, bind, Except.bind, Except.map, pure, Except.pure]
      cases record.key? <;> rfl

/-! ### Operations -/

/-- The keys of the types of parameters, with the places of the parameters. -/
def OperationRecord.keys (record : OperationRecord) : List (Nat × String) :=
  record.parameters.zipIdx.flatMap fun (parameter, place) =>
    parameter.typeKey?.toList.map (place, ·)

/-- The operation as its reader keeps it: parameters, and apart from them the keys of their types. -/
def OperationRecord.draft (record : OperationRecord) : OperationDraft where
  operation :=
    { record.operation with parameters := record.parameters.map ParameterTag.parameter }
  keys := record.keys

theorem draft_addParameter (record : OperationRecord) (parameter : ParameterTag) :
    record.draft.addParameter parameter =
      OperationRecord.draft { record with parameters := record.parameters ++ [parameter] } := by
  simp [OperationRecord.draft, OperationDraft.addParameter, OperationRecord.keys, List.zipIdx_append]

/-- Reading the text of an element that is not empty, by cases. -/
theorem readText_cases (spans : Spans ending false inside cursor after) :
    (∃ fault later, readText cursor = (.error fault, later) ∧ inside.text = .error fault) ∨
      ∃ text later, readText cursor = (.ok text, later) ∧ later.val = after ∧
        inside.text = .ok text := by
  have agrees : textRead cursor = inside.text.map (·, after) := by
    cases spans with
    | filled inside closing events => exact textRead_events inside closing events
  rcases read : readText cursor with ⟨outcome, later⟩
  simp only [textRead, read] at agrees
  cases outcome with
  | error fault =>
      cases found : inside.text <;> simp_all [Except.map]
  | ok text =>
      cases found : inside.text with
      | error fault => simp [found, Except.map] at agrees
      | ok other =>
          simp only [found, Except.map, Except.ok.injEq, Prod.mk.injEq] at agrees
          exact .inr ⟨text, later, rfl, agrees.2, by rw [agrees.1]⟩

theorem stops_readOperationChild (record : OperationRecord) (tag : Tag)
    (spans : Spans ending isEmpty inside cursor after) :
    stops (readOperationChild record.draft tag isEmpty cursor) =
      (operationWith record tag isEmpty inside).map fun record => (record.draft, after) := by
  unfold readOperationChild operationWith
  split
  · rcases stops_cases (stops_readParameter tag spans) with
      ⟨fault, read, found⟩ | ⟨parameter, later, read, rfl, found⟩
    · simp [stops, read, found, bind, Except.bind, Except.map]
    · simp [stops, read, found, bind, Except.bind, Except.map, pure, Except.pure, draft_addParameter]
  · split
    · rename_i documents
      simp only [Bool.and_eq_true, Bool.not_eq_true', beq_iff_eq] at documents
      obtain ⟨_, rfl⟩ := documents
      rcases readText_cases spans with
        ⟨fault, later, read, found⟩ | ⟨text, later, read, rfl, found⟩ <;>
      simp [stops, read, found, bind, Except.bind, Except.map, pure, Except.pure,
        OperationRecord.draft, OperationRecord.keys]
    · split
      · rename_i specifies
        simp only [Bool.and_eq_true, Bool.not_eq_true', beq_iff_eq] at specifies
        obtain ⟨_, rfl⟩ := specifies
        rcases readText_cases spans with
          ⟨fault, later, read, found⟩ | ⟨text, later, read, rfl, found⟩ <;>
        simp [stops, read, found, bind, Except.bind, Except.map, pure, Except.pure,
          OperationRecord.draft, OperationRecord.keys]
      · have skipped := skipOpened_spans spans
        revert skipped
        cases skipOpened isEmpty cursor <;>
          simp [stops, bind, Except.bind, Except.map, pure, Except.pure]

theorem stops_readOperation_opening (draft : OperationDraft) {event : Event} {tag : Tag}
    (opens : opening? event = some (tag, isEmpty)) :
    stops (readOperation draft ⟨event :: events, ending, trimming⟩) =
      (stops (readOperationChild draft tag isEmpty ⟨events, ending, trimming⟩)).bind
        fun (draft, after) => stops (readOperation draft after) := by
  unfold stops
  rw [readOperation]
  simp only [Cursor.next?, view_of_opening opens, opens]
  cases readOperationChild draft tag isEmpty ⟨events, ending, trimming⟩ with
  | error fault => rfl
  | ok read =>
      simp only [bind, Except.map, Except.bind]
      cases readOperation read.1 read.2.val <;> rfl

theorem stops_readOperation_finish (draft : OperationDraft) (name : String) :
    stops (readOperation draft ⟨.finish name :: events, ending, trimming⟩) =
      .ok (draft, ⟨events, ending, trimming⟩) := by
  unfold stops
  rw [readOperation]
  rfl

theorem stops_readOperation_leaf (draft : OperationDraft) (piece : Leaf) :
    stops (readOperation draft ⟨piece.event :: events, ending, trimming⟩) =
      stops (readOperation draft ⟨events, ending, trimming⟩) := by
  unfold stops
  rw [readOperation]
  cases piece <;> simp only [Leaf.event, Cursor.next?, Cursor.view, opening?] <;>
    cases readOperation draft ⟨events, ending, trimming⟩ <;> rfl

/-- Reading an operation reads what it holds, and stops behind it. -/
theorem stops_readOperation_events (forest : Forest) (record : OperationRecord) (closing : String)
    (events : List Event) :
    stops (readOperation record.draft ⟨forest.events ++ .finish closing :: events, ending, true⟩) =
      (forest.operation record).map fun record => (record.draft, ⟨events, ending, true⟩) := by
  -- one element inside the operation, and then what follows it
  have child : ∀ (record : OperationRecord) {tag : Tag} {isEmpty : Bool} {inside rest : Forest}
      {cursor : Cursor},
      Spans ending isEmpty inside cursor ⟨rest.events ++ .finish closing :: events, ending, true⟩ →
      (∀ record : OperationRecord,
        stops (readOperation record.draft ⟨rest.events ++ .finish closing :: events, ending, true⟩) =
          (rest.operation record).map fun record => (record.draft, ⟨events, ending, true⟩)) →
      ((stops (readOperationChild record.draft tag isEmpty cursor)).bind
        fun (draft, after) => stops (readOperation draft after)) =
      (do rest.operation (← operationWith record tag isEmpty inside) :
        Except DocumentFault OperationRecord).map
        fun record => (record.draft, ⟨events, ending, true⟩) := by
    intro record tag isEmpty inside rest cursor spans following
    rw [stops_readOperationChild record tag spans]
    cases operationWith record tag isEmpty inside with
    | error fault => rfl
    | ok record => exact following record
  induction forest generalizing record with
  | nil => exact stops_readOperation_finish record.draft closing
  | element tag inside final rest _ restIH =>
      rw [Forest.events_element_append, stops_readOperation_opening record.draft rfl]
      exact child record (.filled inside final _) restIH
  | empty tag rest restIH =>
      rw [Forest.events, List.cons_append, stops_readOperation_opening record.draft rfl]
      exact child record (.hollow _) restIH
  | leaf piece rest restIH =>
      rw [Forest.events, List.cons_append, stops_readOperation_leaf]
      exact restIH record

/-! ### Association ends -/

theorem stops_readEnds_opening (ends : List (AssociationEnd String)) {event : Event} {tag : Tag}
    (opens : opening? event = some (tag, isEmpty)) (named : tag.name = "end") :
    stops (readEnds ends ⟨event :: events, ending, trimming⟩) =
      (stops (readEnd tag isEmpty ⟨events, ending, trimming⟩)).bind
        fun (found, after) => stops (readEnds (ends ++ [found]) after) := by
  unfold stops
  rw [readEnds]
  simp only [Cursor.next?, view_of_opening opens, opens, named, beq_self_eq_true, if_true]
  cases readEnd tag isEmpty ⟨events, ending, trimming⟩ with
  | error fault => rfl
  | ok read =>
      simp only [bind, Except.map, Except.bind]
      cases readEnds (ends ++ [read.1]) read.2.val <;> rfl

theorem stops_readEnds_other (ends : List (AssociationEnd String)) {event : Event} {tag : Tag}
    (opens : opening? event = some (tag, isEmpty)) (other : tag.name ≠ "end") :
    stops (readEnds ends ⟨event :: events, ending, trimming⟩) =
      ((skipOpened isEmpty ⟨events, ending, trimming⟩).map Subtype.val).bind
        fun after => stops (readEnds ends after) := by
  unfold stops
  rw [readEnds]
  simp only [Cursor.next?, view_of_opening opens, opens, beq_eq_false_iff_ne.mpr other, Bool.false_eq_true, if_false]
  cases skipOpened isEmpty ⟨events, ending, trimming⟩ with
  | error fault => rfl
  | ok later =>
      simp only [bind, Except.map, Except.bind]
      cases readEnds ends later.val <;> rfl

theorem stops_readEnds_finish (ends : List (AssociationEnd String)) (name : String) :
    stops (readEnds ends ⟨.finish name :: events, ending, trimming⟩) =
      .ok (ends, ⟨events, ending, trimming⟩) := by
  unfold stops
  rw [readEnds]
  rfl

theorem stops_readEnds_leaf (ends : List (AssociationEnd String)) (piece : Leaf) :
    stops (readEnds ends ⟨piece.event :: events, ending, trimming⟩) =
      stops (readEnds ends ⟨events, ending, trimming⟩) := by
  unfold stops
  rw [readEnds]
  cases piece <;> simp only [Leaf.event, Cursor.next?, Cursor.view, opening?] <;>
    cases readEnds ends ⟨events, ending, trimming⟩ <;> rfl

/-- Reading an association reads its ends, and stops behind it. -/
theorem stops_readEnds_events (forest : Forest) (ends : List (AssociationEnd String)) (closing : String)
    (events : List Event) :
    stops (readEnds ends ⟨forest.events ++ .finish closing :: events, ending, true⟩) =
      forest.ends.map fun found => (ends ++ found, ⟨events, ending, true⟩) := by
  -- one element inside the association, and then what follows it
  have child : ∀ (ends : List (AssociationEnd String)) {event : Event} {tag : Tag} {isEmpty : Bool}
      {inside rest : Forest} {before : List Event},
      opening? event = some (tag, isEmpty) →
      Spans ending isEmpty inside ⟨before, ending, true⟩
        ⟨rest.events ++ .finish closing :: events, ending, true⟩ →
      (∀ ends, stops (readEnds ends ⟨rest.events ++ .finish closing :: events, ending, true⟩) =
          rest.ends.map fun found => (ends ++ found, ⟨events, ending, true⟩)) →
      stops (readEnds ends ⟨event :: before, ending, true⟩) =
        (if tag.name == "end" then do
          let found ← endOf tag inside
          let following ← rest.ends
          return found :: following
        else rest.ends : Except DocumentFault (List (AssociationEnd String))).map
          fun found => (ends ++ found, ⟨events, ending, true⟩) := by
    intro ends event tag isEmpty inside rest before opens spans following
    by_cases named : tag.name = "end"
    · rw [stops_readEnds_opening ends opens named, stops_readEnd tag spans]
      cases endOf tag inside with
      | error fault => simp [named, bind, Except.bind, Except.map]
      | ok found =>
          simp only [named, Except.map, Except.bind, bind, beq_self_eq_true, if_true, following]
          cases rest.ends <;> simp [pure, Except.pure]
    · rw [stops_readEnds_other ends opens named, skipOpened_spans spans]
      simpa [named, Except.bind] using following ends
  induction forest generalizing ends with
  | nil =>
      show stops (readEnds ends ⟨.finish closing :: events, ending, true⟩) = _
      rw [stops_readEnds_finish]
      simp [Forest.ends, Except.map]
  | element tag inside final rest _ restIH =>
      rw [Forest.events_element_append]
      exact child ends rfl (.filled inside final _) restIH
  | empty tag rest restIH =>
      rw [Forest.events, List.cons_append]
      exact child ends rfl (.hollow _) restIH
  | leaf piece rest restIH =>
      rw [Forest.events, List.cons_append, stops_readEnds_leaf]
      exact restIH ends

end Blueprint.Document

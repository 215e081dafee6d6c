/-
Module: Blueprint.Proofs.Document.Portions
Purpose: The text of an element, put together from its portions. A portion is a run of texts and references, which
  goes on over comments, instructions and tags and is unescaped as a whole, or a section of character data, which is
  taken as it stands. Reading takes up the portions in document order from inside nested elements, too, and stops
  behind the end tag. It fails where a run cannot be unescaped, or where the events end first: behind the section
  that ends the faulty run, behind the end tag, or at the end of the document. In every case texts are trimmed again.
Main exports: Portion, portions, joinPortions, textFrom_events, Collects, collected_layout, collected_unfinished,
  readText_fails_iff, readText_joins_portions
-/
import Blueprint.Proofs.Document.Outline

namespace Blueprint.Document

open Blueprint.Markup (Event Tag Ending Stream)

/-! ### Portions -/

/-- A part of the text of an element: texts and references as they are written, or a section of character data. -/
inductive Portion where
  | run (written : String)
  | verbatim (content : String)
deriving DecidableEq, Repr

/-- The text that a portion stands for. -/
def Portion.text : Portion → Except DocumentFault String
  | run written => unescapeRun written
  | verbatim content => .ok content

/-- Portions behind something written: it goes with a run that follows right behind it. -/
def extendRun (written : String) : List Portion → List Portion
  | .run later :: rest => .run (written ++ later) :: rest
  | rest => .run written :: rest

/-- The portions of events in order, with the longest runs. Only texts, references and sections of character data
    have a part in them. -/
def portions : List Event → List Portion
  | [] => []
  | .text content :: events => extendRun content (portions events)
  | .reference name :: events => extendRun ("&" ++ name ++ ";") (portions events)
  | .cdata content :: events => .verbatim content :: portions events
  | .start _ :: events | .empty _ :: events | .finish _ :: events | .comment _ :: events |
    .instruction _ :: events | .doctype _ :: events => portions events

/-- The texts of portions, one after the other. -/
def joinPortions : List Portion → Except DocumentFault String
  | [] => .ok ""
  | portion :: rest => do
    let text ← portion.text
    let following ← joinPortions rest
    return text ++ following

/-- No run stands right behind another. -/
def RunsApart : List Portion → Prop
  | .run _ :: .run _ :: _ => False
  | _ :: rest => RunsApart rest
  | [] => True

theorem RunsApart.extendRun {written : String} {ps : List Portion} (apart : RunsApart ps) :
    RunsApart (extendRun written ps) := by
  rcases ps with _ | ⟨_ | _, _ | ⟨_ | _, _⟩⟩ <;> simp_all [Document.extendRun, RunsApart]

theorem RunsApart.verbatim {content : String} {ps : List Portion} (apart : RunsApart ps) :
    RunsApart (.verbatim content :: ps) := by
  cases ps <;> simp_all [RunsApart]

/-- The runs are as long as they can be. -/
theorem runsApart_portions (events : List Event) : RunsApart (portions events) := by
  fun_induction portions events with
  | case1 => trivial
  | case2 content events ih => exact ih.extendRun
  | case3 name events ih => exact ih.extendRun
  | case4 content events ih => exact ih.verbatim
  | case5 | case6 | case7 | case8 | case9 | case10 => assumption

theorem extendRun_extendRun (first second : String) (ps : List Portion) :
    extendRun first (extendRun second ps) = extendRun (first ++ second) ps := by
  rcases ps with _ | ⟨_ | _, _⟩ <;> simp [extendRun, String.append_assoc]

theorem extendRun_append_verbatim (written content : String) (ps rest : List Portion) :
    extendRun written (ps ++ .verbatim content :: rest) = extendRun written ps ++ .verbatim content :: rest := by
  rcases ps with _ | ⟨_ | _, _⟩ <;> rfl

/-- A section of character data parts what stands before it from what stands behind it. -/
theorem portions_append_cdata (before behind : List Event) (content : String) :
    portions (before ++ .cdata content :: behind) = portions before ++ .verbatim content :: portions behind := by
  fun_induction portions before with
  | case1 => rfl
  | case2 written events ih => rw [List.cons_append, portions, ih, extendRun_append_verbatim]
  | case3 name events ih => rw [List.cons_append, portions, ih, extendRun_append_verbatim]
  | case4 earlier events ih => rw [List.cons_append, portions, ih, List.cons_append]
  | case5 | case6 | case7 | case8 | case9 | case10 => simpa [portions]

/-- The portions behind some events count, not the events that they are read off. -/
theorem portions_append_congr (front : List Event) {events events' : List Event}
    (same : portions events = portions events') : portions (front ++ events) = portions (front ++ events') := by
  induction front with
  | nil => exact same
  | cons event front ih => cases event <;> simp [portions, ih]

/-- The tags of a forest have no part in its portions. -/
theorem portions_events_append (forest : Forest) (events : List Event) :
    portions (forest.events ++ events) = portions (forest.leaves.map Leaf.event ++ events) := by
  induction forest generalizing events with
  | nil => rfl
  | element tag inside closing rest insideIH restIH =>
      rw [Forest.events_element_append, portions, insideIH, Forest.leaves, List.map_append, List.append_assoc]
      exact portions_append_congr _ (restIH events)
  | empty tag rest restIH => exact restIH events
  | leaf piece rest restIH => exact portions_append_congr [piece.event] (restIH events)

theorem joinPortions_cons (portion : Portion) (rest : List Portion) :
    joinPortions (portion :: rest) = portion.text.bind fun text => (joinPortions rest).map (text ++ ·) := by
  rw [joinPortions]
  cases portion.text with
  | error fault => rfl
  | ok text => cases joinPortions rest <;> rfl

theorem joinPortions_append (front back : List Portion) :
    joinPortions (front ++ back) = (joinPortions front).bind fun text => (joinPortions back).map (text ++ ·) := by
  induction front with
  | nil => cases back : joinPortions back <;> simp [joinPortions, back, Except.bind, Except.map]
  | cons portion front ih =>
      rw [List.cons_append, joinPortions_cons, joinPortions_cons, ih]
      cases portion.text with
      | error fault => rfl
      | ok text =>
          cases joinPortions front <;> cases joinPortions back <;>
            simp [Except.bind, Except.map, String.append_assoc]

/-- Portions cannot be joined if and only if one of the runs cannot be unescaped. -/
theorem joinPortions_fails_iff (ps : List Portion) :
    (∃ fault, joinPortions ps = .error fault) ↔
      ∃ written fault, .run written ∈ ps ∧ Markup.unescape written = .error fault := by
  have runOnly : ∀ portion : Portion, (∃ fault, portion.text = .error fault) ↔
      ∃ written fault, portion = .run written ∧ Markup.unescape written = .error fault := by
    intro portion
    cases portion with
    | run written =>
        have escaped : (Portion.run written).text = (Markup.unescape written).mapError .escape := rfl
        rw [escaped]
        cases unescaped : Markup.unescape written with
        | error fault => exact ⟨fun _ => ⟨written, fault, rfl, unescaped⟩, fun _ => ⟨.escape fault, rfl⟩⟩
        | ok text =>
            constructor
            · rintro ⟨fault, failed⟩
              cases failed
            · rintro ⟨_, _, same, failed⟩
              cases same
              cases unescaped.symm.trans failed
    | verbatim content => simp [Portion.text]
  have some : (∃ fault, joinPortions ps = .error fault) ↔ ∃ portion ∈ ps, ∃ fault, portion.text = .error fault := by
    induction ps with
    | nil => simp [joinPortions]
    | cons portion ps ih =>
        simp only [joinPortions_cons, List.mem_cons, exists_eq_or_imp, ← ih]
        cases portion.text with
        | error fault => simp [Except.bind]
        | ok text => cases joinPortions ps <;> simp [Except.bind, Except.map]
  simp only [some, runOnly]
  constructor
  · rintro ⟨_, member, written, fault, rfl, fails⟩
    exact ⟨written, fault, member, fails⟩
  · rintro ⟨written, fault, member, fails⟩
    exact ⟨_, member, written, fault, rfl, fails⟩

/-! ### One event at a time -/

/-- The text of what has been `done`, of the `run` that is still to be unescaped, and of the events behind them. -/
def textFrom (done run : String) (events : List Event) : Except DocumentFault String :=
  (joinPortions (extendRun run (portions events))).map (done ++ ·)

/-- An empty run in front stands for nothing. -/
theorem joinPortions_extendRun_empty (ps : List Portion) : joinPortions (extendRun "" ps) = joinPortions ps := by
  have empty : unescapeRun "" = .ok "" := by
    rw [unescapeRun, Markup.unescape, String.toList_empty, Markup.unescapeFrom]
    rfl
  rcases ps with _ | ⟨written | content, rest⟩
  · simp [extendRun, joinPortions_cons, joinPortions, Portion.text, empty, Except.bind, Except.map]
  · simp [extendRun]
  · rw [extendRun, joinPortions_cons, Portion.text, empty]
    · cases joinPortions (.verbatim content :: rest) <;> simp [Except.bind, Except.map]
    · simp

theorem textFrom_empty (events : List Event) : textFrom "" "" events = joinPortions (portions events) := by
  rw [textFrom, joinPortions_extendRun_empty]
  cases joinPortions (portions events) <;> simp [Except.map]

/-- A section of character data ends the run before it. -/
theorem textFrom_cdata {done run text : String} (unescaped : unescapeRun run = .ok text) (content : String)
    (events : List Event) :
    textFrom done run (.cdata content :: events) = textFrom (done ++ text ++ content) "" events := by
  have apart : extendRun run (portions (.cdata content :: events)) =
      .run run :: .verbatim content :: portions events := rfl
  rw [textFrom, textFrom, apart, joinPortions_extendRun_empty, joinPortions_cons, joinPortions_cons, Portion.text,
    Portion.text, unescaped]
  cases joinPortions (portions events) <;> simp [Except.bind, Except.map, String.append_assoc]

/-- The text of leaves is joined from their portions. -/
theorem textOf_eq_joinPortions (run : String) (pieces : List Leaf) :
    textOf run pieces = joinPortions (extendRun run (portions (pieces.map Leaf.event))) := by
  induction pieces generalizing run with
  | nil =>
      rw [textOf, List.map_nil, portions, extendRun, joinPortions_cons, Portion.text, joinPortions]
      · cases unescapeRun run <;> simp [Except.bind, Except.map]
      · simp
  | cons piece pieces ih =>
      cases piece with
      | text content => rw [textOf, ih, List.map_cons, Leaf.event, portions, extendRun_extendRun]
      | reference name =>
          rw [textOf, ih, List.map_cons, Leaf.event, portions, extendRun_extendRun]
          simp only [String.append_assoc]
      | cdata content =>
          have apart : extendRun run (portions ((Leaf.cdata content :: pieces).map Leaf.event)) =
              .run run :: .verbatim content :: portions (pieces.map Leaf.event) := rfl
          rw [apart, textOf, ih, joinPortions_extendRun_empty, joinPortions_cons, joinPortions_cons, Portion.text,
            Portion.text]
          cases unescapeRun run <;> cases joinPortions (portions (pieces.map Leaf.event)) <;>
            simp [bind, Except.bind, Except.map, pure, Except.pure, String.append_assoc]
      | comment | instruction | doctype => exact ih run

/-- The text of a forest goes on from what has been collected before. -/
theorem textFrom_events (done run : String) (forest : Forest) :
    textFrom done run forest.events = (textOf run forest.leaves).map (done ++ ·) := by
  have leaves := portions_events_append forest []
  rw [List.append_nil, List.append_nil] at leaves
  rw [textFrom, leaves, textOf_eq_joinPortions]

/-- What collecting returns, with the cursor where it stops. -/
def collected (depth : Nat) (done run : String) (cursor : Cursor) : Except DocumentFault String × Cursor :=
  ((collectText depth done run cursor).1, (collectText depth done run cursor).2.val)

variable {ending : Ending} {depth : Nat} {done run : String} {events : List Event}

theorem collected_nil :
    collected depth done run ⟨[], ending, false⟩ =
      (Cursor.stop ⟨[], ending, false⟩ (.error .unexpectedEnd), ⟨[], ending, false⟩) := by
  unfold collected
  rw [collectText]
  rfl

theorem collected_start (tag : Tag) :
    collected depth done run ⟨.start tag :: events, ending, false⟩ =
      collected (depth + 1) done run ⟨events, ending, false⟩ := by
  unfold collected
  rw [collectText]
  rfl

theorem collected_empty (tag : Tag) :
    collected depth done run ⟨.empty tag :: events, ending, false⟩ =
      collected depth done run ⟨events, ending, false⟩ := by
  unfold collected
  rw [collectText]
  rfl

theorem collected_finish_succ (name : String) :
    collected (depth + 1) done run ⟨.finish name :: events, ending, false⟩ =
      collected depth done run ⟨events, ending, false⟩ := by
  unfold collected
  rw [collectText]
  rfl

theorem collected_finish_zero (name : String) :
    collected 0 done run ⟨.finish name :: events, ending, false⟩ =
      (textFrom done run [], ⟨events, ending, false⟩) := by
  have last : textFrom done run [] = (unescapeRun run).map (done ++ ·) := by
    rw [textFrom, portions, extendRun, joinPortions_cons, Portion.text, joinPortions]
    · cases unescapeRun run <;> simp [Except.bind, Except.map]
    · simp
  unfold collected
  rw [collectText, last]
  rfl

/-! ### What is taken up -/

/-- The portions before a section of character data cannot be joined; `later` stands right behind the section. -/
def HaltsAtSection (done run : String) (events : List Event) (fault : DocumentFault) (later : List Event) : Prop :=
  ∃ before content, events = before ++ .cdata content :: later ∧ textFrom done run before = .error fault

/-- The text up to a section where collecting halts is a fault, whatever stands behind the section. -/
theorem HaltsAtSection.textFrom_fails {fault : DocumentFault} {later : List Event}
    (halts : HaltsAtSection done run events fault later) : textFrom done run events = .error fault := by
  obtain ⟨before, content, rfl, fails⟩ := halts
  have joined : joinPortions (extendRun run (portions before)) = .error fault := by
    unfold textFrom at fails
    cases joins : joinPortions (extendRun run (portions before)) with
    | error other => simpa [joins, Except.map] using fails
    | ok text => simp [joins, Except.map] at fails
  rw [textFrom, portions_append_cdata, extendRun_append_verbatim, joinPortions_append, joined]
  rfl

/-- Collecting takes up all of `taken`, and what stands behind it adds the same text as before. -/
structure Passes (ending : Ending) (taken : List Event) (depth depth' : Nat) (done run done' run' : String) :
    Prop where
  goes : ∀ events, collected depth done run ⟨taken ++ events, ending, false⟩ =
    collected depth' done' run' ⟨events, ending, false⟩
  text : ∀ events, textFrom done run (taken ++ events) = textFrom done' run' events

/-- Collecting fails at a section of character data in `taken`, and `later` is left of it. -/
structure Fails (ending : Ending) (taken : List Event) (depth : Nat) (done run : String) (fault : DocumentFault)
    (later : List Event) : Prop where
  halts : HaltsAtSection done run taken fault later
  outcome : ∀ events, collected depth done run ⟨taken ++ events, ending, false⟩ =
    (.error fault, ⟨later ++ events, ending, false⟩)

/-- Whatever has been collected before, collecting gets past `taken` or fails in it. The number of open elements
    goes from `depth` to `depth'`. -/
def Collects (ending : Ending) (taken : List Event) (depth depth' : Nat) : Prop :=
  ∀ done run, (∃ fault later, Fails ending taken depth done run fault later) ∨
    ∃ done' run', Passes ending taken depth depth' done run done' run'

namespace Collects

variable {depth' depth'' : Nat} {first second : List Event}

/-- Markup adds no text. -/
theorem markup {event : Event}
    (goes : ∀ done run events, collected depth done run ⟨event :: events, ending, false⟩ =
      collected depth' done run ⟨events, ending, false⟩)
    (same : ∀ events, portions (event :: events) = portions events) : Collects ending [event] depth depth' :=
  fun done run => .inr ⟨done, run, goes done run, fun events => by
    rw [List.singleton_append, textFrom, textFrom, same]⟩

theorem nil : Collects ending [] depth depth :=
  fun done run => .inr ⟨done, run, fun _ => rfl, fun _ => rfl⟩

/-- What is collected one after the other is collected together. -/
theorem append (earlier : Collects ending first depth depth') (later : Collects ending second depth' depth'') :
    Collects ending (first ++ second) depth depth'' := by
  intro done run
  rcases earlier done run with ⟨fault, rest, ⟨before, content, split, fails⟩, outcome⟩ | ⟨done', run', passes⟩
  · refine .inl ⟨fault, rest ++ second, ⟨before, content, by simp [split], fails⟩, fun events => ?_⟩
    rw [List.append_assoc, outcome, List.append_assoc]
  · rcases later done' run' with ⟨fault, rest, ⟨before, content, split, fails⟩, outcome⟩ | ⟨done'', run'', passes'⟩
    · refine .inl ⟨fault, rest, ⟨first ++ before, content, by simp [split], ?_⟩, fun events => ?_⟩
      · rw [passes.text, fails]
      · rw [List.append_assoc, passes.goes, outcome]
    · refine .inr ⟨done'', run'', fun events => ?_, fun events => ?_⟩
      · rw [List.append_assoc, passes.goes, passes'.goes]
      · rw [List.append_assoc, passes.text, passes'.text]

theorem start (tag : Tag) : Collects ending [.start tag] depth (depth + 1) :=
  markup (fun _ _ _ => collected_start tag) fun _ => rfl

theorem empty (tag : Tag) : Collects ending [.empty tag] depth depth :=
  markup (fun _ _ _ => collected_empty tag) fun _ => rfl

theorem finish (name : String) : Collects ending [.finish name] (depth + 1) depth :=
  markup (fun _ _ _ => collected_finish_succ name) fun _ => rfl

/-- A run goes on with a text or a reference. -/
theorem written {event : Event} (text : String)
    (goes : ∀ done run events, collected depth done run ⟨event :: events, ending, false⟩ =
      collected depth done (run ++ text) ⟨events, ending, false⟩)
    (continues : ∀ events, portions (event :: events) = extendRun text (portions events)) :
    Collects ending [event] depth depth :=
  fun done run => .inr ⟨done, run ++ text, goes done run, fun events => by
    rw [List.singleton_append, textFrom, textFrom, continues, extendRun_extendRun]⟩

/-- A section of character data is taken as it stands, unless the run before it cannot be unescaped. -/
theorem cdata (content : String) : Collects ending [.cdata content] depth depth := by
  intro done run
  cases unescaped : unescapeRun run with
  | error fault =>
      refine .inl ⟨fault, [], ⟨[], content, rfl, ?_⟩, fun events => ?_⟩
      · simp [textFrom, portions, extendRun, joinPortions_cons, Portion.text, unescaped, Except.bind, Except.map]
      · unfold collected
        rw [List.singleton_append, collectText]
        simp [Cursor.next?, Cursor.view, unescaped]
  | ok text =>
      refine .inr ⟨done ++ text ++ content, "", fun events => ?_, textFrom_cdata unescaped content⟩
      unfold collected
      rw [List.singleton_append, collectText]
      simp [Cursor.next?, Cursor.view, unescaped]

theorem leaf (piece : Leaf) : Collects ending [piece.event] depth depth := by
  cases piece with
  | cdata content => exact cdata content
  | text content =>
      exact written content (fun _ _ _ => by unfold collected; rw [Leaf.event, collectText]; rfl) fun _ => rfl
  | reference name =>
      refine written ("&" ++ name ++ ";") (fun done run events => ?_) fun _ => rfl
      unfold collected
      rw [Leaf.event, collectText]
      simp only [Cursor.next?, Cursor.view, String.append_assoc]
  | comment | instruction | doctype =>
      exact markup (fun _ _ _ => by unfold collected; rw [Leaf.event, collectText]; rfl) fun _ => rfl

/-- The events of a forest leave the number of open elements as it is. -/
theorem layout (forest : Forest) : Collects ending forest.events depth depth := by
  induction forest generalizing depth with
  | nil => exact nil
  | element tag inside closing rest insideIH restIH =>
      exact (start tag).append (insideIH.append ((finish closing).append restIH))
  | empty tag rest restIH => exact (empty tag).append restIH
  | leaf piece rest restIH => exact (leaf piece).append restIH

/-- Unfinished events are taken up, too. Elements in which they end are left open. -/
theorem unfinished {events : List Event} (unfinished : Unfinished events) :
    ∃ depth', Collects ending events depth depth' := by
  induction unfinished generalizing depth with
  | nil => exact ⟨depth, nil⟩
  | leaf piece _ laterIH =>
      obtain ⟨depth', later⟩ := @laterIH depth
      exact ⟨depth', (leaf piece).append later⟩
  | empty tag _ laterIH =>
      obtain ⟨depth', later⟩ := @laterIH depth
      exact ⟨depth', (empty tag).append later⟩
  | inner tag _ withinIH =>
      obtain ⟨depth', within⟩ := @withinIH (depth + 1)
      exact ⟨depth', (start tag).append within⟩
  | outer tag inside closing _ laterIH =>
      obtain ⟨depth', later⟩ := @laterIH depth
      exact ⟨depth', (start tag).append ((layout inside).append ((finish closing).append later))⟩

end Collects

/-! ### Whole texts -/

/-- Reading stops right behind a section of character data in the events: the portions before the section cannot
    be joined. -/
def StopsAtSection (events : List Event) (fault : DocumentFault) (later : List Event) : Prop :=
  ∃ before content, events = before ++ .cdata content :: later ∧ joinPortions (portions before) = .error fault

theorem haltsAtSection_empty {fault : DocumentFault} {later : List Event} :
    HaltsAtSection "" "" events fault later ↔ StopsAtSection events fault later := by
  simp only [HaltsAtSection, StopsAtSection, textFrom_empty]

/-- Reading a text is collecting it from nothing, with texts as they stand, and trimming them again behind it. -/
theorem readText_eq_collected (cursor : Cursor) :
    (readText cursor).1 = (collected 0 "" "" ⟨cursor.events, cursor.ending, false⟩).1.map Text.dedent ∧
      (readText cursor).2.val = (collected 0 "" "" ⟨cursor.events, cursor.ending, false⟩).2.setTrimming true :=
  ⟨rfl, rfl⟩

/-- What stands in front of an end tag is collected in full, unless a section stops it. -/
theorem collected_layout (ending : Ending) (inside : Forest) (closing : String) (after : List Event) (done run : String) :
    collected 0 done run ⟨inside.events ++ .finish closing :: after, ending, false⟩ =
      (textFrom done run inside.events, ⟨after, ending, false⟩) ∨
    ∃ fault behind, HaltsAtSection done run inside.events fault behind ∧
      collected 0 done run ⟨inside.events ++ .finish closing :: after, ending, false⟩ =
        (.error fault, ⟨behind ++ .finish closing :: after, ending, false⟩) := by
  have collects : Collects ending inside.events 0 0 := .layout inside
  rcases collects done run with
    ⟨fault, behind, halts, outcome⟩ | ⟨done', run', passes⟩
  · exact .inr ⟨fault, behind, halts, outcome _⟩
  · refine .inl ?_
    rw [passes.goes, collected_finish_zero, ← passes.text, List.append_nil]

/-- The text of an element that does not end is a fault: the end of the events, if no section stops the reading. -/
theorem collected_unfinished (ending : Ending) (unfinished : Unfinished events) :
    (collected 0 "" "" ⟨events, ending, false⟩ =
      (Cursor.stop ⟨[], ending, false⟩ (.error .unexpectedEnd), ⟨[], ending, false⟩)) ∨
    ∃ fault behind, StopsAtSection events fault behind ∧
      collected 0 "" "" ⟨events, ending, false⟩ = (.error fault, ⟨behind, ending, false⟩) := by
  obtain ⟨depth, collects⟩ : ∃ depth, Collects ending events 0 depth := Collects.unfinished unfinished
  rcases collects "" "" with ⟨fault, behind, halts, outcome⟩ | ⟨done, run, passes⟩
  · refine .inr ⟨fault, behind, haltsAtSection_empty.mp halts, ?_⟩
    simpa using outcome []
  · have goes := passes.goes []
    rw [List.append_nil] at goes
    exact .inl (goes.trans collected_nil)

variable {cursor : Cursor}

/-- The text of an element that ends is joined from its portions and dedented. Reading stops behind the end tag, or
    else right behind the section where it fails. -/
theorem readText_layout {inside : Forest} {closing : String} {after : List Event}
    (layout : cursor.events = inside.events ++ .finish closing :: after) :
    (readText cursor).1 = (joinPortions (portions inside.events)).map Text.dedent ∧
      (readText cursor).2.val.ending = cursor.ending ∧
      ((readText cursor).2.val.events = after ∨
        ∃ fault behind, (readText cursor).1 = .error fault ∧ StopsAtSection inside.events fault behind ∧
          (readText cursor).2.val.events = behind ++ .finish closing :: after) := by
  obtain ⟨text, stopped⟩ := readText_eq_collected cursor
  rw [text, stopped, layout]
  rcases collected_layout cursor.ending inside closing after "" "" with
    joined | ⟨fault, behind, halts, failed⟩
  · rw [joined, textFrom_empty]
    exact ⟨rfl, rfl, .inl rfl⟩
  · rw [failed, ← textFrom_empty, halts.textFrom_fails]
    exact ⟨rfl, rfl, .inr ⟨fault, behind, rfl, haltsAtSection_empty.mp halts, rfl⟩⟩

/-- The text of an element that does not end cannot be read. Reading stops at the end of the document, or else right
    behind the section where it fails. -/
theorem readText_of_unfinished (unfinished : Unfinished cursor.events) :
    (readText cursor).2.val.ending = cursor.ending ∧
      (((readText cursor).1 = cursor.stop (.error .unexpectedEnd) ∧ (readText cursor).2.val.events = []) ∨
        ∃ fault, (readText cursor).1 = .error fault ∧
          StopsAtSection cursor.events fault (readText cursor).2.val.events) := by
  obtain ⟨text, stopped⟩ := readText_eq_collected cursor
  rw [text, stopped]
  rcases collected_unfinished cursor.ending unfinished with ended | ⟨fault, behind, stops, failed⟩
  · rw [ended]
    refine ⟨rfl, .inl ⟨?_, rfl⟩⟩
    unfold Cursor.stop
    cases cursor.ending <;> rfl
  · rw [failed]
    exact ⟨rfl, .inr ⟨fault, rfl, stops⟩⟩

theorem exists_error_of_stop {α : Type} (cursor : Cursor) (fault : DocumentFault) :
    ∃ found, (cursor.stop (.error fault) : Except DocumentFault α) = .error found := by
  unfold Cursor.stop
  cases cursor.ending <;> exact ⟨_, rfl⟩

/-- A text cannot be read if and only if its element does not end or one of the runs in it cannot be unescaped. -/
theorem readText_fails_iff (cursor : Cursor) :
    (∃ fault, (readText cursor).1 = .error fault) ↔
      Unfinished cursor.events ∨
        ∃ (inside : Forest) (closing : String) (after : List Event) (written : String)
            (fault : Markup.EscapeFault),
          cursor.events = inside.events ++ .finish closing :: after ∧
            .run written ∈ portions inside.events ∧ Markup.unescape written = .error fault := by
  have joined : ∀ (inside : Forest) (closing : String) (after : List Event),
      cursor.events = inside.events ++ .finish closing :: after →
        ((∃ fault, (readText cursor).1 = .error fault) ↔
          ∃ written fault, .run written ∈ portions inside.events ∧ Markup.unescape written = .error fault) := by
    intro inside closing after layout
    rw [(readText_layout layout).1, ← joinPortions_fails_iff]
    cases joinPortions (portions inside.events) <;> simp [Except.map]
  constructor
  · intro fails
    rcases finished_or_unfinished cursor.events with ⟨inside, closing, after, layout⟩ | unfinished
    · obtain ⟨written, fault, member, failed⟩ := (joined inside closing after layout).mp fails
      exact .inr ⟨inside, closing, after, written, fault, layout, member, failed⟩
    · exact .inl unfinished
  · rintro (unfinished | ⟨inside, closing, after, written, fault, layout, member, failed⟩)
    · rcases (readText_of_unfinished unfinished).2 with ⟨ended, _⟩ | ⟨fault, failed, _⟩
      · rw [ended]
        exact exists_error_of_stop cursor .unexpectedEnd
      · exact ⟨fault, failed⟩
    · exact (joined inside closing after layout).mpr ⟨written, fault, member, failed⟩

/-- The text of an element is the text of its portions in document order, dedented: of each longest run of texts and
    references, unescaped, and of each section of character data as it stands. It is read if the element ends and
    every run can be unescaped, and then reading stops right behind the end tag. Reading that fails stops there, too,
    or at the end of the document, or right behind the section of character data where it fails. Whether or not a
    text is read, texts are trimmed from there on. -/
theorem readText_joins_portions (cursor : Cursor) :
    (∀ (inside : Forest) (closing : String) (after : List Event),
      cursor.events = inside.events ++ .finish closing :: after →
        RunsApart (portions inside.events) ∧
        (readText cursor).1 = (joinPortions (portions inside.events)).map Text.dedent ∧
        ((readText cursor).2.val.events = after ∨
          ∃ fault behind, (readText cursor).1 = .error fault ∧ StopsAtSection inside.events fault behind ∧
            (readText cursor).2.val.events = behind ++ .finish closing :: after)) ∧
    (Unfinished cursor.events →
      ((readText cursor).1 = cursor.stop (.error .unexpectedEnd) ∧ (readText cursor).2.val.events = []) ∨
        ∃ fault, (readText cursor).1 = .error fault ∧
          StopsAtSection cursor.events fault (readText cursor).2.val.events) ∧
    ((∃ fault, (readText cursor).1 = .error fault) ↔
      Unfinished cursor.events ∨
        ∃ (inside : Forest) (closing : String) (after : List Event) (written : String)
            (fault : Markup.EscapeFault),
          cursor.events = inside.events ++ .finish closing :: after ∧
            .run written ∈ portions inside.events ∧ Markup.unescape written = .error fault) ∧
    (readText cursor).2.val.ending = cursor.ending ∧ (readText cursor).2.val.trimming = true := by
  refine ⟨fun inside closing after layout => ?_, fun unfinished => (readText_of_unfinished unfinished).2,
    readText_fails_iff cursor, ?_, rfl⟩
  · obtain ⟨text, _, stopped⟩ := readText_layout layout
    exact ⟨runsApart_portions inside.events, text, stopped⟩
  · rcases finished_or_unfinished cursor.events with ⟨inside, closing, after, layout⟩ | unfinished
    · exact (readText_layout layout).2.1
    · exact (readText_of_unfinished unfinished).1

/-- What an element of documentation holds: a reference, a comment and an element in one run, and a section of
    character data behind it. -/
def mixedContent : Forest :=
  .leaf (.text "a ") <| .leaf (.reference "lt") <| .leaf (.comment "not part of it") <|
    .element ⟨"b", ""⟩ (.leaf (.text " c") .nil) "b" <| .leaf (.cdata "&lt;") <| .leaf (.text " d ") .nil

/-- The run is unescaped, the section is not, and the text behind it is trimmed with the whole. -/
theorem readText_mixedContent :
    (readText ⟨mixedContent.events ++ [.finish "documentation"], .complete, true⟩).1.toOption =
      some "a < c&lt; d" := by
  rw [((readText_joins_portions ⟨_, _, _⟩).1 mixedContent "documentation" [] rfl).2.1]
  decide +kernel

end Blueprint.Document

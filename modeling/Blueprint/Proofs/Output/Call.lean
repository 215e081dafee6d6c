/-
Module: Blueprint.Proofs.Output.Call
Purpose: Runs as lists of calls. A store performs a list of calls one after the other, as far as the
  first that it refuses. A run of a target performs a list of calls when it ends, from every state, as the
  store ends that performs them; the notices that it reports on the way change nothing in the store.
Main exports: Call, Store.answer, Store.perform, perform_append, perform_cases, exists_perform_of_steps,
  Performs, performs_bind
-/
import Blueprint.Output.Target

namespace Blueprint.Output

/-- A call of a target: a directory is to be created, or a file to be written. -/
inductive Call where
  | createDirectory (path : String)
  | writeFile (path text : String)
deriving DecidableEq, Repr

variable {σ : Type} {store : Store σ}

namespace Store

/-- What a store makes of a call. -/
def answer (store : Store σ) : Call → σ → Except OutputError Unit × σ
  | .createDirectory path => store.createDirectory path
  | .writeFile path text => store.writeFile path text

/-- The calls one after the other, as far as the first that is refused. -/
def perform (store : Store σ) : List Call → σ → Except OutputError Unit × σ
  | [], state => (.ok (), state)
  | call :: rest, state =>
    match store.answer call state with
    | (.ok (), reached) => store.perform rest reached
    | (.error fault, left) => (.error fault, left)

theorem perform_cons_ok {call : Call} {rest : List Call} {state reached : σ}
    (accepted : store.answer call state = (.ok (), reached)) :
    store.perform (call :: rest) state = store.perform rest reached := by
  rw [perform, accepted]

theorem perform_cons_error {call : Call} {rest : List Call} {state left : σ} {fault : OutputError}
    (refused : store.answer call state = (.error fault, left)) :
    store.perform (call :: rest) state = (.error fault, left) := by
  rw [perform, refused]

/-- More calls are performed only after all calls before them have been accepted. -/
theorem perform_append (calls more : List Call) (state : σ) :
    store.perform (calls ++ more) state =
      match store.perform calls state with
      | (.ok (), reached) => store.perform more reached
      | (.error fault, left) => (.error fault, left) := by
  induction calls generalizing state with
  | nil => rfl
  | cons call rest ih =>
      rw [List.cons_append]
      rcases answered : store.answer call state with ⟨outcome, reached⟩
      cases outcome with
      | ok => rw [perform_cons_ok answered, perform_cons_ok answered, ih]
      | error fault => rw [perform_cons_error answered, perform_cons_error answered]

/-- Either every call is accepted, or the run ends with the first call that is refused: the calls before
    it have been accepted, and the fault and the state that are left are those of the refused call. -/
theorem perform_cases (calls : List Call) (state : σ) :
    (∃ reached, store.perform calls state = (.ok (), reached)) ∨
    ∃ before call after reached fault left, calls = before ++ call :: after ∧
      store.perform before state = (.ok (), reached) ∧ store.answer call reached = (.error fault, left) ∧
      store.perform calls state = (.error fault, left) := by
  induction calls generalizing state with
  | nil => exact .inl ⟨state, rfl⟩
  | cons call rest ih =>
      rcases answered : store.answer call state with ⟨outcome, reached⟩
      cases outcome with
      | error fault =>
          refine .inr ⟨[], call, rest, state, fault, reached, rfl, rfl, answered, ?_⟩
          exact perform_cons_error answered
      | ok =>
          rw [perform_cons_ok answered]
          rcases ih reached with accepted | refused
          · exact .inl accepted
          · obtain ⟨before, last, after, state, fault, left, split, whole, ends, failed⟩ := refused
            refine .inr ⟨call :: before, last, after, state, fault, left, ?_, ?_, ends, failed⟩
            · rw [split, List.cons_append]
            · rw [perform_cons_ok answered, whole]

/-- What relates a state to the calls performed so far, and is kept by each next call, which is then
    accepted, relates the state after all calls to all of them. -/
theorem exists_perform_of_steps {relates : σ → List Call → Prop} {calls : List Call} {state : σ}
    (begins : relates state [])
    (steps : ∀ before call after reached, calls = before ++ call :: after → relates reached before →
      ∃ next, store.answer call reached = (.ok (), next) ∧ relates next (before ++ [call])) :
    ∃ final, store.perform calls state = (.ok (), final) ∧ relates final calls := by
  suffices onward : ∀ done left reached, calls = done ++ left → relates reached done →
      ∃ final, store.perform left reached = (.ok (), final) ∧ relates final calls from
    onward [] calls state rfl begins
  intro done left
  induction left generalizing done with
  | nil =>
      intro reached whole related
      rw [List.append_nil] at whole
      exact ⟨reached, rfl, whole ▸ related⟩
  | cons call rest ih =>
      intro reached whole related
      obtain ⟨next, accepted, related⟩ := steps done call rest reached whole related
      rw [perform_cons_ok accepted]
      exact ih (done ++ [call]) next (by rw [whole, List.append_assoc, List.singleton_append]) related

end Store

/-! ### Runs of targets -/

/-- Runs with a store. -/
abbrev Run (σ : Type) : Type → Type :=
  ExceptT OutputError (StateM (Logged σ))

/-- The run performs the calls: from every state its outcome and the state of the store are those that
    the calls lead to. -/
def Performs (store : Store σ) (run : Run σ Unit) (calls : List Call) : Prop :=
  ∀ logged : Logged σ, ∃ notices,
    run logged = ((store.perform calls logged.state).1, ⟨(store.perform calls logged.state).2, notices⟩)

theorem performs_pure (store : Store σ) : Performs store (pure ()) [] := by
  intro logged
  exact ⟨logged.notices, rfl⟩

theorem performs_report (store : Store σ) (notice : Notice) :
    Performs store (liftM ((Target.ofStore store).report notice)) [] := by
  intro logged
  exact ⟨notice :: logged.notices, rfl⟩

/-- A single call ends as the store answers it. -/
theorem perform_singleton (store : Store σ) (call : Call) (state : σ) :
    store.perform [call] state = store.answer call state := by
  rcases answered : store.answer call state with ⟨outcome, reached⟩
  cases outcome with
  | ok => rw [Store.perform_cons_ok answered, Store.perform]
  | error fault => rw [Store.perform_cons_error answered]

theorem performs_createDirectory (store : Store σ) (path : String) :
    Performs store ((Target.ofStore store).createDirectory path) [.createDirectory path] := by
  intro logged
  exact ⟨logged.notices, by rw [perform_singleton]; rfl⟩

theorem performs_writeFile (store : Store σ) (path text : String) :
    Performs store ((Target.ofStore store).writeFile path text) [.writeFile path text] := by
  intro logged
  exact ⟨logged.notices, by rw [perform_singleton]; rfl⟩

theorem bind_apply (first : Run σ Unit) (next : Unit → Run σ Unit) (logged : Logged σ) :
    (first >>= next) logged =
      match first logged with
      | (.ok result, reached) => next result reached
      | (.error fault, left) => (.error fault, left) := by
  change ExceptT.bindCont next (first logged).1 (first logged).2 = _
  rcases first logged with ⟨outcome, reached⟩
  cases outcome <;> rfl

/-- One run after the other performs the calls of both. -/
theorem performs_bind {first second : Run σ Unit} {calls more : List Call}
    (before : Performs store first calls) (after : Performs store second more) :
    Performs store (first >>= fun _ => second) (calls ++ more) := by
  intro logged
  obtain ⟨earlier, ran⟩ := before logged
  rw [bind_apply, ran, Store.perform_append]
  rcases performed : store.perform calls logged.state with ⟨outcome, reached⟩
  cases outcome with
  | ok => exact after ⟨reached, earlier⟩
  | error fault => exact ⟨earlier, rfl⟩

end Blueprint.Output

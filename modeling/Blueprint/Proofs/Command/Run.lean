/-
Module: Blueprint.Proofs.Command.Run
Purpose: Whole runs of the command line. Everything before generation reads the file tree and changes nothing in
  it, so preparing a run comes to the same as on a tree that nothing can be done to. A check stands between
  the model and the element to begin with: it ends the run where the model breaks a rule, and changes neither
  the outcome nor the tree where it does not.
Main exports: Workspace.frozen, Reads, reads_prepare, Failure.IsEarly, Rejects, prepare_of_loaded, prepare_cases,
  exists_execution, check_is_gate
-/
import Blueprint.Command.Run
import Blueprint.Proofs.Command.Arguments
import Blueprint.Proofs.Document.Closure
import Blueprint.Proofs.Layout

namespace Blueprint

open Output (FileTree Logged Notice OutputError Target)
open Php (Options)

/-- A file tree in which files can be read and nothing can be done. -/
def Workspace.frozen (tree : FileTree) : Workspace Id where
  read path := tree.read path
  targetAt _ := {
    createDirectory := fun path => throw (.createDirectory path (.other "frozen"))
    writeFile := fun path _ => throw (.writeFile path (.other "frozen"))
    report := fun _ => () }

namespace Command

/-! ### Runs that only read -/

theorem inContext_run {σ ε α : Type} (context : String) (message : ε → String) (step : ExceptT ε (StateM σ) α)
    (state : σ) :
    inContext context message step state =
      ((step state).1.mapError fun fault => ⟨context, some (message fault)⟩, (step state).2) := rfl

/-- A step after another one begins with the result and the state that the first one leaves. -/
theorem bind_run {σ ε α β : Type} (first : ExceptT ε (StateM σ) α) (next : α → ExceptT ε (StateM σ) β) (state : σ) :
    (first >>= next) state =
      match first state with
      | (.ok result, reached) => next result reached
      | (.error fault, left) => (.error fault, left) := by
  change ExceptT.bindCont next (first state).1 (first state).2 = _
  rcases first state with ⟨outcome, reached⟩
  cases outcome <;> rfl

/-- The run only reads the tree: it ends in the same way as on the frozen tree and leaves the tree as it is,
    whatever it reports. -/
def Reads {ε α : Type} (tree : FileTree) (run : ExceptT ε (StateM (Logged FileTree)) α) (still : ExceptT ε Id α) :
    Prop :=
  ∀ notices, ∃ more, run ⟨tree, notices⟩ = (still, ⟨tree, more⟩)

namespace Reads

variable {ε ε' α β : Type} {tree : FileTree}

theorem pure (value : α) : Reads tree (Pure.pure value : ExceptT ε _ α) (Pure.pure value) :=
  fun notices => ⟨notices, rfl⟩

theorem throw (fault : ε) : Reads tree (throw fault : ExceptT ε _ α) (throw fault) :=
  fun notices => ⟨notices, rfl⟩

theorem mk (outcome : Except ε α) : Reads tree (ExceptT.mk (Pure.pure outcome)) (ExceptT.mk (Pure.pure outcome)) :=
  fun notices => ⟨notices, rfl⟩

theorem bind {first : ExceptT ε (StateM (Logged FileTree)) α} {still : ExceptT ε Id α}
    {next : α → ExceptT ε (StateM (Logged FileTree)) β} {stillNext : α → ExceptT ε Id β}
    (before : Reads tree first still) (after : ∀ value, Reads tree (next value) (stillNext value)) :
    Reads tree (first >>= next) (still >>= stillNext) := by
  intro notices
  obtain ⟨more, ends⟩ := before notices
  rw [bind_run, ends]
  cases still with
  | ok value => exact after value more
  | error fault => exact ⟨more, rfl⟩

theorem adapt {run : ExceptT ε (StateM (Logged FileTree)) α} {still : ExceptT ε Id α} (reads : Reads tree run still)
    (translate : ε → ε') : Reads tree (run.adapt translate) (still.adapt translate) := by
  intro notices
  obtain ⟨more, ends⟩ := reads notices
  refine ⟨more, ?_⟩
  change ((run ⟨tree, notices⟩).1.mapError translate, (run ⟨tree, notices⟩).2) = _
  rw [ends]
  rfl

theorem read (path : String) : Reads tree (Workspace.ofTree.read path) ((Workspace.frozen tree).read path) :=
  fun notices => ⟨notices, rfl⟩

theorem report (root : String) (notice : Notice) :
    Reads tree (liftM ((Workspace.ofTree.targetAt root).report notice) : ExceptT ε _ Unit)
      (liftM (((Workspace.frozen tree).targetAt root).report notice)) :=
  fun notices => ⟨notice :: notices, rfl⟩

end Reads

/-! ### Before generation -/

section Reading

variable (tree : FileTree) (path : String) (arguments : Arguments)

theorem reads_loadModel : Reads tree (loadModel Workspace.ofTree path) (loadModel (.frozen tree) path) := by
  refine ((Reads.read path).adapt _).bind fun text => ?_
  cases Model.ofDocument text with
  | ok model => exact .pure model
  | error fault => exact .throw _

theorem reads_loadPreferences :
    Reads tree (loadPreferences Workspace.ofTree path) (loadPreferences (.frozen tree) path) := by
  refine ((Reads.read path).adapt _).bind fun text => ?_
  cases Preferences.ofDocument text with
  | ok preferences => exact .pure preferences
  | error fault => exact .throw _

theorem reads_preferencesOf :
    Reads tree (preferencesOf Workspace.ofTree arguments) (preferencesOf (.frozen tree) arguments) := by
  unfold preferencesOf
  cases arguments.preferences? with
  | none => exact (Reads.pure ({} : Preferences)).bind fun base => .pure _
  | some path => exact ((reads_loadPreferences tree path).adapt _).bind fun base => .pure _

theorem reads_prepare :
    Reads tree (prepare Workspace.ofTree path arguments) (prepare (.frozen tree) path arguments) := by
  unfold prepare
  refine (reads_preferencesOf tree arguments).bind fun preferences => ?_
  refine ((reads_loadModel tree path).adapt _).bind fun model => ?_
  have goesOn : Reads tree
      (ExceptT.mk (pure (baseOf model arguments)) >>= fun base => pure (model, preferences.options, base))
      (ExceptT.mk (pure (baseOf model arguments)) >>= fun base => pure (model, preferences.options, base)) :=
    (Reads.mk _).bind fun base => .pure _
  cases arguments.check with
  | false => exact goesOn
  | true => exact ((Reads.mk _).adapt _).bind fun _ => (Reads.report _ _).bind fun _ => goesOn

end Reading

variable {tree : FileTree} {path : String} {arguments : Arguments} {preferences : Preferences} {model : Model}
  {failure : Failure}

/-! ### Failures -/

/-- The failure to load the preferences or the model, or to find the element to begin with. -/
inductive Failure.IsUnready : Failure → Prop where
  | preferences (path : String) (fault : PreferencesLoadFault) :
      IsUnready ⟨"failed to load preferences " ++ path, some fault.message⟩
  | model (path : String) (fault : LoadFault) : IsUnready ⟨"failed to parse model " ++ path, some fault.message⟩
  | base (name : String) : IsUnready ⟨"unknown base element '" ++ name ++ "'", none⟩

/-- The failure of a step before generation: something is missing, or the model breaks a rule. -/
inductive Failure.IsEarly : Failure → Prop where
  | unready {failure : Failure} (unready : failure.IsUnready) : IsEarly failure
  | violation (violation : Violation) : IsEarly ⟨"model validation failed", some violation.message⟩

/-- The failure of generation. -/
inductive Failure.IsLate : Failure → Prop where
  | generation (root : String) (fault : OutputError) :
      IsLate ⟨"failed to generate into " ++ root, some fault.message⟩

/-- The eleventh character of the context, in which all contexts differ. -/
def Failure.mark? (failure : Failure) : Option Char :=
  failure.context.toList[10]?

theorem mark?_append {opening : String} (long : 10 < opening.toList.length) (text : String) (cause? : Option String) :
    Failure.mark? ⟨opening ++ text, cause?⟩ = opening.toList[10]? := by
  rw [Failure.mark?, String.toList_append, List.getElem?_append_left long]

theorem mark?_violation (cause? : Option String) :
    Failure.mark? ⟨"model validation failed", cause?⟩ = some 'd' := by
  simp [Failure.mark?]

theorem Failure.IsUnready.mark? (unready : failure.IsUnready) :
    failure.mark? = some 'l' ∨ failure.mark? = some 'p' ∨ failure.mark? = some 's' := by
  cases unready with
  | preferences path fault => exact .inl (mark?_append (by decide) path _)
  | model path fault => exact .inr (.inl (mark?_append (by decide) path _))
  | base name =>
      have opens : Failure.mark? ⟨"unknown base element '" ++ (name ++ "'"), none⟩ = some 's' :=
        mark?_append (by decide) _ none
      rw [← String.append_assoc] at opens
      exact .inr (.inr opens)

theorem Failure.IsLate.mark? (late : failure.IsLate) : failure.mark? = some 'g' := by
  cases late with
  | generation root fault => exact mark?_append (by decide) root _

/-- No failure of generation is one of an earlier step. -/
theorem Failure.IsEarly.not_isLate (early : failure.IsEarly) : ¬failure.IsLate := by
  intro late
  have marked := late.mark?
  cases early with
  | unready unready =>
      rcases unready.mark? with other | other | other <;> simp [other] at marked
  | violation violation => simp [mark?_violation] at marked

theorem Failure.IsUnready.ne_violation (unready : failure.IsUnready) (cause? : Option String) :
    failure ≠ ⟨"model validation failed", cause?⟩ := by
  rintro rfl
  rcases unready.mark? with marked | marked | marked <;> simp [mark?_violation] at marked

theorem Failure.IsLate.ne_violation (late : failure.IsLate) (cause? : Option String) :
    failure ≠ ⟨"model validation failed", cause?⟩ := by
  rintro rfl
  have marked := late.mark?
  simp [mark?_violation] at marked

/-- The command line asks for a run that gets as far as a model that breaks a rule: the preferences can be loaded,
    and so can the model. -/
inductive Rejects (tree : FileTree) (line : List String) (violation : Violation) : Prop where
  | intro {path : String} {arguments : Arguments} {preferences : Preferences} {model : Model}
      (asks : Invocation.ofArguments line = .run path arguments)
      (settled : preferencesOf (.frozen tree) arguments = .ok preferences)
      (loaded : loadModel (.frozen tree) path = .ok model) (broken : model.validate = .error violation)

theorem prepare_of_unsettled (unsettled : preferencesOf (.frozen tree) arguments = .error failure) (path : String) :
    prepare (.frozen tree) path arguments = .error failure := by
  rw [prepare, unsettled]
  rfl

theorem prepare_of_unloaded {fault : LoadFault}
    (settled : preferencesOf (.frozen tree) arguments = .ok preferences)
    (unloaded : loadModel (.frozen tree) path = .error fault) :
    prepare (.frozen tree) path arguments =
      .error ⟨"failed to parse model " ++ path, some fault.message⟩ := by
  rw [prepare, settled, unloaded]
  rfl

/-- Once the model is loaded, it is checked if that is asked for, and then the element to begin with is found. -/
theorem prepare_of_loaded (settled : preferencesOf (.frozen tree) arguments = .ok preferences)
    (loaded : loadModel (.frozen tree) path = .ok model) :
    prepare (.frozen tree) path arguments =
      match (if arguments.check then model.validate else .ok ()) with
      | .ok () => (baseOf model arguments).map fun base => (model, preferences.options, base)
      | .error violation => .error ⟨"model validation failed", some violation.message⟩ := by
  rw [prepare, settled, loaded]
  have finds : ((ExceptT.mk (pure (baseOf model arguments)) >>= fun base =>
      pure (model, preferences.options, base)) : ExceptT Failure Id _) =
      (baseOf model arguments).map fun base => (model, preferences.options, base) := by
    cases baseOf model arguments <;> rfl
  cases arguments.check with
  | false => exact finds
  | true =>
      rw [if_pos rfl, ← finds]
      change (inContext "model validation failed" Violation.message (ExceptT.mk (pure model.validate)) >>=
        fun _ => _ : ExceptT Failure Id _) = _
      cases model.validate with
      | ok done => rfl
      | error violation => rfl

/-- Preferences from a file are those that can be loaded, with the options of the command line laid over them. -/
theorem preferencesOf_of_given (given : arguments.preferences? = some path) :
    preferencesOf (.frozen tree) arguments =
      match loadPreferences (.frozen tree) path with
      | .ok file => .ok (file.merge arguments.overrides)
      | .error fault => .error ⟨"failed to load preferences " ++ path, some fault.message⟩ := by
  simp only [preferencesOf, given]
  cases loadPreferences (.frozen tree) path <;> rfl

theorem isUnready_of_preferencesOf (unsettled : preferencesOf (.frozen tree) arguments = .error failure) :
    failure.IsUnready := by
  cases given : arguments.preferences? with
  | none =>
      simp only [preferencesOf, given] at unsettled
      cases unsettled
  | some path =>
      rw [preferencesOf_of_given given] at unsettled
      split at unsettled
      · cases unsettled
      · cases unsettled
        exact .preferences path _

theorem isUnready_of_baseOf (unknown : baseOf model arguments = .error failure) : failure.IsUnready := by
  unfold baseOf at unknown
  split at unknown
  · cases unknown
  · split at unknown
    · cases unknown
    · cases unknown
      exact .base _

/-- The preparation of a run fails because something is missing, or the check that is asked for finds a
    violation, or the model has been loaded. -/
theorem prepare_cases (tree : FileTree) (path : String) (arguments : Arguments) :
    (∃ failure, prepare (.frozen tree) path arguments = .error failure ∧ failure.IsUnready) ∨
      (arguments.check = true ∧ ∃ violation : Violation, prepare (.frozen tree) path arguments =
        .error ⟨"model validation failed", some violation.message⟩) ∨
      ∃ model options base, prepare (.frozen tree) path arguments = .ok (model, options, base) ∧
        loadModel (.frozen tree) path = .ok model := by
  cases settled : preferencesOf (.frozen tree) arguments with
  | error failure => exact .inl ⟨failure, prepare_of_unsettled settled path, isUnready_of_preferencesOf settled⟩
  | ok preferences =>
      cases loaded : loadModel (.frozen tree) path with
      | error fault => exact .inl ⟨_, prepare_of_unloaded settled loaded, .model path fault⟩
      | ok model =>
          rw [prepare_of_loaded settled loaded]
          split
          · cases found : baseOf model arguments with
            | error failure => exact .inl ⟨failure, rfl, isUnready_of_baseOf found⟩
            | ok base => exact .inr (.inr ⟨model, preferences.options, base, rfl, rfl⟩)
          · rename_i violation checked
            cases asked : arguments.check with
            | false => simp [asked] at checked
            | true => exact .inr (.inl ⟨rfl, violation, rfl⟩)

/-- A step after one that succeeds begins with its value. -/
theorem adapt_ok_bind {ε ε' α β : Type} (tell : ε → ε') (value : α) (next : α → ExceptT ε' Id β) :
    ((show ExceptT ε Id α from .ok value).adapt tell >>= next) = next value := rfl

/-- Every model that can be loaded is a tree. -/
theorem isTree_of_loadModel (loaded : loadModel (.frozen tree) path = .ok model) : model.IsTree := by
  rw [loadModel] at loaded
  cases given : (Workspace.frozen tree).read path with
  | error fault =>
      rw [given] at loaded
      cases loaded
  | ok text =>
      rw [given, adapt_ok_bind] at loaded
      cases document : Model.ofDocument text with
      | error fault =>
          rw [document] at loaded
          cases loaded
      | ok other =>
          rw [document] at loaded
          cases loaded
          exact (Document.isRecorded_of_readDocument document).isTree

/-! ### Checks -/

/-- A check that finds nothing changes nothing in the preparation of a run. -/
theorem prepare_withCheck {tree : FileTree} {line : List String} {path : String} {arguments : Arguments}
    (asks : Invocation.ofArguments line = .run path arguments) (unasked : arguments.check = false)
    (accepts : ∀ violation, ¬Rejects tree line violation) :
    prepare (.frozen tree) path (arguments.withCheck true) = prepare (.frozen tree) path arguments := by
  have same : preferencesOf (.frozen tree) (arguments.withCheck true) = preferencesOf (.frozen tree) arguments := rfl
  cases settled : preferencesOf (.frozen tree) arguments with
  | error failure => rw [prepare_of_unsettled settled, prepare_of_unsettled (same.trans settled)]
  | ok preferences =>
      cases loaded : loadModel (.frozen tree) path with
      | error fault => rw [prepare_of_unloaded settled loaded, prepare_of_unloaded (same.trans settled) loaded]
      | ok model =>
          have accepted : model.validate = .ok () := by
            cases broken : model.validate with
            | ok done => rfl
            | error violation => exact absurd (.intro asks settled loaded broken) (accepts violation)
          rw [prepare_of_loaded settled loaded, prepare_of_loaded (same.trans settled) loaded, accepted, unasked]
          rfl

/-- A check that finds a violation ends the preparation of a run. -/
theorem prepare_of_rejects {tree : FileTree} {line : List String} {path : String} {arguments : Arguments}
    {violation : Violation} (asks : Invocation.ofArguments line = .run path arguments)
    (rejects : Rejects tree line violation) :
    prepare (.frozen tree) path (arguments.withCheck true) =
      .error ⟨"model validation failed", some violation.message⟩ := by
  cases rejects with
  | intro asks' settled loaded broken =>
      cases asks.symm.trans asks'
      have same : preferencesOf (.frozen tree) (arguments.withCheck true) = _ := settled
      rw [prepare_of_loaded same loaded, Arguments.withCheck, if_pos rfl, broken]

/-! ### Whole runs -/

/-- How generation ends does not depend on what has been reported before. -/
theorem exists_ending (isTree : model.IsTree) (options : Options) (base : ElementId) (root : String)
    (tree : FileTree) : ∃ outcome final, ∀ notices, ∃ more,
      generate (Workspace.ofTree.targetAt root) model options base ⟨tree, notices⟩ = (outcome, ⟨final, more⟩) := by
  cases known : (model.element? base).isSome with
  | true =>
      obtain ⟨makers, calls, -, performs⟩ := exists_arrangement isTree options known
      exact ⟨((FileTree.store root).perform calls tree).1, ((FileTree.store root).perform calls tree).2,
        fun notices => performs (FileTree.store root) ⟨tree, notices⟩⟩
  | false =>
      have missing : (model.element? base).isNone = true := by simpa using known
      refine ⟨.error (.generation ("element " ++ toString base ++ " does not exist")), tree, fun notices =>
        ⟨notices, ?_⟩⟩
      rw [generate, if_pos missing]
      rfl

theorem execute_of_unprepared (fails : prepare (.frozen tree) path arguments = .error failure)
    (notices : List Notice) :
    ∃ more, execute Workspace.ofTree path arguments ⟨tree, notices⟩ = (.error failure, ⟨tree, more⟩) := by
  obtain ⟨more, ends⟩ := reads_prepare tree path arguments notices
  refine ⟨more, ?_⟩
  rw [execute, bind_run, ends, fails]

/-- A run that has been prepared ends as generation does, which is told by what has been prepared, the
    directory and the tree alone. -/
theorem exists_execution (isTree : model.IsTree) (options : Options) (base : ElementId) (root : String)
    (tree : FileTree) :
    ∃ outcome final, (outcome = .ok () ∨ ∃ failure, outcome = .error failure ∧ failure.IsLate) ∧
      ∀ path arguments, arguments.outDirectory = root →
        prepare (.frozen tree) path arguments = .ok (model, options, base) →
        ∀ notices, ∃ more,
          execute Workspace.ofTree path arguments ⟨tree, notices⟩ = (outcome, ⟨final, more⟩) := by
  obtain ⟨generated, final, ends⟩ := exists_ending isTree options base root tree
  refine ⟨generated.mapError fun fault => ⟨"failed to generate into " ++ root, some fault.message⟩, final, ?_, ?_⟩
  · cases generated with
    | ok done => exact .inl rfl
    | error fault => exact .inr ⟨_, rfl, .generation root fault⟩
  · rintro path arguments rfl prepares notices
    obtain ⟨before, prepared⟩ := reads_prepare tree path arguments notices
    obtain ⟨after, generates⟩ := ends before
    rw [execute, bind_run, prepared, prepares]
    dsimp only
    rw [bind_run, inContext_run, generates]
    cases generated with
    | ok done => exact ⟨_, rfl⟩
    | error fault => exact ⟨after, rfl⟩

/-- How a command ends whose run ends in this way. -/
def Outcome.ofRun : Except Failure Unit → Outcome
  | .ok () => .success
  | .error failure => .failure failure

variable {line checked : List String}

theorem runCommand_of_run (asks : Invocation.ofArguments line = .run path arguments) (logged : Logged FileTree) :
    runCommand Workspace.ofTree line logged =
      (.ofRun (execute Workspace.ofTree path arguments logged).1,
        (execute Workspace.ofTree path arguments logged).2) := by
  unfold runCommand
  rw [asks]
  change (match (execute Workspace.ofTree path arguments logged).1 with
    | .ok () => pure Outcome.success
    | .error failure => pure (Outcome.failure failure) : StateM (Logged FileTree) Outcome)
      (execute Workspace.ofTree path arguments logged).2 = _
  cases (execute Workspace.ofTree path arguments logged).1 <;> rfl

/-- A command line that asks for no run ends without one, and leaves everything as it is. -/
theorem runCommand_of_no_run (asks : ∀ path arguments, Invocation.ofArguments line ≠ .run path arguments)
    (logged : Logged FileTree) : ∃ outcome, (outcome = .information ∨ outcome = .misuse) ∧
      runCommand Workspace.ofTree line logged = (outcome, logged) := by
  unfold runCommand
  cases invoked : Invocation.ofArguments line with
  | information => exact ⟨.information, .inl rfl, rfl⟩
  | misuse => exact ⟨.misuse, .inr rfl, rfl⟩
  | run path arguments => exact absurd invoked (asks path arguments)

/-- Command lines that ask for the same are the same to a run. -/
theorem runCommand_congr (same : Invocation.ofArguments checked = Invocation.ofArguments line) :
    runCommand Workspace.ofTree checked = runCommand Workspace.ofTree line := by
  rw [runCommand, runCommand, same]

section Ends

variable {logged : Logged FileTree} (asks : Invocation.ofArguments line = .run path arguments)

include asks

/-- A run that cannot be prepared leaves the tree as it is. -/
theorem runCommand_of_unprepared (fails : prepare (.frozen logged.state) path arguments = .error failure) :
    (runCommand Workspace.ofTree line logged).1 = .failure failure ∧
      (runCommand Workspace.ofTree line logged).2.state = logged.state := by
  obtain ⟨more, ends⟩ := execute_of_unprepared fails logged.notices
  rw [runCommand_of_run asks, ends]
  exact ⟨rfl, rfl⟩

/-- A run that has been prepared fails in generation, if at all. -/
theorem runCommand_of_prepared {options : Options} {base : ElementId}
    (prepares : prepare (.frozen logged.state) path arguments = .ok (model, options, base))
    (isTree : model.IsTree) :
    (runCommand Workspace.ofTree line logged).1 = .success ∨
      ∃ failure, (runCommand Workspace.ofTree line logged).1 = .failure failure ∧ failure.IsLate := by
  obtain ⟨ended, final, kind, ends⟩ := exists_execution isTree options base arguments.outDirectory logged.state
  obtain ⟨more, executes⟩ := ends path arguments rfl prepares logged.notices
  rw [runCommand_of_run asks, executes]
  rcases kind with rfl | ⟨failure, rfl, late⟩
  · exact .inl rfl
  · exact .inr ⟨failure, rfl, late⟩

end Ends

/-- A command that ends before generation leaves the tree as it is. -/
theorem state_of_early (line : List String) (logged : Logged FileTree)
    (early : (runCommand Workspace.ofTree line logged).1 = .information ∨
      (runCommand Workspace.ofTree line logged).1 = .misuse ∨
      ∃ failure, (runCommand Workspace.ofTree line logged).1 = .failure failure ∧ failure.IsEarly) :
    (runCommand Workspace.ofTree line logged).2.state = logged.state := by
  by_cases run : ∃ path arguments, Invocation.ofArguments line = .run path arguments
  · obtain ⟨path, arguments, asks⟩ := run
    rcases prepare_cases logged.state path arguments with
      ⟨failure, fails, -⟩ | ⟨-, violation, fails⟩ | ⟨model, options, base, prepares, loaded⟩
    · exact (runCommand_of_unprepared asks fails).2
    · exact (runCommand_of_unprepared asks fails).2
    · rcases runCommand_of_prepared asks prepares (isTree_of_loadModel loaded) with succeeds | ⟨failure, fails, late⟩
      · simp [succeeds] at early
      · have sooner : failure.IsEarly := by simpa [fails] using early
        exact absurd late sooner.not_isLate
  · obtain ⟨outcome, -, ends⟩ := runCommand_of_no_run (fun path arguments asks => run ⟨path, arguments, asks⟩) logged
    rw [ends]

/-- The check finds a violation. -/
theorem gate_closes (asks : AsksForCheck line checked) {logged : Logged FileTree} {violation : Violation}
    (rejects : Rejects logged.state line violation) :
    (runCommand Workspace.ofTree checked logged).1 =
        .failure ⟨"model validation failed", some violation.message⟩ ∧
      (runCommand Workspace.ofTree checked logged).2.state = logged.state := by
  rcases asks.ofArguments with ⟨path, arguments, asksPlain, -, asksChecked⟩ | ⟨none, -⟩
  · exact runCommand_of_unprepared asksChecked (prepare_of_rejects asksPlain rejects)
  · cases rejects with
    | intro asksPlain settled loaded broken => exact absurd asksPlain (none _ _)

/-- The check finds nothing. -/
theorem gate_stays_open (asks : AsksForCheck line checked) {logged : Logged FileTree}
    (accepts : ∀ violation, ¬Rejects logged.state line violation) :
    (runCommand Workspace.ofTree checked logged).1 = (runCommand Workspace.ofTree line logged).1 ∧
      (runCommand Workspace.ofTree checked logged).2.state = (runCommand Workspace.ofTree line logged).2.state ∧
      ∀ cause?, (runCommand Workspace.ofTree checked logged).1 ≠ .failure ⟨"model validation failed", cause?⟩ := by
  rcases asks.ofArguments with ⟨path, arguments, asksPlain, unasked, asksChecked⟩ | ⟨none, same⟩
  · have prepares := prepare_withCheck asksPlain unasked accepts
    rcases prepare_cases logged.state path arguments with
      ⟨failure, fails, unready⟩ | ⟨asked, -⟩ | ⟨model, options, base, prepared, loaded⟩
    · obtain ⟨outcome, still⟩ := runCommand_of_unprepared asksPlain fails
      obtain ⟨outcome', still'⟩ := runCommand_of_unprepared asksChecked (prepares.trans fails)
      refine ⟨outcome'.trans outcome.symm, still'.trans still.symm, fun cause? ends => ?_⟩
      exact unready.ne_violation cause? (Outcome.failure.inj (outcome'.symm.trans ends))
    · rw [unasked] at asked
      cases asked
    · have isTree := isTree_of_loadModel loaded
      obtain ⟨ended, final, -, ends⟩ :=
        exists_execution isTree options base arguments.outDirectory logged.state
      obtain ⟨notices, executes⟩ := ends path arguments rfl prepared logged.notices
      obtain ⟨notices', executes'⟩ :=
        ends path (arguments.withCheck true) rfl (prepares.trans prepared) logged.notices
      refine ⟨?_, ?_, fun cause? fails => ?_⟩
      · rw [runCommand_of_run asksPlain, runCommand_of_run asksChecked, executes, executes']
      · rw [runCommand_of_run asksPlain, runCommand_of_run asksChecked, executes, executes']
      · rcases runCommand_of_prepared asksChecked (prepares.trans prepared) isTree with
          succeeds | ⟨failure, failed, late⟩
        · cases succeeds.symm.trans fails
        · exact late.ne_violation cause? (Outcome.failure.inj (failed.symm.trans fails))
  · rw [runCommand_congr same]
    obtain ⟨outcome, kind, ends⟩ := runCommand_of_no_run none logged
    refine ⟨rfl, rfl, fun cause? fails => ?_⟩
    rw [ends] at fails
    rcases kind with rfl | rfl <;> cases fails

/-- The command line changes a file tree in generation only, and a check is nothing but a gate before it. A command
    that ends in anything before generation, be it because it asks for information only, makes no sense, cannot
    load the preferences or the model, finds a rule broken or does not find the element to begin with, leaves
    the tree as it is. And asking for a check besides has one of two effects. Where the preferences and the
    model can be loaded and the model breaks a rule, the command fails with the first violation, and leaves
    the tree as it is. Everywhere else it ends as without a check, and in the same tree; and then it never
    ends because a rule is broken. -/
theorem check_is_gate (logged : Logged FileTree) :
    (∀ line, ((runCommand Workspace.ofTree line logged).1 = .information ∨
        (runCommand Workspace.ofTree line logged).1 = .misuse ∨
        ∃ failure, (runCommand Workspace.ofTree line logged).1 = .failure failure ∧ failure.IsEarly) →
      (runCommand Workspace.ofTree line logged).2.state = logged.state) ∧
    ∀ line checked, AsksForCheck line checked →
      (∀ violation, Rejects logged.state line violation →
        (runCommand Workspace.ofTree checked logged).1 =
            .failure ⟨"model validation failed", some violation.message⟩ ∧
          (runCommand Workspace.ofTree checked logged).2.state = logged.state) ∧
      ((∀ violation, ¬Rejects logged.state line violation) →
        (runCommand Workspace.ofTree checked logged).1 = (runCommand Workspace.ofTree line logged).1 ∧
          (runCommand Workspace.ofTree checked logged).2.state =
            (runCommand Workspace.ofTree line logged).2.state ∧
          ∀ cause?, (runCommand Workspace.ofTree checked logged).1 ≠
            .failure ⟨"model validation failed", cause?⟩) :=
  ⟨fun line early => state_of_early line logged early,
    fun _ _ asks => ⟨fun _ rejects => gate_closes asks rejects, fun accepts => gate_stays_open asks accepts⟩⟩

/-- A place with the model of a stand in it, whose class has an attribute with a multiplicity that is none. -/
def stall : FileTree :=
  FileTree.empty.put ["m.xml"] (.file
    "<model name='m'><class name='Stand'><attribute name='size' multiplicity='some'/></class></model>".toUTF8)

/-- Without a check sources are generated for the stand; with a check nothing is. -/
theorem check_is_gate_stall :
    AsksForCheck ["-o", "out", "m.xml"] ["-o", "out", "--check", "m.xml"] ∧
      (runCommand Workspace.ofTree ["-o", "out", "m.xml"] ⟨stall, []⟩).1 = .success ∧
      (runCommand Workspace.ofTree ["-o", "out", "m.xml"] ⟨stall, []⟩).2.state.hasDirectory ["out", "m"] = true ∧
      (runCommand Workspace.ofTree ["-o", "out", "--check", "m.xml"] ⟨stall, []⟩).1 =
        .failure ⟨"model validation failed", some "invalid multiplicity 'some' on 'Stand.size'"⟩ ∧
      (runCommand Workspace.ofTree ["-o", "out", "--check", "m.xml"] ⟨stall, []⟩).2.state = stall := by
  have asks : AsksForCheck (["-o", "out"] ++ ["m.xml"]) (["-o", "out"] ++ "--check" :: ["m.xml"]) :=
    .intro (by decide) (by decide) (by decide)
  have loads : (loadModel (.frozen stall) "m.xml").toOption.map Model.validate =
      some (.error (.multiplicity "Stand.size" "some")) := by
    decide +kernel
  obtain ⟨model, loaded, broken⟩ := Option.map_eq_some_iff.mp loads
  have rejects : Rejects stall ["-o", "out", "m.xml"] (.multiplicity "Stand.size" "some") :=
    .intro rfl rfl (Document.eq_ok_of_toOption loaded) broken
  obtain ⟨closes, -⟩ := (check_is_gate ⟨stall, []⟩).2 _ _ asks
  obtain ⟨fails, still⟩ := closes _ rejects
  have generates : (runCommand Workspace.ofTree ["-o", "out", "m.xml"] ⟨stall, []⟩).1 = .success ∧
      (runCommand Workspace.ofTree ["-o", "out", "m.xml"] ⟨stall, []⟩).2.state.hasDirectory ["out", "m"] = true := by
    decide +kernel
  exact ⟨asks, generates.1, generates.2, fails, still⟩

end Command

end Blueprint

/-
Module: Blueprint.Output.Target
Purpose: Where generated directories and files go. A target takes directories, files and notices in
  whatever way its monad allows. A store is a target without effects: it answers each request from
  its state and goes over to a new state, also when it refuses the request.
Main exports: Notice, Target, Store, Logged, Target.ofStore, Store.limited
-/
import Blueprint.Output.FileError

namespace Blueprint.Output

/-- What a run reports while it goes on. -/
inductive Notice where
  | rendered (label name : String) (imports : Nat)
  | wrote (path : String)
  | skipped (label : String)
  | valid (name : String)
  | finished
deriving DecidableEq, Repr

/-- How much a notice matters. -/
inductive Level where
  | debug
  | info
  | warn
deriving DecidableEq, Repr

/-- The level of a notice. -/
def Notice.level : Notice → Level
  | rendered .. => .debug
  | wrote _ | valid _ | finished => .info
  | skipped _ => .warn

/-- The command line shows every notice but those for debugging. -/
def Notice.isShown (notice : Notice) : Bool :=
  notice.level != .debug

/-- The word for a level. -/
def Level.label : Level → String
  | debug => "DEBUG"
  | info => "INFO"
  | warn => "WARN"

/-- The wording of a notice. -/
def Notice.message : Notice → String
  | rendered label name imports =>
    "rendered " ++ label ++ " " ++ name ++ " (" ++ toString imports ++ " imports)"
  | wrote path => "wrote " ++ path
  | skipped label => "skipping unnamed " ++ label
  | valid name => "model " ++ name ++ " is valid"
  | finished => "generation finished"

/-- A notice with its level, as a line of a log. -/
def Notice.line (notice : Notice) : String :=
  notice.level.label ++ " " ++ notice.message

/-- Where generated directories and files go. -/
structure Target (m : Type → Type) where
  createDirectory : String → ExceptT OutputError m Unit
  writeFile : String → String → ExceptT OutputError m Unit
  report : Notice → m Unit

/-- A target without effects. -/
structure Store (σ : Type) where
  createDirectory : String → σ → Except OutputError Unit × σ
  writeFile : String → String → σ → Except OutputError Unit × σ

/-- A state with the notices that have been reported, latest first. -/
structure Logged (σ : Type) where
  state : σ
  notices : List Notice := []

/-- The notices in the order in which they were reported. -/
def Logged.log {σ : Type} (logged : Logged σ) : List Notice :=
  logged.notices.reverse

/-- A request to a store, as a step of a run that keeps a log. -/
def Logged.request {σ : Type} (ask : σ → Except OutputError Unit × σ) :
    ExceptT OutputError (StateM (Logged σ)) Unit :=
  fun logged =>
    match ask logged.state with
    | (outcome, state) => (outcome, { logged with state })

/-- The target that keeps a store and a log. -/
def Target.ofStore {σ : Type} (store : Store σ) : Target (StateM (Logged σ)) where
  createDirectory path := Logged.request (store.createDirectory path)
  writeFile path text := Logged.request (store.writeFile path text)
  report notice := modify fun logged => { logged with notices := notice :: logged.notices }

/-- The store that takes no more than a number of requests and then is full; the number left is part
    of its state. -/
def Store.limited {σ : Type} (store : Store σ) : Store (Nat × σ) where
  createDirectory path := limit (store.createDirectory path)
  writeFile path text := limit (store.writeFile path text)
where
  /-- A request that is only passed on while there is room. -/
  limit (ask : σ → Except OutputError Unit × σ) : Nat × σ → Except OutputError Unit × (Nat × σ)
    | (0, state) => (.error (.generation "sink is full"), (0, state))
    | (left + 1, state) =>
      match ask state with
      | (outcome, state) => (outcome, (left, state))

end Blueprint.Output

import ScenarioRunner.Backend.Basic

/-!
# Scripted executions

A backend that replays scripts instead of carrying anything out.  Scripts belong to the titles of
scenarios; a scenario without a script runs and ends with success in every step.

* `Script` says what happens to the scenarios of a title, and `ScriptBook` holds the scripts and the
  environments.
* `ScriptState` records what was submitted and which streams were opened.
* `ScriptBook.backend` is the backend.

Numbers of executions count up from one.  A stream can be opened once.
-/

namespace ScenarioRunner

/-- An element of a scripted stream: the tree of a snapshot, or what breaks the stream. -/
inductive ScriptItem where
  | report (tree : StepReport)
  | broken (reason : String)

/-- What happens to the scenarios of a title. -/
structure Script where
  /-- Why submissions are turned down, if they are. -/
  submitError : Option String := none
  items : List ScriptItem := []

/-- The scripts of some titles, and the environments. -/
structure ScriptBook where
  environments : List Environment
  scripts : List (String × Script)

/-- A scenario that was submitted. -/
structure Submission where
  id : ExecutionId
  scenario : String
  environment : String
  dataset : Option String
deriving DecidableEq, Repr

/-- An execution whose stream has not been opened. -/
structure Pending where
  id : ExecutionId
  title : String
  environment : String
  items : List ScriptItem

/-- What was submitted and opened so far. -/
structure ScriptState where
  /-- How many executions were started. -/
  issued : Nat
  pending : List Pending
  submissions : List Submission
  opened : List ExecutionId

namespace ScriptState

def initial : ScriptState :=
  ⟨0, [], [], []⟩

instance : Inhabited ScriptState := ⟨initial⟩

/-- How many executions there can be. -/
def capacity : Nat := Nat.pow 2 64 - 1

end ScriptState

namespace Pending

/-- The items of the stream of an execution. -/
def stream (p : Pending) : List Item :=
  p.items.map fun item =>
    match item with
    | .report tree => .ok (.around p.id p.title p.environment tree)
    | .broken reason => .error (.stream reason)

end Pending

namespace ScriptBook

def script? (book : ScriptBook) (title : String) : Option Script :=
  book.scripts.lookup title

/-- The items of the stream of a scenario. -/
def itemsFor (book : ScriptBook) (scenario : Scenario) : List ScriptItem :=
  match book.script? scenario.title with
  | some script => script.items
  | none => [.report (scenario.uniformReport .running), .report (scenario.uniformReport .success)]

/-- Why a scenario is turned down, if it is. -/
def submitError? (book : ScriptBook) (scenario : Scenario) : Option String :=
  (book.script? scenario.title).bind Script.submitError

/-- Starts an execution, unless the script turns it down.  Numbers count up in 64 bits; the error at
their end is never seen, since no run has that many scenarios. -/
def submit (book : ScriptBook) (scenario : Scenario) (environment : Environment)
    (dataset : Option String) (s : ScriptState) : Except Error ExecutionId × ScriptState :=
  match book.submitError? scenario with
  | some reason => (.error (.submission reason), s)
  | none =>
    if ScriptState.capacity ≤ s.issued then (.error (.internal "no execution number is left"), s)
    else
      let id := UInt64.ofNat (s.issued + 1)
      (.ok id,
        { s with
          issued := s.issued + 1
          submissions := s.submissions ++ [⟨id, scenario.title, environment.name, dataset⟩]
          pending :=
            s.pending ++ [⟨id, scenario.title, environment.name, book.itemsFor scenario⟩] })

/-- Opens the stream of an execution. -/
def notifications (id : ExecutionId) (s : ScriptState) :
    Except Error (List Item) × ScriptState :=
  let s := { s with opened := s.opened ++ [id] }
  match s.pending.find? fun p => p.id == id with
  | none => (.error (.stream ("unknown execution " ++ toString id.toNat)), s)
  | some p => (.ok p.stream, { s with pending := s.pending.filter fun q => q.id != id })

/-- The name of the only environment. -/
def defaultEnvironment (book : ScriptBook) : Except Error String :=
  match book.environments with
  | [] => .error (.environment .noneDefined)
  | [only] => .ok only.name
  | several => .error (.environment (.ambiguous (several.map Environment.name)))

/-- The first environment with a name. -/
def environment (book : ScriptBook) (name : String) : Except Error Environment :=
  match book.environments.find? fun e => e.name == name with
  | some e => .ok e
  | none => .error (.environment (.notFound name))

/-- The environment with a given name, or the only one. -/
def environmentFor (book : ScriptBook) (name : Option String) : Except Error Environment := do
  let name ←
    match name with
    | some name => .ok name
    | none => book.defaultEnvironment
  book.environment name

/-- The backend that replays the scripts. -/
def backend (book : ScriptBook) : Backend ScriptState where
  submit scenario environment _ dataset := book.submit scenario environment dataset
  notifications := notifications
  defaultEnvironment s := (book.defaultEnvironment, s)
  environment name s := (book.environment name, s)

end ScriptBook

end ScenarioRunner

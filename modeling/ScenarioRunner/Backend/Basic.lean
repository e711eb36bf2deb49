import ScenarioRunner.Error
import ScenarioRunner.Model.Environment
import ScenarioRunner.Model.Scenario

/-!
# Backends

A backend carries out scenarios and reports on them in a stream of snapshots.

* `Backend` lists what a backend can do, over a state of its own.
* `Item` is an element of a stream: a snapshot, or what broke the stream.
* `Stream.final` is the last snapshot of a stream in which nothing broke.
* `Backend.runToEnd` submits a scenario and waits for its final snapshot.
-/

namespace ScenarioRunner

/-- The number of an execution. -/
abbrev ExecutionId := UInt64

/-- An element of a stream: a snapshot, or what broke the stream. -/
abbrev Item := Except Error ExecutionReport

/-- What a backend can do; `σ` is its state. -/
structure Backend (σ : Type) where
  /-- Starts the execution of a scenario in an environment, with constants and a dataset. -/
  submit : Scenario → Environment → Table String → Option String → σ →
    Except Error ExecutionId × σ
  /-- Opens the stream of an execution and reads all its items. -/
  notifications : ExecutionId → σ → Except Error (List Item) × σ
  /-- Looks for the name of the environment of scenarios that name none. -/
  defaultEnvironment : σ → Except Error String × σ
  /-- Looks for the environment with a name.  What is found may change from one time to the next. -/
  environment : String → σ → Except Error Environment × σ

/-- The error of a stream that ends before its first snapshot. -/
def Error.noReport (id : ExecutionId) : Error :=
  .stream ("execution " ++ toString id.toNat ++ " ended without any report")

namespace Stream

/-- The last snapshot of a stream of items, where `last` is the one before them.  The first item
that is no snapshot breaks the stream. -/
def lastOf (last : Option ExecutionReport) : List Item → Except Error (Option ExecutionReport)
  | [] => .ok last
  | .ok report :: rest => lastOf (some report) rest
  | .error e :: _ => .error e

/-- The final snapshot of an execution. -/
def final (id : ExecutionId) (items : List Item) : Except Error ExecutionReport :=
  match lastOf none items with
  | .ok (some report) => .ok report
  | .ok none => .error (.noReport id)
  | .error e => .error e

end Stream

namespace Backend

variable {σ : Type}

/-- Looks for the environment with a given name, or for the default one. -/
def environmentFor (b : Backend σ) (name : Option String) (s : σ) :
    Except Error Environment × σ :=
  match name with
  | some name => b.environment name s
  | none =>
    match b.defaultEnvironment s with
    | (.error e, s) => (.error e, s)
    | (.ok name, s) => b.environment name s

/-- Submits a scenario and opens its stream: the number of the execution, and the items. -/
def start (b : Backend σ) (scenario : Scenario) (environment : Environment)
    (constants : Table String) (s : σ) : Except Error (ExecutionId × List Item) × σ :=
  match b.submit scenario environment constants scenario.defaultDataset s with
  | (.error e, s) => (.error e, s)
  | (.ok id, s) =>
    match b.notifications id s with
    | (.error e, s) => (.error e, s)
    | (.ok items, s) => (.ok (id, items), s)

/-- Submits a scenario without constants and waits for its final snapshot. -/
def runToEnd (b : Backend σ) (scenario : Scenario) (environment : Environment) (s : σ) :
    Except Error ExecutionReport × σ :=
  match b.start scenario environment Table.empty s with
  | (.error e, s) => (.error e, s)
  | (.ok (id, items), s) => (Stream.final id items, s)

end Backend

end ScenarioRunner

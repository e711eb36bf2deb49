import ScenarioRunner.Model.Status

/-!
# Reports

What a backend reports on an execution: a full snapshot each time, with a tree of step reports of
the shape of the scenario.

* `StepReport` and `ExecutionReport` are the snapshots.
* `StepReport.worst?` is the worst outcome in a tree, `ExecutionReport.verdict` that of a scenario.
* `StepReport.failures` lists the errors of failed nodes, and `ExecutionReport.failureSummary?`
  explains a failed scenario.
* `StepReport.at?` finds a node by its positions from the root down.
* `encode` and `decode` write reports as JSON and read them from documents.
-/

namespace ScenarioRunner

open Document

/-- The report on one step, with the reports on its sub-steps. -/
structure StepReport where
  name : String
  status : Status
  duration : UInt64
  startDate : Option DateTime
  errors : List String
  information : List String
  evaluatedInputs : Table Json
  stepOutputs : Table Json
  kind : Option String
  targetName : Option String
  strategy : Option String
  steps : List StepReport

namespace StepReport

def blank : StepReport where
  name := ""
  status := .notExecuted
  duration := 0
  startDate := none
  errors := []
  information := []
  evaluatedInputs := Table.empty
  stepOutputs := Table.empty
  kind := none
  targetName := none
  strategy := none
  steps := []

instance : Inhabited StepReport := ⟨blank⟩

mutual

/-- The worst outcome in the tree; statuses that are no outcome do not count. -/
def worst? : StepReport → Option Verdict
  | ⟨_, status, _, _, _, _, _, _, _, _, _, steps⟩ =>
    Verdict.worst? (worstOf? steps) (Verdict.ofStatus? status)

/-- The worst outcome in some trees. -/
def worstOf? : List StepReport → Option Verdict
  | [] => none
  | step :: steps => Verdict.worst? step.worst? (worstOf? steps)

end

mutual

/-- The lines `name: error` of the failed nodes, in the order of the tree. -/
def failures : StepReport → List String
  | ⟨name, status, _, _, errors, _, _, _, _, _, _, steps⟩ =>
    (if status = .failure then errors.map fun e => name ++ ": " ++ e else []) ++ failuresOf steps

def failuresOf : List StepReport → List String
  | [] => []
  | step :: steps => step.failures ++ failuresOf steps

end

/-- The node at some positions from the root down. -/
def at? (r : StepReport) : List Nat → Option StepReport
  | [] => some r
  | i :: path => (r.steps[i]?).bind fun s => s.at? path

/-- The report without its sub-steps. -/
def alone (r : StepReport) : StepReport :=
  { r with steps := [] }

mutual

/-- The report as JSON.  Optional fields are left out when there is nothing to write. -/
def encode : StepReport → Json
  | ⟨name, status, duration, startDate, errors, information, evaluatedInputs, stepOutputs, kind,
      targetName, strategy, steps⟩ =>
    .obj
      ([("name", .str name), ("status", .str status.name), ("duration", .int duration.toNat)] ++
        Json.optional "startDate" startDate (fun d => .str d.text) ++
        [("errors", Json.texts errors), ("information", Json.texts information),
          ("evaluatedInputs", evaluatedInputs.toJson id), ("stepOutputs", stepOutputs.toJson id)] ++
        Json.optional "type" kind .str ++ Json.optional "targetName" targetName .str ++
        Json.optional "strategy" strategy .str ++ [("steps", .arr (encodeAll steps))])

def encodeAll : List StepReport → List Json
  | [] => []
  | step :: steps => step.encode :: encodeAll steps

end

/-- The fields of a report, with a given reading of sub-steps. -/
def record (inner : Decoder StepReport) : Decode.Record StepReport StepReport where
  name := "StepReport"
  fields :=
    [Decode.defaulted "name" Decode.string fun x r => { r with name := x },
      Decode.defaulted "status" Status.decode fun x r => { r with status := x },
      Decode.defaulted "duration" Decode.word fun x r => { r with duration := x },
      Decode.defaulted "startDate" (Decode.optional Decode.date) fun x r =>
        { r with startDate := x },
      Decode.defaulted "errors" (Decode.list Decode.string) fun x r => { r with errors := x },
      Decode.defaulted "information" (Decode.list Decode.string) fun x r =>
        { r with information := x },
      Decode.defaulted "evaluatedInputs" (Decode.table Decode.json) fun x r =>
        { r with evaluatedInputs := x },
      Decode.defaulted "stepOutputs" (Decode.table Decode.json) fun x r =>
        { r with stepOutputs := x },
      Decode.defaulted "type" (Decode.optional Decode.string) fun x r => { r with kind := x },
      Decode.defaulted "targetName" (Decode.optional Decode.string) fun x r =>
        { r with targetName := x },
      Decode.defaulted "strategy" (Decode.optional Decode.string) fun x r =>
        { r with strategy := x },
      Decode.defaulted "steps" (Decode.list inner) fun x r => { r with steps := x }]
  start := blank
  finish := .ok

/-- Reads a report from a datum of at most `fuel` levels. -/
def decodeWithin : Nat → Decoder StepReport
  | 0 => fun _ _ => .error .malformed
  | fuel + 1 => (record (decodeWithin fuel)).decode

def decode : Decoder StepReport := fun dialect d =>
  decodeWithin d.depth dialect d

end StepReport

/-- A full snapshot of the execution of a scenario. -/
structure ExecutionReport where
  executionId : UInt64
  scenarioName : String
  environment : String
  status : Status
  duration : UInt64
  startDate : Option DateTime
  report : StepReport
  constants : Table String
  dataset : Option String

namespace ExecutionReport

def blank : ExecutionReport where
  executionId := 0
  scenarioName := ""
  environment := ""
  status := .notExecuted
  duration := 0
  startDate := none
  report := StepReport.blank
  constants := Table.empty
  dataset := none

instance : Inhabited ExecutionReport := ⟨blank⟩

/-- The snapshot around a tree, which gives it its status, duration and start. -/
def around (executionId : UInt64) (scenarioName environment : String) (report : StepReport) :
    ExecutionReport :=
  { blank with
    executionId, scenarioName, environment, report
    status := report.status
    duration := report.duration
    startDate := report.startDate }

/-- A scenario fails if anything in it failed, and passes otherwise only if it ended with
success. -/
def verdict (r : ExecutionReport) : Verdict :=
  match Verdict.worst? r.report.worst? (Verdict.ofStatus? r.status) with
  | some .failure => .failure
  | _ => if r.status = .success then .success else .failure

/-- The lines that explain a failed scenario: the errors of failed nodes, and the status if it is
no outcome; one general line if there is nothing else to say. -/
def failureLines (r : ExecutionReport) : List String :=
  let lines := r.report.failures ++
    (if r.status.isTerminal then [] else ["scenario ended with status " ++ r.status.name])
  if lines.isEmpty then ["scenario '" ++ r.scenarioName ++ "' failed"] else lines

/-- Why the scenario failed, if it did. -/
def failureSummary? (r : ExecutionReport) : Option String :=
  if r.verdict = .success then none else some (Text.joined "\n" r.failureLines)

def encode (r : ExecutionReport) : Json :=
  .obj
    ([("executionId", .int r.executionId.toNat), ("scenarioName", .str r.scenarioName),
        ("environment", .str r.environment), ("status", .str r.status.name),
        ("duration", .int r.duration.toNat)] ++
      Json.optional "startDate" r.startDate (fun d => .str d.text) ++
      [("report", r.report.encode), ("constants", r.constants.toJson .str)] ++
      Json.optional "dataset" r.dataset .str)

def record : Decode.Record ExecutionReport ExecutionReport where
  name := "ExecutionReport"
  fields :=
    [Decode.defaulted "executionId" Decode.word fun x r => { r with executionId := x },
      Decode.defaulted "scenarioName" Decode.string fun x r => { r with scenarioName := x },
      Decode.defaulted "environment" Decode.string fun x r => { r with environment := x },
      Decode.defaulted "status" Status.decode fun x r => { r with status := x },
      Decode.defaulted "duration" Decode.word fun x r => { r with duration := x },
      Decode.defaulted "startDate" (Decode.optional Decode.date) fun x r =>
        { r with startDate := x },
      Decode.defaulted "report" StepReport.decode fun x r => { r with report := x },
      Decode.defaulted "constants" (Decode.table Decode.string) fun x r =>
        { r with constants := x },
      Decode.defaulted "dataset" (Decode.optional Decode.string) fun x r =>
        { r with dataset := x }]
  start := blank
  finish := .ok

def decode : Decoder ExecutionReport :=
  record.decode

end ExecutionReport

end ScenarioRunner

import ScenarioRunner.Model.Report

/-!
# Scenarios

A scenario is a title with ordered givens, one when and ordered thens, each of them a tree of steps.

* `Scenario`, `Step`, `Implementation` and `Strategy` are its parts.
* `Scenario.steps` lists the top-level steps in execution order, and `Scenario.stepAt?` finds a step
  by its positions from there down.
* `Step.isRetry` holds of steps that are tried again until they succeed or time is up.
* `Scenario.uniformReport` is the report of an execution in which every node has one given status.
* `encode` and `decode` write scenarios as JSON and read them from documents.
-/

namespace ScenarioRunner

open Document

/-- The action that a step invokes. -/
structure Implementation where
  action : String
  target : Option String
  inputs : Table Json
  outputs : Table Json
  validations : Table Json
deriving Repr

namespace Implementation

/-- The invocation of an action without inputs. -/
def ofAction (action : String) : Implementation :=
  ⟨action, none, Table.empty, Table.empty, Table.empty⟩

def onTarget (i : Implementation) (target : String) : Implementation :=
  { i with target := some target }

/-- The invocation with one more input. -/
def withInput (i : Implementation) (key : String) (value : Json) : Implementation :=
  { i with inputs := i.inputs.insert key value }

def encode (i : Implementation) : Json :=
  .obj
    ([("type", .str i.action)] ++ Json.optional "target" i.target .str ++
      [("inputs", i.inputs.toJson id), ("outputs", i.outputs.toJson id),
        ("validations", i.validations.toJson id)])

/-- The fields read so far. -/
structure Draft where
  action : Option String := none
  rest : Implementation := ofAction ""

def record : Decode.Record Draft Implementation where
  name := "Implementation"
  fields :=
    [Decode.required "type" Decode.string fun x d => { d with action := some x },
      Decode.defaulted "target" (Decode.optional Decode.string) fun x d =>
        { d with rest := { d.rest with target := x } },
      Decode.defaulted "inputs" (Decode.table Decode.json) fun x d =>
        { d with rest := { d.rest with inputs := x } },
      Decode.defaulted "outputs" (Decode.table Decode.json) fun x d =>
        { d with rest := { d.rest with outputs := x } },
      Decode.defaulted "validations" (Decode.table Decode.json) fun x d =>
        { d with rest := { d.rest with validations := x } }]
  start := {}
  finish := fun d => do
    let action ← Decode.present "type" d.action
    .ok { d.rest with action }

def decode : Decoder Implementation :=
  record.decode

end Implementation

/-- How a step is carried out, other than once. -/
structure Strategy where
  kind : String
  parameters : Table String
deriving Repr

namespace Strategy

/-- The kind of strategy that tries a step again until it succeeds or time is up. -/
def retryKind : String := "retry-with-timeout"

/-- Tries a step again after a delay until it succeeds or time is up. -/
def retry (timeOut retryDelay : String) : Strategy :=
  ⟨retryKind, Table.ofList [("timeOut", timeOut), ("retryDelay", retryDelay)]⟩

def encode (s : Strategy) : Json :=
  .obj [("type", .str s.kind), ("parameters", s.parameters.toJson .str)]

/-- The fields read so far. -/
structure Draft where
  kind : Option String := none
  parameters : Table String := Table.empty

def record : Decode.Record Draft Strategy where
  name := "Strategy"
  fields :=
    [Decode.required "type" Decode.string fun x d => { d with kind := some x },
      Decode.defaulted "parameters" (Decode.table Decode.string) fun x d =>
        { d with parameters := x }]
  start := {}
  finish := fun d => do
    let kind ← Decode.present "type" d.kind
    .ok ⟨kind, d.parameters⟩

def decode : Decoder Strategy :=
  record.decode

end Strategy

/-- A node of a scenario: it invokes an action, groups sub-steps, or both. -/
structure Step where
  description : String
  implementation : Option Implementation
  strategy : Option Strategy
  subSteps : List Step

namespace Step

def action (description : String) (implementation : Implementation) : Step :=
  ⟨description, some implementation, none, []⟩

def group (description : String) (subSteps : List Step) : Step :=
  ⟨description, none, none, subSteps⟩

instance : Inhabited Step := ⟨group "" []⟩

/-- The step is tried again until it succeeds or time is up. -/
def isRetry (s : Step) : Bool :=
  match s.strategy with
  | some strategy => strategy.kind == Strategy.retryKind
  | none => false

/-- The step at some positions from this one down. -/
def at? (s : Step) : List Nat → Option Step
  | [] => some s
  | i :: path => (s.subSteps[i]?).bind fun t => t.at? path

mutual

def encode : Step → Json
  | ⟨description, implementation, strategy, subSteps⟩ =>
    .obj
      ([("description", .str description)] ++
        Json.optional "implementation" implementation Implementation.encode ++
        Json.optional "strategy" strategy Strategy.encode ++
        [("subSteps", .arr (encodeAll subSteps))])

def encodeAll : List Step → List Json
  | [] => []
  | step :: steps => step.encode :: encodeAll steps

end

/-- The fields read so far. -/
structure Draft where
  description : Option String := none
  implementation : Option Implementation := none
  strategy : Option Strategy := none
  subSteps : List Step := []

/-- The fields of a step, with a given reading of sub-steps. -/
def record (inner : Decoder Step) : Decode.Record Draft Step where
  name := "Step"
  fields :=
    [Decode.required "description" Decode.string fun x d => { d with description := some x },
      Decode.defaulted "implementation" (Decode.optional Implementation.decode) fun x d =>
        { d with implementation := x },
      Decode.defaulted "strategy" (Decode.optional Strategy.decode) fun x d =>
        { d with strategy := x },
      { Decode.defaulted "subSteps" (Decode.list inner) fun x d => { d with subSteps := x } with
        also := some "steps" }]
  start := {}
  finish := fun d => do
    let description ← Decode.present "description" d.description
    .ok ⟨description, d.implementation, d.strategy, d.subSteps⟩

/-- Reads a step from a datum of at most `fuel` levels. -/
def decodeWithin : Nat → Decoder Step
  | 0 => fun _ _ => .error .malformed
  | fuel + 1 => (record (decodeWithin fuel)).decode

def decode : Decoder Step := fun dialect d =>
  decodeWithin d.depth dialect d

mutual

/-- The report of a step in which every node has one status. -/
def uniformReport (status : Status) : Step → StepReport
  | ⟨description, implementation, strategy, subSteps⟩ =>
    { StepReport.blank with
      name := description
      status
      kind := implementation.map Implementation.action
      targetName := implementation.bind Implementation.target
      strategy := strategy.map Strategy.kind
      steps := uniformReports status subSteps }

def uniformReports (status : Status) : List Step → List StepReport
  | [] => []
  | step :: steps => step.uniformReport status :: uniformReports status steps

end

end Step

/-- A scenario: givens, one when, thens. -/
structure Scenario where
  title : String
  id : Option UInt64
  tags : List String
  defaultDataset : Option String
  givens : List Step
  action : Step
  thens : List Step

namespace Scenario

def ofStep (title : String) (action : Step) : Scenario :=
  ⟨title, none, [], none, [], action, []⟩

instance : Inhabited Scenario := ⟨ofStep "" default⟩

/-- The top-level steps in execution order. -/
def steps (s : Scenario) : List Step :=
  s.givens ++ s.action :: s.thens

def hasTag (s : Scenario) (tag : String) : Bool :=
  s.tags.contains tag

/-- The step at some positions, the first of them among the top-level steps. -/
def stepAt? (s : Scenario) : List Nat → Option Step
  | [] => none
  | i :: path => (s.steps[i]?).bind fun t => t.at? path

/-- The report of an execution in which every node has one status. -/
def uniformReport (s : Scenario) (status : Status) : StepReport :=
  { StepReport.blank with
    name := s.title
    status
    steps := Step.uniformReports status s.steps }

def encode (s : Scenario) : Json :=
  .obj
    ([("title", .str s.title)] ++ Json.optional "id" s.id (fun n => .int n.toNat) ++
      [("tags", Json.texts s.tags)] ++ Json.optional "defaultDataset" s.defaultDataset .str ++
      [("givens", .arr (Step.encodeAll s.givens)), ("when", s.action.encode),
        ("thens", .arr (Step.encodeAll s.thens))])

/-- The fields read so far. -/
structure Draft where
  title : Option String := none
  action : Option Step := none
  rest : Scenario := default

def record : Decode.Record Draft Scenario where
  name := "ScenarioDefinition"
  fields :=
    [Decode.required "title" Decode.string fun x d => { d with title := some x },
      Decode.defaulted "id" (Decode.optional Decode.word) fun x d =>
        { d with rest := { d.rest with id := x } },
      Decode.defaulted "tags" (Decode.list Decode.string) fun x d =>
        { d with rest := { d.rest with tags := x } },
      Decode.defaulted "defaultDataset" (Decode.optional Decode.string) fun x d =>
        { d with rest := { d.rest with defaultDataset := x } },
      Decode.defaulted "givens" (Decode.list Step.decode) fun x d =>
        { d with rest := { d.rest with givens := x } },
      Decode.required "when" Step.decode fun x d => { d with action := some x },
      Decode.defaulted "thens" (Decode.list Step.decode) fun x d =>
        { d with rest := { d.rest with thens := x } }]
  start := {}
  finish := fun d => do
    let title ← Decode.present "title" d.title
    let action ← Decode.present "when" d.action
    .ok { d.rest with title, action }

def decode : Decoder Scenario :=
  record.decode

end Scenario

end ScenarioRunner

import ScenarioRunner.Discovery.Node
import ScenarioRunner.Progress.Policy

/-!
# Events

What a run tells its listeners: nodes start, finish or are skipped, and final reports come in.  An
`Event` bears the node and a `Subject`, the place of the node in the tree, so that events can be told
apart even where nodes share an identifier.
-/

namespace ScenarioRunner

/-- The place of a node: classes count from the root, scenarios within their class, and steps within
their scenario, each before its descendants. -/
inductive Subject where
  | engine
  | classAt (i : Nat)
  | scenarioAt (i j : Nat)
  | stepAt (i j slot : Nat)
deriving DecidableEq, Repr

namespace Subject

/-- The subject is a class or lies below it. -/
def isWithinClass (s : Subject) (i : Nat) : Bool :=
  match s with
  | engine => false
  | classAt k => k == i
  | scenarioAt k _ => k == i
  | stepAt k _ _ => k == i

/-- The subject is a scenario or lies below it. -/
def isWithinScenario (s : Subject) (i j : Nat) : Bool :=
  match s with
  | scenarioAt k l => k == i && l == j
  | stepAt k l _ => k == i && l == j
  | _ => false

end Subject

/-- What happens to a node. -/
inductive Change where
  | started
  | finished (result : NodeResult)
  | skipped (reason : String)
  /-- The final report on a scenario. -/
  | published (report : ExecutionReport)

/-- What a run tells its listeners. -/
structure Event where
  subject : Subject
  node : Node
  change : Change

namespace Event

/-- The event says that its subject starts. -/
def isStart (e : Event) : Bool :=
  match e.change with
  | .started => true
  | _ => false

/-- The event says that its subject is finished. -/
def isFinish (e : Event) : Bool :=
  match e.change with
  | .finished _ => true
  | _ => false

end Event

end ScenarioRunner

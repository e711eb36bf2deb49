import ScenarioRunner.Discovery.NodeId
import ScenarioRunner.Model.Scenario

/-!
# Nodes

The tree that discovery finds and the engine runs: the engine, its classes, their scenarios and, if
steps are tests, the steps of a scenario.

* `Node` is a tree with a link from each node to what it stands for.
* `Node.engine`, `Node.ofClass`, `Node.ofScenario` and `Node.ofStep` build the nodes of each kind.
* `NodeKind.ofStep` decides from the shape of a step whether it is a container, a test or both.
* `Node.find?` looks for an identifier, and `Node.descendants` lists a tree.

Identifiers of steps are positions, so that they depend on the shape of a scenario only.
-/

namespace ScenarioRunner

/-- How a node is treated. -/
inductive NodeKind where
  | container
  | test
  | containerAndTest
deriving DecidableEq, Repr, Inhabited

namespace NodeKind

/-- The kind of a step: one that invokes an action is a test, and only a test without sub-steps is
no container. -/
def ofStep (invokes : Bool) (subSteps : Nat) : NodeKind :=
  if !invokes then container
  else if subSteps = 0 then test
  else containerAndTest

/-- Nodes of this kind have a result of their own. -/
def isTest (k : NodeKind) : Bool :=
  k != container

def isContainer (k : NodeKind) : Bool :=
  k != test

def name : NodeKind → String
  | container => "CONTAINER"
  | test => "TEST"
  | containerAndTest => "CONTAINER_AND_TEST"

end NodeKind

/-- Where a scenario comes from. -/
structure ScenarioSource where
  definition : Scenario
  className : String
  producer : String
  /-- The environment that its definition asks for. -/
  environment : Option String

/-- What a node stands for. -/
inductive NodeSource where
  | engine
  | class (name : String)
  | scenario (source : ScenarioSource)
  /-- The step of a scenario at some positions. -/
  | step (definition : Scenario) (path : List Nat)

instance : Inhabited NodeSource := ⟨.engine⟩

/-- The step that a node stands for. -/
def NodeSource.step? : NodeSource → Option Step
  | step definition path => definition.stepAt? path
  | _ => none

/-- A node with its descendants. -/
structure Node where
  id : NodeId
  name : String
  kind : NodeKind
  source : NodeSource
  /-- The step itself is tried again until it succeeds. -/
  retryable : Bool
  children : List Node

namespace Node

instance : Inhabited Node := ⟨⟨default, "", default, default, false, []⟩⟩

/-- The scenario that a node stands for. -/
def scenario? (n : Node) : Option ScenarioSource :=
  match n.source with
  | .scenario source => some source
  | _ => none

def isScenario (n : Node) : Bool :=
  n.scenario?.isSome

mutual

/-- The node and all nodes below it, each before its children. -/
def descendants : Node → List Node
  | ⟨id, name, kind, source, retryable, children⟩ =>
    ⟨id, name, kind, source, retryable, children⟩ :: descendantsOf children

/-- Some nodes and all nodes below them. -/
def descendantsOf : List Node → List Node
  | [] => []
  | node :: nodes => node.descendants ++ descendantsOf nodes

end

mutual

/-- The first node with an identifier.  A subtree is searched only if its identifier starts the one
that is looked for. -/
def find? (wanted : NodeId) : Node → Option Node
  | ⟨id, name, kind, source, retryable, children⟩ =>
    if id = wanted then some ⟨id, name, kind, source, retryable, children⟩
    else if wanted.startsWith id then findIn? wanted children
    else none

/-- The first node with an identifier in some trees. -/
def findIn? (wanted : NodeId) : List Node → Option Node
  | [] => none
  | node :: nodes => (node.find? wanted).or (findIn? wanted nodes)

end

/-- The number of scenarios in the tree. -/
def scenarioCount (n : Node) : Nat :=
  n.descendants.countP isScenario

/-- The node at some positions from this one down. -/
def at? (n : Node) : List Nat → Option Node
  | [] => some n
  | i :: path => (n.children[i]?).bind fun m => m.at? path

/-! ## Building nodes -/

def engine (children : List Node) : Node :=
  ⟨.engine NodeId.engineName, "Chutney", .container, .engine, false, children⟩

/-- A class; its name is the last part of the name of the class. -/
def ofClass (parent : NodeId) (className : String) (children : List Node) : Node :=
  ⟨parent.append "class" className, Text.lastSegment '.' className, .container,
    .class className, false, children⟩

mutual

/-- A step at some positions, with its sub-steps.  `rank` is the last position. -/
def ofStep (definition : Scenario) (path : List Nat) (rank : Nat) (parent : NodeId) :
    Step → Node
  | ⟨description, implementation, strategy, subSteps⟩ =>
    let id := parent.append "step" (toString rank)
    ⟨id, description, .ofStep implementation.isSome subSteps.length, .step definition path,
      Step.isRetry ⟨description, implementation, strategy, []⟩,
      ofSteps definition path 0 id subSteps⟩

/-- Steps at the positions from `rank` on, below `path`. -/
def ofSteps (definition : Scenario) (path : List Nat) (rank : Nat) (parent : NodeId) :
    List Step → List Node
  | [] => []
  | step :: steps =>
    ofStep definition (path ++ [rank]) rank parent step ::
      ofSteps definition path (rank + 1) parent steps

end

/-- A scenario under a class; its steps are nodes if steps are tests. -/
def ofScenario (parent : NodeId) (segment : String) (source : ScenarioSource)
    (stepAsTest : Bool) : Node :=
  let id := parent.append "scenario" segment
  if stepAsTest then
    ⟨id, source.definition.title, .containerAndTest, .scenario source, false,
      ofSteps source.definition [] 0 id source.definition.steps⟩
  else ⟨id, source.definition.title, .test, .scenario source, false, []⟩

end Node

end ScenarioRunner

import ScenarioRunner.Discovery.Plan
import ScenarioRunner.Discovery.Node
import ScenarioRunner.Discovery.TagFilter

/-!
# Discovery

From a catalog and a request to the tree of nodes and the issues met on the way.

* `Discovery.instances` names the scenarios of a producer within its class.
* `Discovery.ofProducer`, `Discovery.ofClass` and `Discovery.discover` find the nodes of a producer,
  of a class and of a whole request.

An issue concerns one selector, class or producer and leaves all other nodes as they are.  A class
without scenarios has no node.
-/

namespace ScenarioRunner

/-- What to discover. -/
structure DiscoveryRequest where
  selectors : List Selector
  tags : TagFilter

namespace DiscoveryRequest

def all : DiscoveryRequest :=
  ⟨[.all], .none⟩

end DiscoveryRequest

namespace Discovery

/-- Nodes with the issues met on the way to them. -/
structure Found where
  nodes : List Node
  issues : List DiscoveryIssue

namespace Found

def nothing : Found :=
  ⟨[], []⟩

/-- What is found first, and what is found next. -/
def append (a b : Found) : Found :=
  ⟨a.nodes ++ b.nodes, a.issues ++ b.issues⟩

/-- What is found one after the other. -/
def concat : List Found → Found
  | [] => nothing
  | f :: rest => f.append (concat rest)

end Found

/-- The scenarios of a list at the places from `k` on, each with its name within the class. -/
def numbered (producer : String) (k : Nat) : List Scenario → List (String × Scenario)
  | [] => []
  | s :: rest => (producer ++ "#" ++ toString k, s) :: numbered producer (k + 1) rest

/-- The scenarios of a producer, each with its name within the class: a single scenario bears the
name of its producer, and those of a list are numbered from one on. -/
def instances (p : Producer) : List (String × Scenario) :=
  match p.output with
  | .single scenario => [(p.name, scenario)]
  | .many scenarios => numbered p.name 1 scenarios
  | .unsupported _ => []

/-- What a node for a scenario of a producer of a class stands for. -/
def sourceOf (c : ClassSource) (p : Producer) (s : Scenario) : ScenarioSource :=
  ⟨s, c.name, p.name, p.environment⟩

/-- The issue of a producer that yields no scenarios. -/
def outputIssues (selector : String) (c : ClassSource) (p : Producer) : List DiscoveryIssue :=
  match p.output with
  | .unsupported description =>
    [⟨selector, c.name ++ "#" ++ p.name,
      "producer returned " ++ description ++ " instead of a scenario or a list of scenarios"⟩]
  | _ => []

def classId (name : String) : NodeId :=
  (NodeId.engine NodeId.engineName).append "class" name

/-- What a producer of a class yields. -/
def ofProducer (tags : TagFilter) (stepAsTest : Bool) (selector : String) (c : ClassSource)
    (p : Producer) : Found :=
  let kept := (instances p).filter fun (_, s) => tags.accepts s
  ⟨kept.map fun (segment, s) => Node.ofScenario (classId c.name) segment (sourceOf c p s) stepAsTest,
    outputIssues selector c p⟩

/-- What a class holds for a selection of its producers. -/
def ofClass (tags : TagFilter) (stepAsTest : Bool) (planned : PlannedClass) (c : ClassSource) :
    Found :=
  match c.loadError with
  | some reason => ⟨[], [⟨planned.selector, c.name, reason⟩]⟩
  | none =>
    let chosen := c.producers.filter fun p => planned.selection.includes p.name
    let found := Found.concat (chosen.map (ofProducer tags stepAsTest planned.selector c))
    if found.nodes.isEmpty then ⟨[], found.issues⟩
    else ⟨[Node.ofClass (.engine NodeId.engineName) c.name found.nodes], found.issues⟩

def ofPlanned (catalog : Catalog) (tags : TagFilter) (stepAsTest : Bool) (planned : PlannedClass) :
    Found :=
  match catalog.class? planned.name with
  | none => .nothing
  | some c => ofClass tags stepAsTest planned c

/-- A tree with the issues met on the way to it. -/
structure Outcome where
  root : Node
  issues : List DiscoveryIssue

/-- The tree of a request, and its issues: first those of selectors that name nothing. -/
def discover (catalog : Catalog) (stepAsTest : Bool) (request : DiscoveryRequest) : Outcome :=
  let found := Found.concat
    ((Plan.ofSelectors catalog request.selectors).map (ofPlanned catalog request.tags stepAsTest))
  ⟨Node.engine found.nodes, Plan.issues catalog request.selectors ++ found.issues⟩

end Discovery

end ScenarioRunner

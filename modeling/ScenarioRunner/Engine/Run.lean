import ScenarioRunner.Engine.ClassRun

/-!
# Running a tree

The state of a run: the actions that the engine has left, the classes, and what lies outside them.

* `RunRequest` is the tree to run with the nodes to skip, and `Run.ofRequest` its run before the
  first step.
* `Choice` says which task makes the next step or is cut off, and `Run.step?` makes that step.
* `Run.Reaches` relates a run to those that some choices lead to.

Nothing is assumed of the order of choices, so that what holds of every run that is reached holds
whichever way tasks are scheduled.
-/

namespace ScenarioRunner

/-- A tree to run. -/
structure RunRequest where
  root : Node
  /-- Classes and scenarios that are left out. -/
  skip : List NodeId

/-- What the engine itself does. -/
inductive EngineAction where
  | emit (event : Event)
  /-- Starts the class at a place among those that run. -/
  | start (k : Nat)
  | awaitAll
  | close

/-- The state of a run. -/
structure Run (σ : Type) where
  root : Node
  actions : List EngineAction
  classes : List ClassRun
  outside : Outside σ

/-- A task. -/
inductive Actor where
  | engine
  /-- The class at a place among those that run. -/
  | classTask (k : Nat)
  /-- The scenario at a place among those of a class that run. -/
  | scenarioTask (k l : Nat)
deriving DecidableEq, Repr

/-- What happens next. -/
inductive Choice where
  | advance (actor : Actor)
  /-- A task is cut off for a reason. -/
  | crash (actor : Actor) (reason : String)
deriving DecidableEq, Repr

namespace Run

variable {σ : Type}

/-- The classes of a tree that run, and what the engine does with each class: it is skipped, or
started.  The next class is at place `group` in the tree, and at place `k` among those that run. -/
def ofChildren (options : RunOptions) (isSkipped : NodeId → Bool) (group k : Nat) :
    List Node → List ClassRun × List EngineAction
  | [] => ([], [])
  | node :: nodes =>
    if isSkipped node.id then
      let (classes, actions) := ofChildren options isSkipped (group + 1) k nodes
      (classes, .emit ⟨.classAt group, node, .skipped skipReason⟩ :: actions)
    else
      let (classes, actions) := ofChildren options isSkipped (group + 1) (k + 1) nodes
      (ClassRun.ofNode options isSkipped group node :: classes, .start k :: actions)

def ofRequest (options : RunOptions) (request : RunRequest) (s : σ) : Run σ :=
  let (classes, actions) := ofChildren options request.skip.contains 0 0 request.root.children
  { root := request.root
    actions := [.emit ⟨.engine, request.root, .started⟩] ++ actions ++ [.awaitAll, .close]
    classes
    outside := ⟨s, [], []⟩ }

/-- The worst verdict of the classes; a run without classes passes. -/
def verdict (r : Run σ) : Verdict :=
  r.classes.foldl (fun v c => v.worse c.outcome) .success

/-- The engine makes an action, which leaves some actions to do. -/
def act (r : Run σ) (rest : List EngineAction) : EngineAction → Option (Run σ)
  | .emit e => some { r with actions := rest, outside := r.outside.emit e }
  | .start k => some { r with actions := rest, classes := r.classes.modify k ClassRun.begin }
  | .awaitAll => if r.classes.all ClassRun.isOver then some { r with actions := rest } else none
  | .close =>
    some
      { r with
        actions := rest
        outside := r.outside.emit ⟨.engine, r.root, .finished (.ofVerdict r.verdict)⟩ }

/-- The run with a class at another point. -/
def setClass (r : Run σ) (k : Nat) (c : ClassRun) : Run σ :=
  { r with classes := r.classes.set k c }

/-- The next step of a task, unless it has to wait or is over. -/
def advance? (b : Backend σ) (options : RunOptions) (r : Run σ) : Actor → Option (Run σ)
  | .engine =>
    match r.actions with
    | action :: rest => r.act rest action
    | [] => none
  | .classTask k => do
    let c ← r.classes[k]?
    let (c, outside) ← c.advance? b r.outside
    some { r.setClass k c with outside }
  | .scenarioTask k l => do
    let c ← r.classes[k]?
    let (c, outside) ← c.advanceScenario? b options l r.outside
    some { r.setClass k c with outside }

def crash? (r : Run σ) (reason : String) : Actor → Option (Run σ)
  | .engine => if r.actions.isEmpty then none else some { r with actions := [] }
  | .classTask k => do
    let c ← r.classes[k]?
    let c ← c.crash?
    some (r.setClass k c)
  | .scenarioTask k l => do
    let c ← r.classes[k]?
    let c ← c.crashScenario? l reason
    some (r.setClass k c)

def step? (b : Backend σ) (options : RunOptions) (r : Run σ) : Choice → Option (Run σ)
  | .advance actor => r.advance? b options actor
  | .crash actor reason => r.crash? reason actor

/-- Some choices lead from a run to another one. -/
inductive Reaches (b : Backend σ) (options : RunOptions) : Run σ → List Choice → Run σ → Prop where
  | refl (r : Run σ) : Reaches b options r [] r
  | step {r r' r'' : Run σ} {choice : Choice} {choices : List Choice}
    (first : r.step? b options choice = some r') (rest : Reaches b options r' choices r'') :
    Reaches b options r (choice :: choices) r''

/-- The event that a task tells next. -/
def nextEvent? (r : Run σ) : Actor → Option Event
  | .engine =>
    match r.actions with
    | .emit e :: _ => some e
    | .close :: _ => some ⟨.engine, r.root, .finished (.ofVerdict r.verdict)⟩
    | _ => none
  | .classTask k => (r.classes[k]?).bind ClassRun.nextEvent?
  | .scenarioTask k l => (r.classes[k]?).bind fun c => c.nextScenarioEvent? l

end Run

end ScenarioRunner

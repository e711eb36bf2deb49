import ScenarioRunner.Engine.ClassScope
import ScenarioRunner.Engine.Job

/-!
# Running a class

The state of a class that runs: the actions that its own task has left, and one task for each
scenario whose environment has been found so far.  Each step of a task is one action, so that the
steps of different tasks can be mixed in any order.

* `Outside` is what a step changes outside the class: the backend, the events and the reports.
* `ClassRun.ofNode` is a class that has not started.
* `ClassRun.advance?` makes the next step of the task of the class, and `ClassRun.advanceScenario?`
  that of a scenario; neither makes one if it has to wait.
* `ClassRun.crash?` and `ClassRun.crashScenario?` cut a task off.

A scenario holds a permit of the gate from before its start until after its end, and the class is
finished when every scenario is off the countdown.  The environments of scenarios are looked for
first, one by one, so that a failure to find one never comes between the events of a scenario that
runs.  The gate is never closed, so that a scenario which waits for a permit gets one in the end or
waits on, and never fails for want of it.
-/

namespace ScenarioRunner

/-- What steps change outside the class that makes them. -/
structure Outside (σ : Type) where
  backend : σ
  /-- The events so far, the first one in front. -/
  events : List Event
  /-- The reports to write so far, the first one in front. -/
  written : List ExecutionReport

namespace Outside

variable {σ : Type}

def emit (o : Outside σ) (e : Event) : Outside σ :=
  { o with events := o.events ++ [e] }

def write (o : Outside σ) (report : ExecutionReport) : Outside σ :=
  { o with written := o.written ++ [report] }

end Outside

/-- How far the task of a scenario is. -/
inductive Phase where
  | waiting
  /-- The scenario has a permit. -/
  | granted
  | submitting
  | opening (id : ExecutionId)
  | acting (actions : List JobAction)
  /-- The task was cut off, and the end of the scenario may be missing. -/
  | rescuing (reason : String)
  /-- The end of a scenario that was cut off is to be told. -/
  | telling (reason : String)
  /-- The permit is to be given back. -/
  | releasing
  /-- The scenario is to be taken off the countdown. -/
  | counting
  | done

namespace Phase

/-- The task goes through its own actions, so that it can be cut off. -/
def isExposed : Phase → Bool
  | submitting | opening _ | acting (_ :: _) | telling _ => true
  | _ => false

def holdsPermit : Phase → Bool
  | waiting | counting | done => false
  | _ => true

/-- The scenario is on the countdown. -/
def isCounted : Phase → Bool
  | done => false
  | _ => true

/-- A scenario that waits is given a permit. -/
def grant : Phase → Phase
  | waiting => granted
  | phase => phase

/-- A scenario with a permit starts. -/
def start : Phase → Phase
  | granted => submitting
  | phase => phase

end Phase

/-- A scenario with its task. -/
structure ScenarioRun where
  job : Job
  phase : Phase

/-- A scenario of a class that is not skipped, before its environment is known. -/
structure Candidate where
  place : Nat
  node : Node
  source : ScenarioSource

/-- What the task of a class does. -/
inductive ClassAction where
  | emit (event : Event)
  /-- Makes the gate, which has a largest capacity. -/
  | openGate
  /-- Looks for the name of the default environment, for a scenario that names none. -/
  | askDefault (c : Candidate)
  /-- Looks for the environment of a scenario by its name. -/
  | lookUp (c : Candidate) (name : String)
  /-- Starts the scenarios whose environments were found. -/
  | launch
  | record (verdict : Verdict)
  | countDown
  /-- Waits for a permit for the scenario at a place among the tasks. -/
  | grant (k : Nat)
  | enter (id : NodeId)
  | start (k : Nat)
  | awaitAll
  | close

/-- How far the task of a class is. -/
inductive ClassPhase where
  | waiting
  | running (actions : List ClassAction)
  | finished (verdict : Verdict)
  | crashed

/-- A class that runs. -/
structure ClassRun where
  /-- The place of the class. -/
  place : Nat
  node : Node
  scope : ClassScope
  phase : ClassPhase
  /-- What the task does when it starts. -/
  program : List ClassAction
  scenarios : List ScenarioRun

/-! ## What a class does -/

/-- The reason for which nodes are skipped. -/
def skipReason : String := "excluded from execution"

namespace Candidate

/-- The scenarios among the children of a class, with their places from `place` on. -/
def ofChildren (place : Nat) : List Node → List Candidate
  | [] => []
  | node :: nodes =>
    match node.scenario? with
    | some source => ⟨place, node, source⟩ :: ofChildren (place + 1) nodes
    | none => ofChildren (place + 1) nodes

def event (c : Candidate) (group : Nat) (change : Change) : Event :=
  ⟨.scenarioAt group c.place, c.node, change⟩

/-- What finds the environment of the scenario: the one it names, or the default one. -/
def resolve (c : Candidate) : ClassAction :=
  match c.source.environment with
  | some name => .lookUp c name
  | none => .askDefault c

/-- The scenario in its environment. -/
def job (c : Candidate) (group : Nat) (environment : Environment) : Job :=
  ⟨group, c.place, c.node, c.source, environment⟩

end Candidate

namespace ClassRun

/-- What becomes of a scenario whose environment was not found. -/
def failActions (group : Nat) (c : Candidate) (e : Error) : List ClassAction :=
  [.emit (c.event group .started), .record .failure,
    .emit (c.event group (.finished (.failure e.message))), .countDown]

/-- The actions that start scenarios, the first of them at place `k` among the tasks. -/
def startAll (k : Nat) : List Job → List ClassAction
  | [] => []
  | job :: rest =>
    [.grant k, .emit (job.event .started), .enter job.node.id, .start k] ++ startAll (k + 1) rest

/-- The actions of a class: it starts, its scenarios are skipped or their environments looked for, and
it is finished when all of them are done. -/
def actions (group : Nat) (node : Node) (skipped runnable : List Candidate) : List ClassAction :=
  [.emit ⟨.classAt group, node, .started⟩] ++
    skipped.map (fun c => .emit (c.event group (.skipped skipReason))) ++ [.openGate] ++
    runnable.map Candidate.resolve ++ [.launch, .awaitAll, .close]

def ofNode (options : RunOptions) (isSkipped : NodeId → Bool) (group : Nat) (node : Node) :
    ClassRun :=
  let candidates := Candidate.ofChildren 0 node.children
  let skipped := candidates.filter fun c => isSkipped c.node.id
  let runnable := candidates.filter fun c => !isSkipped c.node.id
  { place := group
    node
    scope := .ofClass options.concurrency runnable.length
    phase := .waiting
    program := actions group node skipped runnable
    scenarios := [] }

/-! ## Steps -/

variable {σ : Type}

/-- The class with a change to the phase of a scenario. -/
def changePhase (c : ClassRun) (k : Nat) (f : Phase → Phase) : ClassRun :=
  { c with scenarios := c.scenarios.modify k fun s => { s with phase := f s.phase } }

/-- The class with a scenario in another phase. -/
def setPhase (c : ClassRun) (k : Nat) (phase : Phase) : ClassRun :=
  c.changePhase k fun _ => phase

/-- The phase of the task of a scenario. -/
def phaseAt (c : ClassRun) (k : Nat) : Option Phase :=
  (c.scenarios[k]?).map ScenarioRun.phase

def begin (c : ClassRun) : ClassRun :=
  match c.phase with
  | .waiting => { c with phase := .running c.program }
  | _ => c

/-- The environment of a scenario is found, or it is not. -/
def settle (c : ClassRun) (rest : List ClassAction) (candidate : Candidate) :
    Except Error Environment → ClassRun
  | .ok environment =>
    { c with
      phase := .running rest
      scenarios := c.scenarios ++ [⟨candidate.job c.place environment, .waiting⟩] }
  | .error e => { c with phase := .running (failActions c.place candidate e ++ rest) }

/-- The name of the default environment is looked for. -/
def askDefault (b : Backend σ) (c : ClassRun) (rest : List ClassAction) (candidate : Candidate)
    (o : Outside σ) : ClassRun × Outside σ :=
  match b.defaultEnvironment o.backend with
  | (.ok name, s) =>
    ({ c with phase := .running (.lookUp candidate name :: rest) }, { o with backend := s })
  | (.error e, s) => (c.settle rest candidate (.error e), { o with backend := s })

/-- An environment is looked for by its name. -/
def lookUp (b : Backend σ) (c : ClassRun) (rest : List ClassAction) (candidate : Candidate)
    (name : String) (o : Outside σ) : ClassRun × Outside σ :=
  let found := b.environment name o.backend
  (c.settle rest candidate found.1, { o with backend := found.2 })

/-- The class makes an action of its own, which leaves some actions to do. -/
def act (b : Backend σ) (c : ClassRun) (rest : List ClassAction) (o : Outside σ) :
    ClassAction → Option (ClassRun × Outside σ)
  | .emit e => some ({ c with phase := .running rest }, o.emit e)
  | .openGate =>
    if c.scope.capacity ≤ ClassScope.limit then some ({ c with phase := .running rest }, o)
    else some ({ c with phase := .crashed }, o)
  | .askDefault candidate => some (c.askDefault b rest candidate o)
  | .lookUp candidate name => some (c.lookUp b rest candidate name o)
  | .launch =>
    some
      ({ c with phase := .running (startAll 0 (c.scenarios.map ScenarioRun.job) ++ rest) }, o)
  | .record v => some ({ c with phase := .running rest, scope := c.scope.record v }, o)
  | .countDown => some ({ c with phase := .running rest, scope := c.scope.countDown }, o)
  | .grant k =>
    c.scope.acquire?.map fun scope =>
      ({ c with phase := .running rest, scope }.changePhase k .grant, o)
  | .enter id => some ({ c with phase := .running rest, scope := c.scope.enter id }, o)
  | .start k => some ({ c with phase := .running rest }.changePhase k .start, o)
  | .awaitAll => if c.scope.isDone then some ({ c with phase := .running rest }, o) else none
  | .close =>
    let verdict := c.scope.verdict
    some
      ({ c with phase := .finished verdict },
        o.emit ⟨.classAt c.place, c.node, .finished (.ofVerdict verdict)⟩)

/-- The next step of the task of the class. -/
def advance? (b : Backend σ) (c : ClassRun) (o : Outside σ) : Option (ClassRun × Outside σ) :=
  match c.phase with
  | .running (action :: rest) => c.act b rest o action
  | _ => none

/-- A scenario makes an action of its own, which leaves some actions to do. -/
def actScenario (c : ClassRun) (k : Nat) (job : Job) (rest : List JobAction) (o : Outside σ) :
    JobAction → ClassRun × Outside σ
  | .emit e => (c.setPhase k (.acting rest), o.emit e)
  | .write report => (c.setPhase k (.acting rest), o.write report)
  | .leave verdict =>
    ({ c with scope := (c.scope.leave job.node.id verdict).2 }.setPhase k (.acting rest), o)

/-- The scenario was cut off for a reason. -/
def lost (reason : String) : NodeResult :=
  .failure ("scenario task failed: " ++ reason)

def submitScenario (b : Backend σ) (options : RunOptions) (c : ClassRun) (k : Nat) (job : Job)
    (o : Outside σ) : ClassRun × Outside σ :=
  match b.submit job.source.definition job.environment options.constants
      job.source.definition.defaultDataset o.backend with
  | (.error e, s) =>
    (c.setPhase k (.acting (job.actions options (.error e))), { o with backend := s })
  | (.ok id, s) => (c.setPhase k (.opening id), { o with backend := s })

/-- The stream of a scenario is opened. -/
def openScenario (b : Backend σ) (options : RunOptions) (c : ClassRun) (k : Nat) (job : Job)
    (id : ExecutionId) (o : Outside σ) : ClassRun × Outside σ :=
  match b.notifications id o.backend with
  | (.error e, s) =>
    (c.setPhase k (.acting (job.actions options (.error e))), { o with backend := s })
  | (.ok items, s) =>
    (c.setPhase k (.acting (job.actions options (.ok (id, items)))), { o with backend := s })

/-- A scenario that was cut off leaves, unless it has left before. -/
def rescueScenario (c : ClassRun) (k : Nat) (job : Job) (reason : String) : ClassRun :=
  let left := c.scope.leave job.node.id .failure
  { c with scope := left.2 }.setPhase k (if left.1 then .telling reason else .releasing)

/-- The next step of the task of a scenario. -/
def advanceScenario? (b : Backend σ) (options : RunOptions) (c : ClassRun) (k : Nat)
    (o : Outside σ) : Option (ClassRun × Outside σ) :=
  match c.scenarios[k]? with
  | none => none
  | some ⟨job, phase⟩ =>
    match phase with
    | .waiting | .granted | .done => none
    | .submitting => some (c.submitScenario b options k job o)
    | .opening id => some (c.openScenario b options k job id o)
    | .acting (action :: rest) => some (c.actScenario k job rest o action)
    | .acting [] => some (c.setPhase k .releasing, o)
    | .rescuing reason => some (c.rescueScenario k job reason, o)
    | .telling reason =>
      some (c.setPhase k .releasing, o.emit (job.event (.finished (lost reason))))
    | .releasing => some ({ c with scope := c.scope.release }.setPhase k .counting, o)
    | .counting => some ({ c with scope := c.scope.countDown }.setPhase k .done, o)

/-- The task of the class is cut off. -/
def crash? (c : ClassRun) : Option ClassRun :=
  match c.phase with
  | .running (_ :: _) => some { c with phase := .crashed }
  | _ => none

/-- The task of a scenario is cut off.  A task that was cut off before only gives its permit
back. -/
def crashScenario? (c : ClassRun) (k : Nat) (reason : String) : Option ClassRun :=
  match c.phaseAt k with
  | some (.telling _) => some (c.setPhase k .releasing)
  | some phase => if phase.isExposed then some (c.setPhase k (.rescuing reason)) else none
  | none => none

def isOver (c : ClassRun) : Bool :=
  match c.phase with
  | .finished _ | .crashed => true
  | _ => false

/-- The verdict of a class that is over; a class that was cut off fails. -/
def outcome (c : ClassRun) : Verdict :=
  match c.phase with
  | .finished verdict => verdict
  | _ => .failure

/-- The event that the task of the class tells next. -/
def nextEvent? (c : ClassRun) : Option Event :=
  match c.phase with
  | .running (.emit e :: _) => some e
  | .running (.close :: _) =>
    some ⟨.classAt c.place, c.node, .finished (.ofVerdict c.scope.verdict)⟩
  | _ => none

/-- The event that the task of a scenario tells next. -/
def nextScenarioEvent? (c : ClassRun) (k : Nat) : Option Event :=
  match c.scenarios[k]? with
  | some ⟨_, .acting (.emit e :: _)⟩ => some e
  | some ⟨job, .telling reason⟩ => some (job.event (.finished (lost reason)))
  | _ => none

end ClassRun

end ScenarioRunner

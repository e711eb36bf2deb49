import ScenarioRunner.Engine.Event
import ScenarioRunner.Engine.Follow
import ScenarioRunner.Engine.Options

/-!
# Scenarios as jobs

A job is a scenario of a class in the environment that it runs in.  What its task does once the
stream is open is a list of actions, which `Job.actions` gives: events of steps, the final report,
and the end of the scenario.
-/

namespace ScenarioRunner

/-- A scenario that is to run. -/
structure Job where
  /-- The place of its class. -/
  group : Nat
  /-- Its place within the class. -/
  place : Nat
  node : Node
  source : ScenarioSource
  environment : Environment

/-- What the task of a scenario does on its own. -/
inductive JobAction where
  | emit (event : Event)
  | write (report : ExecutionReport)
  /-- The scenario is done. -/
  | leave (verdict : Verdict)

/-- What a move does to the node of its step. -/
def Move.change : Move → Change
  | started _ => .started
  | finished _ result => .finished result
  | skipped _ reason => .skipped reason

namespace Job

def subject (job : Job) : Subject :=
  .scenarioAt job.group job.place

/-- What happens to the scenario itself. -/
def event (job : Job) (change : Change) : Event :=
  ⟨job.subject, job.node, change⟩

def stepEvent? (job : Job) (m : Move) : Option Event :=
  ((Tracker.ofScenario job.node).node? m.slot).map fun node =>
    ⟨.stepAt job.group job.place m.slot, node, m.change⟩

def emitAll (job : Job) (moves : List Move) : List JobAction :=
  (moves.filterMap job.stepEvent?).map .emit

/-- The final report is written, if reports are, and published. -/
def publish (job : Job) (options : RunOptions) (f : Followed) : List JobAction :=
  match f.outcome with
  | .error _ => []
  | .ok report =>
    (if options.folder.isSome then [.write report] else []) ++
      [.emit (job.event (.published report))]

def conclude (job : Job) (result : NodeResult) : List JobAction :=
  [.leave result.verdict, .emit (job.event (.finished result))]

/-- What is left to do when a stream has been followed. -/
def wrapUp (job : Job) (options : RunOptions) (f : Followed) : List JobAction :=
  job.publish options f ++ job.emitAll f.closing ++ job.conclude f.result

/-- What a stream has done to the scenario. -/
def followed (job : Job) (opened : Except Error (ExecutionId × List Item)) : Followed :=
  let tracker := Tracker.ofScenario job.node
  match opened with
  | .error e => .unopened tracker e
  | .ok (id, items) => tracker.follow id items

/-- What the task does once the stream is open, or once it is known that there is none. -/
def actions (job : Job) (options : RunOptions)
    (opened : Except Error (ExecutionId × List Item)) : List JobAction :=
  let f := job.followed opened
  job.emitAll f.moves ++ job.wrapUp options f

end Job

end ScenarioRunner

import ScenarioRunner.Backend.Basic
import ScenarioRunner.Progress.Tracker

/-!
# Following a stream

What a stream of items does to the steps of a scenario.  `Tracker.follow` observes the snapshots in
their order, up to the end of the stream or to what breaks it, and `Followed.result` is the result
of the scenario.
-/

namespace ScenarioRunner

/-- What a stream has done to the steps of a scenario. -/
structure Followed where
  moves : List Move
  tracker : Tracker
  /-- The last snapshot, or what broke the stream. -/
  outcome : Except Error ExecutionReport

namespace Tracker

/-- Observes the items of the stream of an execution. -/
def follow (id : ExecutionId) (t : Tracker) : List Item → Followed
  | [] =>
    ⟨[], t,
      match t.last with
      | some report => .ok report
      | none => .error (.noReport id)⟩
  | .error e :: _ => ⟨[], t, .error e⟩
  | .ok report :: rest =>
    let (moves, t) := t.observe report
    let followed := follow id t rest
    { followed with moves := moves ++ followed.moves }

end Tracker

namespace Followed

def unopened (t : Tracker) (e : Error) : Followed :=
  ⟨[], t, .error e⟩

def failure? (f : Followed) : Option String :=
  match f.outcome with
  | .ok _ => none
  | .error e => some e.message

/-- The result of the scenario: that of its final report, or the failure that broke the run. -/
def result (f : Followed) : NodeResult :=
  match f.outcome with
  | .ok report => ⟨report.verdict, report.failureSummary?⟩
  | .error e => .failure e.message

/-- The moves that close what is open at the end. -/
def closing (f : Followed) : List Move :=
  (f.tracker.finish f.failure?).1

end Followed

end ScenarioRunner

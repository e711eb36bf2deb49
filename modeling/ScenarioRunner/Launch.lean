import ScenarioRunner.Backend.Basic
import ScenarioRunner.Report.Archive
import ScenarioRunner.Report.Console

/-!
# Launching scenarios

Scenarios are run one after the other on one environment, and each is expected to end with the same
status.

* `LaunchOutcome` is what became of a scenario, and `LaunchOutcome.lines` what is shown of it.
* `Launch.run` runs some scenarios: nothing that happens to one of them stops the others.
* `LaunchSummary.ensureExpected` fails unless all of them ended as expected.
-/

namespace ScenarioRunner

/-- What became of a scenario. -/
structure LaunchOutcome where
  scenario : String
  /-- The final report, or what broke the run. -/
  result : Except Error ExecutionReport
  /-- The status that was expected. -/
  expected : Status
  /-- The path of the report, if it was written. -/
  path : Option String

namespace LaunchOutcome

/-- The final status; a run that broke has failed. -/
def status (o : LaunchOutcome) : Status :=
  match o.result with
  | .ok report => report.status
  | .error _ => .failure

/-- The scenario ended with the expected status.  A run that broke never does. -/
def matched (o : LaunchOutcome) : Bool :=
  match o.result with
  | .ok report => report.status == o.expected
  | .error _ => false

def errorLine (o : LaunchOutcome) (e : Error) : Line :=
  [.styled (.ofColour .red) "✗", .plain " ", .styled .strong o.scenario, .plain " ",
    .styled (.ofColour .red) e.message]

/-- The line of a scenario that ended with another status. -/
def mismatchLine (o : LaunchOutcome) : Line :=
  [.plain "  ", .styled (.boldIn .yellow) "!",
    .plain (" expected " ++ o.expected.name ++ ", got " ++ o.status.name)]

/-- What is shown of a scenario: its report in colours, and the statuses if they differ. -/
def lines (o : LaunchOutcome) : List Line :=
  match o.result with
  | .ok report => report.lines true ++ (if o.matched then [] else [o.mismatchLine])
  | .error e => [o.errorLine e]

end LaunchOutcome

/-- What became of some scenarios. -/
structure LaunchSummary where
  /-- The name of the environment. -/
  environment : String
  expected : Status
  outcomes : List LaunchOutcome

namespace LaunchSummary

/-- How many scenarios did not end with the expected status. -/
def mismatched (s : LaunchSummary) : Nat :=
  s.outcomes.countP fun o => !o.matched

/-- Fails unless every scenario ended with the expected status. -/
def ensureExpected (s : LaunchSummary) : Except Error Unit :=
  if s.mismatched = 0 then .ok ()
  else .error (.unexpectedStatus s.mismatched s.outcomes.length)

/-- What `ensureExpected` fails with, if it does. -/
def failure? (s : LaunchSummary) : Option Error :=
  match s.ensureExpected with
  | .ok _ => none
  | .error e => some e

/-- The line that sums up: how many scenarios ended as expected. -/
def line (s : LaunchSummary) : Line :=
  [.plain
    (toString (s.outcomes.length - s.mismatched) ++ " of " ++ toString s.outcomes.length ++
      " scenario(s) ended " ++ s.expected.name ++ " on " ++ s.environment)]

end LaunchSummary

namespace Launch

variable {σ : Type}

/-- Runs one scenario and writes its report. -/
def runOne (b : Backend σ) (expected : Status) (environment : Environment) (scenario : Scenario)
    (s : σ) (archive : Archive) : LaunchOutcome × σ × Archive :=
  match b.runToEnd scenario environment s with
  | (.ok report, s) =>
    let (path, archive) := archive.store report
    (⟨scenario.title, .ok report, expected, path⟩, s, archive)
  | (.error e, s) => (⟨scenario.title, .error e, expected, none⟩, s, archive)

/-- Runs scenarios one after the other. -/
def runAll (b : Backend σ) (expected : Status) (environment : Environment) :
    List Scenario → σ → Archive → List LaunchOutcome × σ × Archive
  | [], s, archive => ([], s, archive)
  | scenario :: rest, s, archive =>
    let (outcome, s, archive) := runOne b expected environment scenario s archive
    let (outcomes, s, archive) := runAll b expected environment rest s archive
    (outcome :: outcomes, s, archive)

/-- Runs scenarios on the environment with a given name, or on the default one.  It is looked for
once, before the first scenario. -/
def run (b : Backend σ) (expected : Status) (environment : Option String)
    (scenarios : List Scenario) (s : σ) (archive : Archive) :
    Except Error LaunchSummary × σ × Archive :=
  match b.environmentFor environment s with
  | (.error e, s) => (.error e, s, archive)
  | (.ok environment, s) =>
    let (outcomes, s, archive) := runAll b expected environment scenarios s archive
    (.ok ⟨environment.name, expected, outcomes⟩, s, archive)

end Launch

end ScenarioRunner

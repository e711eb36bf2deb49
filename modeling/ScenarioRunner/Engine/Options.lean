import ScenarioRunner.Report.Folder
import ScenarioRunner.Settings

/-!
# Options of a run

`RunOptions` says how scenarios are run.  `RunOptions.ofSettings` takes the options from the settings
of a session.
-/

namespace ScenarioRunner

/-- How scenarios are run. -/
structure RunOptions where
  /-- Steps are nodes of the tree. -/
  stepAsTest : Bool := true
  /-- How many scenarios of a class run at once. -/
  concurrency : Nat := 1
  /-- Where final reports are written, if they are. -/
  folder : Option ReportFolder := none
  /-- Constants that go with every submission. -/
  constants : Table String := Table.empty

/-- The options in the settings of a session. -/
def RunOptions.ofSettings (s : Settings) : RunOptions where
  stepAsTest := s.stepAsTest
  concurrency := s.concurrency.toNat
  folder := some ⟨s.reportRoot⟩

end ScenarioRunner

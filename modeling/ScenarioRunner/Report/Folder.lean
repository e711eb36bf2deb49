import ScenarioRunner.Files.Name
import ScenarioRunner.Files.Tree
import ScenarioRunner.Json.Writer
import ScenarioRunner.Model.Report
import ScenarioRunner.Error

/-!
# Report files

The final report on a scenario is kept as a file, in a directory for its environment, named after
the scenario and the time of writing.

* `ReportFolder.pathFor` gives the path of a report, and `ReportFolder.content` the text of the file.
* `ReportFolder.write` writes it on a disk.
-/

namespace ScenarioRunner

/-- The directory that holds report files. -/
structure ReportFolder where
  root : String
deriving DecidableEq, Repr

namespace ReportFolder

/-- The name of the directory of an environment. -/
def directoryName (report : ExecutionReport) : String :=
  FileName.component report.environment

/-- The name of the file of a report written at a time. -/
def fileName (report : ExecutionReport) (time : DateTime) : String :=
  FileName.sanitize report.scenarioName ++ time.stamp ++ ".json"

def directoryFor (folder : ReportFolder) (report : ExecutionReport) : String :=
  Path.join folder.root (directoryName report)

/-- The path of a report written at a time. -/
def pathFor (folder : ReportFolder) (report : ExecutionReport) (time : DateTime) : String :=
  Path.join (folder.directoryFor report) (fileName report time)

/-- The text of the file of a report. -/
def content (report : ExecutionReport) : String :=
  report.encode.pretty

/-- Writes a report at a time: its path, and the disk behind it.  A file with this path is
replaced. -/
def write (folder : ReportFolder) (disk : Disk) (report : ExecutionReport) (time : DateTime) :
    Except Error (String × Disk) :=
  let path := folder.pathFor report time
  match disk.write (folder.directoryFor report) (fileName report time)
      (Text.Utf8.encode (content report)) with
  | .ok disk => .ok (path, disk)
  | .error e => .error (.materialization path e.message)

end ReportFolder

end ScenarioRunner

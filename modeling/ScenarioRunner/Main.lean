import ScenarioRunner.Backend.Replay
import ScenarioRunner.Command.Session
import ScenarioRunner.DateTime.Calendar

/-!
# The command line

The program: it reads the files that a command is about, carries the command out as a session, shows
the lines, and writes the reports.

Nothing is decided here.  The network of this program is silent, so that without a dry run every
request finds nobody who listens.
-/

namespace ScenarioRunner.Program

/-- The file or directory at a path. -/
partial def load (path : String) : IO FileTree := do
  let place ← IO.FS.realPath path
  if ← place.isDir then
    let names := (← place.readDir).toList.map IO.FS.DirEntry.fileName
    return .directory (← names.mapM fun name => return (name, ← load (Path.join path name)))
  else return .file (← IO.FS.readBinFile place).toList

/-- The disk with what is at a path, if there is something. -/
def capture (disk : Disk) (path : String) : IO Disk := do
  try
    let t ← load path
    return (disk.mount path t).toOption.getD disk
  catch _ => return disk

/-- A disk without files, seen from the working directory. -/
def emptyDisk : IO Disk := do
  let here := (Text.segments '/' (← IO.currentDir).toString).filter (· != "")
  return ⟨FileTree.empty.put here .empty, here⟩

def readVariables : IO (List (String × String)) := do
  let found ← Session.variableNames.mapM fun name => return (name, ← IO.getEnv name)
  return found.filterMap fun (name, value) => value.map fun value => (name, value)

/-- The time, in nanoseconds since the start of 1970, as the clock of the file system tells it. -/
def now : IO Int := do
  try
    let (_, path) ← IO.FS.createTempFile
    let time := (← path.metadata).modified
    IO.FS.removeFile path
    return time.sec * 1000000000 + time.nsec.toNat
  catch _ => return 0

/-- A clock that starts at a time and goes on by a millisecond with each report. -/
def clockFrom (start : Int) : Clock := fun n =>
  let time := start + n * 1000000
  .ofSeconds (time / 1000000000) (time % 1000000000).toNat

/-- Writes a report to its file.  A report that cannot be written is left out. -/
def save (folder : ReportFolder) (path : String) (report : ExecutionReport) : IO Unit := do
  try
    IO.FS.createDirAll (folder.directoryFor report)
    IO.FS.writeFile path (ReportFolder.content report)
  catch _ => return

/-- The files that a command reads: those of the settings, those that it is about, and the
environments. -/
def readFiles (lookup : String → Option String) (command : Command) : IO Disk := do
  let paths := Settings.localFile :: (Settings.userFile? lookup).toList ++ command.paths
  let disk ← paths.foldlM capture (← emptyDisk)
  match Settings.load disk lookup with
  | .ok settings => capture disk settings.environmentRoot
  | .error _ => return disk

/-- Carries out a command and gives its exit code. -/
def perform (verbose : Bool) (command : Command) : IO UInt32 := do
  let found ← readVariables
  let lookup (name : String) : Option String := found.lookup name
  let disk ← readFiles lookup command
  let session : Session Unit := ⟨disk, lookup, clockFrom (← now), .silent, ()⟩
  let aftermath := session.perform verbose command
  let stdout ← IO.getStdout
  stdout.putStr (Line.textOfAll (session.isColoured (← stdout.isTty)) aftermath.lines)
  match aftermath.archive.folder with
  | some folder => aftermath.archive.files.forM fun (path, report) => save folder path report
  | none => pure ()
  match aftermath.failure with
  | some e => IO.eprintln ("Error: " ++ e.message)
  | none => pure ()
  return aftermath.code.toUInt32

/-- Reads a command line and does what it says. -/
def start (words : List String) : IO UInt32 := do
  match Command.parse words with
  | .command verbose command => perform verbose command
  | .help =>
    Command.usage.forM IO.println
    return 0
  | .version =>
    IO.println Command.version
    return 0
  | .refused =>
    Command.usage.forM IO.eprintln
    return 2

end ScenarioRunner.Program

def main (words : List String) : IO UInt32 :=
  ScenarioRunner.Program.start words

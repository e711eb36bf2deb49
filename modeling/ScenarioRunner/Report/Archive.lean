import ScenarioRunner.Report.Folder

/-!
# Archives

An archive takes reports one after the other and writes each as a file, as far as it can.

* `Clock` tells the time at which each report is written.
* `Archive.store` writes a report if the archive has a folder, and `Archive.storeAll` several.

A report that cannot be written is left out; nothing else depends on it.
-/

namespace ScenarioRunner

/-- The time at which the report with a number is written. -/
abbrev Clock := Nat → DateTime

/-- The reports written to a disk. -/
structure Archive where
  /-- Where reports go; without a folder they go nowhere. -/
  folder : Option ReportFolder
  clock : Clock
  disk : Disk
  /-- How many reports came in. -/
  count : Nat
  /-- The reports that were written, with their paths, the first one in front. -/
  files : List (String × ExecutionReport)

namespace Archive

/-- An archive into which no report came. -/
def ofFolder (folder : Option ReportFolder) (clock : Clock) (disk : Disk) : Archive :=
  ⟨folder, clock, disk, 0, []⟩

/-- Takes a report: its path if it is written, and the archive behind it. -/
def store (a : Archive) (report : ExecutionReport) : Option String × Archive :=
  match a.folder with
  | none => (none, a)
  | some folder =>
    match folder.write a.disk report (a.clock a.count) with
    | .ok (path, disk) =>
      (some path, { a with disk, count := a.count + 1, files := a.files ++ [(path, report)] })
    | .error _ => (none, { a with count := a.count + 1 })

/-- Takes reports one after the other. -/
def storeAll (a : Archive) (reports : List ExecutionReport) : Archive :=
  reports.foldl (fun a report => (a.store report).2) a

end Archive

end ScenarioRunner

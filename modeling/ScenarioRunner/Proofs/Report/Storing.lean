import Mathlib.Tactic.Common
import ScenarioRunner.Proofs.Files.Writing
import ScenarioRunner.Report.Archive

/-!
# Archives that take reports

Whether a report is written depends on its name and on the time, and not on the reports that the archive
has taken before from the same environment.

* `ReportFolder.exists_write_iff`: a report is written if its directory takes its file.
* `Archive.pathAt` is the path of a report that is written at some time, if it is written.
* `Archive.SameIn` relates archives in which the reports of a directory get the same paths, and
  `Archive.SameIn.store`: an archive that has taken such a report is still the same in this sense.
-/

namespace ScenarioRunner

namespace ReportFolder

variable {folder : ReportFolder} {disk disk' : Disk} {report : ExecutionReport} {time : DateTime}
  {path : String}

lemma write_eq_ok_iff : folder.write disk report time = .ok (path, disk') ↔
    folder.pathFor report time = path ∧
      disk.write (folder.directoryFor report) (fileName report time)
        (Text.Utf8.encode (content report)) = .ok disk' := by
  unfold write
  cases disk.write (folder.directoryFor report) (fileName report time)
      (Text.Utf8.encode (content report)) with
  | ok disk'' => simp only [Except.ok.injEq, Prod.mk.injEq]
  | error e => simp only [reduceCtorEq, and_false]

/-- **A report is written** if its directory takes its file. -/
theorem exists_write_iff (folder : ReportFolder) (disk : Disk) (report : ExecutionReport)
    (time : DateTime) : (∃ written, folder.write disk report time = .ok written) ↔
      disk.Takes (folder.directoryFor report) (fileName report time) := by
  rw [← disk.exists_write_iff _ _ (Text.Utf8.encode (content report))]
  constructor
  · rintro ⟨⟨path, disk'⟩, h⟩
    exact ⟨disk', (write_eq_ok_iff.mp h).2⟩
  · rintro ⟨disk', h⟩
    exact ⟨_, write_eq_ok_iff.mpr ⟨rfl, h⟩⟩

end ReportFolder

namespace Archive

variable {a a' : Archive} {report : ExecutionReport} {directory : String}
  {time : DateTime}

/-- The path of a report that is written at some time, if it is written. -/
def pathAt (a : Archive) (report : ExecutionReport) (time : DateTime) : Option String :=
  a.folder.bind fun folder => (folder.write a.disk report time).toOption.map Prod.fst

/-- Reports are written when they come in. -/
lemma store_fst (a : Archive) (report : ExecutionReport) :
    (a.store report).1 = a.pathAt report (a.clock a.count) := by
  rw [store, pathAt]
  cases a.folder with
  | none => rfl
  | some folder =>
      dsimp only [Option.bind_some]
      cases folder.write a.disk report (a.clock a.count) <;> rfl

lemma pathAt_eq_some_iff {path : String} : a.pathAt report time = some path ↔
    ∃ folder, a.folder = some folder ∧
      a.disk.Takes (folder.directoryFor report) (ReportFolder.fileName report time) ∧
      folder.pathFor report time = path := by
  rw [pathAt, Option.bind_eq_some_iff]
  refine exists_congr fun folder => and_congr_right fun _ => ?_
  rw [← folder.exists_write_iff a.disk report time]
  cases hwrite : folder.write a.disk report time with
  | ok written =>
      rw [(ReportFolder.write_eq_ok_iff.mp hwrite).1, and_iff_right ⟨written, rfl⟩]
      exact Option.some_inj
  | error e => exact iff_of_false nofun fun ⟨⟨_, h⟩, _⟩ => by cases h

/-- Only names matter for the path. -/
lemma pathAt_congr {report' : ExecutionReport} (hname : report.scenarioName = report'.scenarioName)
    (henvironment : report.environment = report'.environment) (a : Archive) (time : DateTime) :
    a.pathAt report time = a.pathAt report' time := by
  refine Option.ext fun path => ?_
  simp only [pathAt_eq_some_iff, ReportFolder.pathFor, ReportFolder.directoryFor,
    ReportFolder.directoryName, ReportFolder.fileName, hname, henvironment]

/-- **Two archives are the same for the reports of a directory** if these get the same paths in both
whenever they are written. -/
structure SameIn (directory : String) (a a' : Archive) : Prop where
  folder : a'.folder = a.folder
  clock : a'.clock = a.clock
  standing : a'.disk.Standing
  pathAt : ∀ report time, ReportFolder.directoryName report = directory →
    a'.pathAt report time = a.pathAt report time

lemma SameIn.refl (directory : String) (h : a.disk.Standing) : a.SameIn directory a :=
  ⟨rfl, rfl, h, fun _ _ _ => rfl⟩

/-- **Reports do not stand in each other's way.** -/
theorem SameIn.store (h : a.SameIn directory a')
    (hreport : ReportFolder.directoryName report = directory) :
    a.SameIn directory (a'.store report).2 := by
  rw [Archive.store]
  cases hfolder : a'.folder with
  | none => exact h
  | some folder =>
      have hsame := hfolder ▸ h.folder
      dsimp only
      cases hwrite : folder.write a'.disk report (a'.clock a'.count) with
      | error e =>
          refine ⟨hsame, h.clock, h.standing, fun other time hother => ?_⟩
          rw [← h.pathAt other time hother]
          refine Option.ext fun path => ?_
          rw [pathAt_eq_some_iff, pathAt_eq_some_iff, hfolder]
      | ok written =>
          obtain ⟨path, disk⟩ := written
          obtain ⟨-, hdisk⟩ := ReportFolder.write_eq_ok_iff.mp hwrite
          obtain ⟨hkeeps, htakes⟩ := Disk.takes_of_write h.standing hdisk
          refine ⟨hsame, h.clock, hkeeps.standing h.standing, fun other time hother => ?_⟩
          rw [← h.pathAt other time hother]
          refine Option.ext fun path => ?_
          rw [pathAt_eq_some_iff, pathAt_eq_some_iff, hfolder]
          refine exists_congr fun folder' => and_congr_right fun hfolder' => ?_
          obtain rfl := Option.some.inj hfolder'
          -- both reports go into the directory of one environment
          have hdirectory : folder.directoryFor other = folder.directoryFor report :=
            congrArg (Path.join folder.root) (hother.trans hreport.symm)
          rw [hdirectory, htakes]

lemma SameIn.storeAll {reports : List ExecutionReport} (h : a.SameIn directory a')
    (hreports : ∀ report ∈ reports, ReportFolder.directoryName report = directory) :
    a.SameIn directory (a'.storeAll reports) := by
  induction reports generalizing a' with
  | nil => exact h
  | cons report rest ih =>
      rw [List.forall_mem_cons] at hreports
      exact ih (h.store hreports.1) hreports.2

end Archive

end ScenarioRunner

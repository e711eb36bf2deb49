import Mathlib.Tactic.Common
import ScenarioRunner.Proofs.DateTime.Stamps
import ScenarioRunner.Proofs.Files.Paths
import ScenarioRunner.Report.Folder

/-!
# Where report files go

The path of a report file, for any names of a scenario and of its environment.

* `FileName.IsPlain` holds of texts that can be the name of one level on any system.
  `FileName.isPlain_component` and `ReportFolder.isPlain_fileName`: the two names behind the root
  are such texts.
* `ReportFolder.confined`: the path is that of the root with these two names.
* `ReportFolder.pathFor_eq_iff`: two reports have the same path exactly if the names come to the
  same and both are written within one millisecond.

Between the name of a scenario and its stamp stands no separator.  The stamp is found from the end,
since it has always the same length.
-/

namespace ScenarioRunner

/-! ## Names of one level -/

namespace FileName

variable {name : String} {c : Char}

/-- A text that can be the name of one level on any system: it leads nowhere else, and holds
neither a separator nor a control character. -/
structure IsPlain (name : String) : Prop where
  ne_empty : name ≠ ""
  ne_here : name ≠ "."
  ne_up : name ≠ ".."
  no_separator : '/' ∉ name.toList ∧ '\\' ∉ name.toList
  no_control : ∀ c ∈ name.toList, ¬ (c.toNat < 32 ∨ 127 ≤ c.toNat ∧ c.toNat < 160)

/-- It is a name in paths. -/
lemma IsPlain.isName (h : IsPlain name) : Path.IsName name :=
  ⟨h.ne_empty, h.ne_here, h.ne_up, h.no_separator.1⟩

/-- Characters that file names may hold make a plain name, unless they lead elsewhere. -/
lemma isPlain_of_allowed (hchars : name.toList.all allowed = true) (hempty : name ≠ "")
    (hhere : name ≠ ".") (hup : name ≠ "..") : IsPlain name where
  ne_empty := hempty
  ne_here := hhere
  ne_up := hup
  no_separator := by
    rw [List.all_eq_true] at hchars
    exact ⟨fun hmem => absurd (hchars _ hmem) (by decide),
      fun hmem => absurd (hchars _ hmem) (by decide)⟩
  no_control c hc := by
    have hc := List.all_eq_true.mp hchars c hc
    simp only [allowed, isControl, Bool.and_eq_true, Bool.not_eq_true', Bool.or_eq_false_iff,
      Bool.and_eq_false_iff, decide_eq_false_iff_not] at hc
    omega

/-- Characters that are not allowed stand before or behind the digits. -/
lemma allowed_of_isDigit (h : c.isDigit) : allowed c = true := by
  rw [Char.isDigit, Bool.and_eq_true, decide_eq_true_eq, decide_eq_true_eq] at h
  have hlow : 48 ≤ c.toNat := h.1
  have hhigh : c.toNat ≤ 57 := h.2
  have hcontrol : isControl c = false := by
    simp only [isControl, Bool.or_eq_false_iff, Bool.and_eq_false_iff, decide_eq_false_iff_not]
    omega
  have hreserved : isReserved c = false := by
    simp only [isReserved, List.contains_eq_mem, decide_eq_false_iff_not]
    intro hmem
    have hother : ['\\', '/', ':', '*', '?', '"', '<', '>', '|'].all
        (fun c => c.toNat < 48 || 57 < c.toNat) = true := by
      decide
    have hc := List.all_eq_true.mp hother c hmem
    simp only [Bool.or_eq_true, decide_eq_true_eq] at hc
    omega
  rw [allowed, hcontrol, hreserved]
  rfl

lemma all_allowed_sanitize (name : String) : (sanitize name).toList.all allowed = true := by
  rw [sanitize, String.toList_ofList, List.all_eq_true]
  exact fun c hc => (List.mem_filter.mp hc).2

/-- **The name of a directory level is plain**, whatever it is made from. -/
theorem isPlain_component (name : String) : IsPlain (component name) := by
  simp only [component]
  split
  · exact isPlain_of_allowed (by decide) (by decide) (by decide) (by decide)
  · next hdots =>
    -- the three texts that lead elsewhere hold nothing but dots
    refine isPlain_of_allowed (all_allowed_sanitize name) ?_ ?_ ?_ <;>
      · intro heq
        rw [heq] at hdots
        exact hdots (by decide)

end FileName

namespace ReportFolder

open FileName (IsPlain)

variable {report report' : ExecutionReport} {time time' : DateTime}

lemma toList_fileName (report : ExecutionReport) (time : DateTime) :
    (fileName report time).toList =
      (FileName.sanitize report.scenarioName).toList ++ (time.stamp.toList ++ ".json".toList) := by
  rw [fileName, String.toList_append, String.toList_append, List.append_assoc]

/-- **The name of a report file is plain**, whatever the scenario is called. -/
theorem isPlain_fileName (report : ExecutionReport) (time : DateTime) :
    IsPlain (fileName report time) := by
  have hlong : 5 ≤ (fileName report time).toList.length := by
    rw [toList_fileName, List.length_append, List.length_append]
    exact (Nat.le_add_left 5 _).trans (Nat.le_add_left _ _)
  have hshort {name : String} (hname : name.toList.length < 5) : fileName report time ≠ name :=
    fun heq => absurd (heq ▸ hlong) (Nat.not_le.mpr hname)
  have hstamp : time.stamp.toList.all FileName.allowed = true := by
    rw [List.all_eq_true]
    intro c hc
    rcases DateTime.of_mem_stamp hc with hdigit | rfl | rfl
    · exact FileName.allowed_of_isDigit hdigit
    · decide
    · decide
  have hend : ".json".toList.all FileName.allowed = true := by decide
  refine FileName.isPlain_of_allowed ?_ (hshort (by decide)) (hshort (by decide))
    (hshort (by decide))
  rw [toList_fileName, List.all_append, List.all_append, FileName.all_allowed_sanitize, hstamp, hend]
  rfl

/-! ## Paths -/

lemma pathFor_eq_below (folder : ReportFolder) (report : ExecutionReport) (time : DateTime) :
    folder.pathFor report time =
      Path.below folder.root [directoryName report, fileName report time] := by
  rw [pathFor, directoryFor, Path.below, List.foldl_cons, List.foldl_cons, List.foldl_nil]

lemma isName_of_mem {name : String} (h : name ∈ [directoryName report, fileName report time]) :
    Path.IsName name := by
  rcases List.mem_pair.mp h with hdirectory | hfile
  · rw [hdirectory]
    exact (FileName.isPlain_component _).isName
  · rw [hfile]
    exact (isPlain_fileName report time).isName

/-- **Report files stay below the root**, two levels down.  Whatever the scenario and its
environment are called and whenever the report is written, the path is that of the root with a
directory and a file.  Both have plain names, and that of the file says what kind it is of. -/
theorem confined (folder : ReportFolder) (report : ExecutionReport) (time : DateTime) :
    ∃ directory file,
      Path.components (folder.pathFor report time) =
        Path.components folder.root ++ [.name directory, .name file] ∧
      Path.relative? folder.root (folder.pathFor report time) = some (directory ++ "/" ++ file) ∧
      IsPlain directory ∧ IsPlain file ∧ ∃ stem, file = stem ++ ".json" := by
  have hcomponents : Path.components (folder.pathFor report time) =
      Path.components folder.root ++
        [.name (directoryName report), .name (fileName report time)] := by
    rw [pathFor_eq_below]
    exact Path.components_below folder.root fun name => isName_of_mem
  refine ⟨directoryName report, fileName report time, hcomponents, ?_,
    FileName.isPlain_component _, isPlain_fileName report time, _, rfl⟩
  rw [Path.relative?, hcomponents, Path.dropPrefix?_append, Option.map_some]
  exact congrArg some (Path.ofComponents_names [directoryName report, fileName report time])

/-- The names of two files are the same exactly if the names of the scenarios come to the same and
the clock shows the same. -/
lemma fileName_inj (h : time.FourDigits) (h' : time'.FourDigits) :
    fileName report time = fileName report' time' ↔
      FileName.sanitize report.scenarioName = FileName.sanitize report'.scenarioName ∧
        time.reading = time'.reading := by
  rw [← String.toList_inj, toList_fileName, toList_fileName, ← List.append_assoc,
    ← List.append_assoc, List.append_cancel_right_eq, ← DateTime.stamp_inj h h']
  simp only [← String.toList_inj]
  constructor
  · intro heq
    exact List.append_inj' heq ((DateTime.length_stamp h).trans (DateTime.length_stamp h').symm)
  · rintro ⟨hname, hstamp⟩
    rw [hname, hstamp]

/-- What two report files share: a directory, the name of the scenario, and the time to the
millisecond. -/
def SameFile (report report' : ExecutionReport) (time time' : DateTime) : Prop :=
  directoryName report = directoryName report' ∧
    FileName.sanitize report.scenarioName = FileName.sanitize report'.scenarioName ∧
    time.reading = time'.reading

instance (report report' : ExecutionReport) (time time' : DateTime) :
    Decidable (SameFile report report' time time') :=
  inferInstanceAs (Decidable (_ ∧ _))

lemma components_pathFor_inj (folder : ReportFolder) (h : time.FourDigits) (h' : time'.FourDigits) :
    Path.components (folder.pathFor report time) = Path.components (folder.pathFor report' time') ↔
      SameFile report report' time time' := by
  rw [pathFor_eq_below, pathFor_eq_below, SameFile, ← fileName_inj h h']
  constructor
  · intro heq
    have hnames := Path.below_injective folder.root (fun name => isName_of_mem)
      (fun name => isName_of_mem) heq
    simpa only [List.cons.injEq, and_true] using hnames
  · rintro ⟨hdirectory, hfile⟩
    rw [hdirectory, hfile]

/-- **Report files have the same path only if they must.**  Below one root, two reports have the
same path, as a text or by its components, exactly if their environments and their scenarios come to
the same names and the clock shows the same to the millisecond.  So digits at the end of a name are
never taken for a part of the stamp. -/
theorem pathFor_eq_iff (folder : ReportFolder) (report report' : ExecutionReport)
    (h : time.FourDigits) (h' : time'.FourDigits) :
    (folder.pathFor report time = folder.pathFor report' time' ↔
        SameFile report report' time time') ∧
      (Path.components (folder.pathFor report time) =
          Path.components (folder.pathFor report' time') ↔ SameFile report report' time time') ∧
      (time.valid → time'.valid → folder.pathFor report time = folder.pathFor report' time' →
        time.toMillisecond = time'.toMillisecond) := by
  have hcomponents : Path.components (folder.pathFor report time) =
      Path.components (folder.pathFor report' time') ↔ SameFile report report' time time' :=
    components_pathFor_inj folder h h'
  have htext : folder.pathFor report time = folder.pathFor report' time' ↔
      SameFile report report' time time' := by
    refine ⟨fun heq => hcomponents.mp (congrArg Path.components heq), ?_⟩
    rintro ⟨hdirectory, hsame⟩
    rw [pathFor_eq_below, pathFor_eq_below, hdirectory, (fileName_inj h h').mpr hsame]
  exact ⟨htext, hcomponents, fun hvalid hvalid' heq =>
    (DateTime.reading_eq_iff hvalid hvalid').mp (htext.mp heq).2.2⟩

/-- Half a second into a leap second. -/
def withinLeapSecond : DateTime :=
  ⟨2016, 12, 31, 23, 59, 59, 1500000000⟩

/-- Later within the same millisecond. -/
def withinSameMillisecond : DateTime :=
  ⟨2016, 12, 31, 23, 59, 59, 1500999999⟩

/-- Two reports with different names, written within a millisecond, have the same path. -/
theorem pathFor_eq_iff_leapSecond :
    ∃ (folder : ReportFolder) (report report' : ExecutionReport),
      withinLeapSecond.FourDigits ∧ withinSameMillisecond.FourDigits ∧
      withinLeapSecond.valid ∧ withinSameMillisecond.valid ∧
      SameFile report report' withinLeapSecond withinSameMillisecond ∧
      folder.pathFor report withinLeapSecond = folder.pathFor report' withinSameMillisecond ∧
      Path.components (folder.pathFor report withinLeapSecond) =
        Path.components (folder.pathFor report' withinSameMillisecond) ∧
      withinLeapSecond.toMillisecond = withinSameMillisecond.toMillisecond := by
  have hfour : withinLeapSecond.FourDigits :=
    DateTime.fourDigits_of_valid (by decide) (by decide) (by decide)
  have hfour' : withinSameMillisecond.FourDigits :=
    DateTime.fourDigits_of_valid (by decide) (by decide) (by decide)
  have hsame : SameFile (.around 4 "Search: <docs>?" ".." .blank)
      (.around 5 "Search docs" "." .blank) withinLeapSecond withinSameMillisecond := by
    decide +kernel
  obtain ⟨htext, hcomponents, hmilli⟩ := pathFor_eq_iff ⟨"/reports"⟩ _ _ hfour hfour'
  exact ⟨_, _, _, hfour, hfour', by decide, by decide, hsame, htext.mpr hsame,
    hcomponents.mpr hsame, hmilli (by decide) (by decide) (htext.mpr hsame)⟩

end ReportFolder

end ScenarioRunner

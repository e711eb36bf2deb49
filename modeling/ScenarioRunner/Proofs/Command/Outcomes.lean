import Mathlib.Tactic.Common
import ScenarioRunner.Proofs.Engine.Waiting
import ScenarioRunner.Proofs.Report.Storing

/-!
# Launches judge each scenario on its own

A launch runs its scenarios one after the other on one backend, and keeps their reports in one archive.
What it says of one of them depends on the others only by what these leave behind in the backend.

* `Backend.behind` is the state of a backend when some scenarios have been run, and
  `Launch.getElem?_runAll` the outcome of a scenario in its place.
* `LaunchSummary.Judges` is what a summary says of the scenarios one by one and of all together.
* `LaunchOutcome.Alike` relates outcomes that differ in numbers of executions and in the times of
  reports.  `Answer.Gives.alike`: one answer leads to such outcomes.
* `Launch.exists_outcome_of_gives`: on a backend of scripts, the outcome of a scenario comes from its own
  script, since neither the state of the backend nor the archive behind the others shows in it.
* `Launch.judged_alone` puts these together.
-/

namespace ScenarioRunner

/-! ## Backends and archives behind some scenarios -/

namespace Backend

variable {σ : Type} {b : Backend σ} {scenario : Scenario} {environment : Environment} {s : σ}

/-- The state of a backend when scenarios have been run one after the other. -/
def behind (b : Backend σ) (environment : Environment) (scenarios : List Scenario) (s : σ) : σ :=
  scenarios.foldl (fun s scenario => (b.runToEnd scenario environment s).2) s

/-- A scenario that is run takes one of the executions for which a backend is ready. -/
lemma Steady.ready_runToEnd {answer : Scenario → Environment → Answer} (h : b.Steady answer)
    {n : Nat} (hready : h.ready (n + 1) s) :
    h.ready n (b.runToEnd scenario environment s).2 := by
  rw [runToEnd_eq]
  exact (h.of_start hready).2

lemma Steady.ready_behind {answer : Scenario → Environment → Answer} (h : b.Steady answer)
    {n : Nat} {scenarios : List Scenario} (hready : h.ready (scenarios.length + n) s) :
    h.ready n (b.behind environment scenarios s) := by
  induction scenarios generalizing s with
  | nil => exact (Nat.zero_add n) ▸ hready
  | cons scenario rest ih =>
      rw [List.length_cons, Nat.add_right_comm] at hready
      exact ih (h.ready_runToEnd hready)

end Backend

namespace Launch

variable {σ : Type} {b : Backend σ} {expected : Status} {environment : Environment}
  {scenarios : List Scenario} {scenario : Scenario} {s : σ} {archive : Archive} {i : Nat}

/-- The final reports among some outcomes. -/
def reports (outcomes : List LaunchOutcome) : List ExecutionReport :=
  outcomes.filterMap fun o => o.result.toOption

lemma storeAll_reports_cons (archive : Archive) (o : LaunchOutcome) (rest : List LaunchOutcome) :
    archive.storeAll (reports (o :: rest)) =
      (archive.storeAll o.result.toOption.toList).storeAll (reports rest) := by
  rw [reports, List.filterMap_cons]
  cases o.result <;> rfl

/-- What is said of a scenario that has come to a result, by a launch with an archive. -/
def outcomeOf (expected : Status) (archive : Archive) (scenario : Scenario)
    (result : Except Error ExecutionReport) : LaunchOutcome :=
  ⟨scenario.title, result, expected,
    result.toOption.bind fun report => (archive.store report).1⟩

lemma runOne_eq (b : Backend σ) (expected : Status) (environment : Environment) (scenario : Scenario)
    (s : σ) (archive : Archive) :
    runOne b expected environment scenario s archive =
      (outcomeOf expected archive scenario (b.runToEnd scenario environment s).1,
        (b.runToEnd scenario environment s).2,
        archive.storeAll (b.runToEnd scenario environment s).1.toOption.toList) := by
  rw [runOne]
  rcases b.runToEnd scenario environment s with ⟨result, s'⟩
  cases result <;> rfl

/-- **A launch runs scenarios one after the other.**  What it does to the backend depends on no archive,
and its reports are what comes into the archive. -/
theorem runAll_snd (b : Backend σ) (expected : Status) (environment : Environment)
    (scenarios : List Scenario) (s : σ) (archive : Archive) :
    (runAll b expected environment scenarios s archive).2 =
      (b.behind environment scenarios s,
        archive.storeAll (reports (runAll b expected environment scenarios s archive).1)) := by
  induction scenarios generalizing s archive with
  | nil => rfl
  | cons scenario rest ih =>
      simp only [runAll, runOne_eq, ih, storeAll_reports_cons]
      rfl

lemma length_runAll (b : Backend σ) (expected : Status) (environment : Environment)
    (scenarios : List Scenario) (s : σ) (archive : Archive) :
    (runAll b expected environment scenarios s archive).1.length = scenarios.length := by
  induction scenarios generalizing s archive with
  | nil => rfl
  | cons scenario rest ih => simp only [runAll, List.length_cons, ih]

/-- The first outcomes are those of a launch of the first scenarios. -/
lemma take_runAll (b : Backend σ) (expected : Status) (environment : Environment)
    (scenarios : List Scenario) (s : σ) (archive : Archive) (i : Nat) :
    (runAll b expected environment scenarios s archive).1.take i =
      (runAll b expected environment (scenarios.take i) s archive).1 := by
  induction scenarios generalizing s archive i with
  | nil => rw [List.take_nil, runAll, List.take_nil]
  | cons scenario rest ih =>
      cases i with
      | zero => rfl
      | succ i => simp only [runAll, List.take_succ_cons, ih]

/-- **Each scenario has an outcome of its own**, in the place of the scenario. -/
theorem getElem?_runAll (b : Backend σ) (expected : Status) (environment : Environment)
    (s : σ) (archive : Archive) (h : scenarios[i]? = some scenario) :
    (runAll b expected environment scenarios s archive).1[i]? =
      some (outcomeOf expected
        (archive.storeAll
          (reports ((runAll b expected environment scenarios s archive).1.take i)))
        scenario
        (b.runToEnd scenario environment (b.behind environment (scenarios.take i) s)).1) := by
  rw [take_runAll]
  induction scenarios generalizing s archive i with
  | nil => cases h
  | cons first rest ih =>
      cases i with
      | zero =>
          obtain rfl := Option.some.inj h
          simp only [runAll, runOne_eq, List.getElem?_cons_zero]
          rfl
      | succ i =>
          simp only [runAll, List.getElem?_cons_succ, runOne_eq, List.take_succ_cons]
          rw [ih _ _ h, storeAll_reports_cons]
          rfl

end Launch

/-! ## Verdicts -/

/-- A scenario is matched if it has come to a report with the status that is expected. -/
lemma LaunchOutcome.matched_iff (o : LaunchOutcome) :
    o.matched = true ↔ ∃ report, o.result = .ok report ∧ report.status = o.expected := by
  rw [matched]
  cases o.result with
  | ok report => simp
  | error e => simp

lemma LaunchSummary.mismatched_eq_zero_iff (s : LaunchSummary) :
    s.mismatched = 0 ↔ ∀ o ∈ s.outcomes, o.matched = true := by
  simp [mismatched]

/-- **What a launch says of its scenarios**, one by one and of all together. -/
structure LaunchSummary.Judges {σ : Type} (summary : LaunchSummary) (b : Backend σ)
    (environment : Environment) (expected : Status) (scenarios : List Scenario) (s : σ)
    (archive : Archive) : Prop where
  environment_eq : summary.environment = environment.name
  expected_eq : summary.expected = expected
  length_eq : summary.outcomes.length = scenarios.length
  /-- What a scenario comes to depends on the state in which those before it have left the backend, and
  on no archive.  Whether its report is written shows in the path alone. -/
  outcome : ∀ {i : Nat} {scenario : Scenario}, scenarios[i]? = some scenario →
    ∃ o, summary.outcomes[i]? = some o ∧ o.scenario = scenario.title ∧
      o.result = (b.runToEnd scenario environment (b.behind environment (scenarios.take i) s)).1 ∧
      (o.matched = true ↔ ∃ report, o.result = .ok report ∧ report.status = expected) ∧
      o.path = o.result.toOption.bind fun report =>
        ((archive.storeAll (Launch.reports (summary.outcomes.take i))).store report).1
  /-- All are matched, or those that are not are counted. -/
  ensured_iff : summary.ensureExpected = .ok () ↔ ∀ o ∈ summary.outcomes, o.matched = true
  unmatched : (∃ o ∈ summary.outcomes, o.matched = false) →
    summary.ensureExpected =
      .error (.unexpectedStatus (summary.outcomes.countP fun o => !o.matched) scenarios.length)

namespace Launch

variable {σ : Type} {b : Backend σ} {name : Option String} {environment : Environment}

/-- **A launch whose environment is found** has outcomes, whatever happens to the scenarios. -/
theorem run_eq {s t : σ} (h : b.environmentFor name s = (.ok environment, t)) (expected : Status)
    (scenarios : List Scenario) (archive : Archive) :
    run b expected name scenarios s archive =
      (.ok ⟨environment.name, expected, (runAll b expected environment scenarios t archive).1⟩,
        b.behind environment scenarios t,
        archive.storeAll (reports (runAll b expected environment scenarios t archive).1)) := by
  rw [run, h, ← runAll_snd]

lemma exists_environment_of_run {expected : Status} {scenarios : List Scenario} {s : σ}
    {archive : Archive} {summary : LaunchSummary} {left : σ × Archive}
    (h : run b expected name scenarios s archive = (.ok summary, left)) :
    ∃ environment t, b.environmentFor name s = (.ok environment, t) ∧
      summary.outcomes = (runAll b expected environment scenarios t archive).1 := by
  cases hfound : b.environmentFor name s with
  | mk found t =>
      cases found with
      | error e =>
          rw [run, hfound] at h
          cases h
      | ok environment =>
          rw [run_eq hfound] at h
          obtain rfl := Except.ok.inj (Prod.mk.inj h).1
          exact ⟨environment, t, rfl, rfl⟩

/-- What a launch says of its scenarios is right, since each has its outcome in its place. -/
theorem judges_runAll (b : Backend σ) (environment : Environment) (expected : Status)
    (scenarios : List Scenario) (s : σ) (archive : Archive) :
    LaunchSummary.Judges
      ⟨environment.name, expected, (runAll b expected environment scenarios s archive).1⟩
      b environment expected scenarios s archive := by
  have hlength := length_runAll b expected environment scenarios s archive
  refine ⟨rfl, rfl, hlength, fun {i scenario} hi => ?_, ?_, ?_⟩
  · exact ⟨_, getElem?_runAll b expected environment s archive hi, rfl, rfl,
      LaunchOutcome.matched_iff _, rfl⟩
  · rw [← LaunchSummary.mismatched_eq_zero_iff, LaunchSummary.ensureExpected]
    split
    · next hzero => exact iff_of_true rfl hzero
    · next hsome => exact iff_of_false nofun hsome
  · rintro ⟨o, ho, hunmatched⟩
    rw [LaunchSummary.ensureExpected, if_neg, hlength]
    · rfl
    · rw [LaunchSummary.mismatched_eq_zero_iff]
      exact fun hall => Bool.false_ne_true (hunmatched.symm.trans (hall o ho))

end Launch

/-! ## Scripts -/

namespace Stream

variable {id : ExecutionId} {items : List Item} {last : Option ExecutionReport}
  {report : ExecutionReport}

lemma lastOf_numbered (id : ExecutionId) (last : Option ExecutionReport) (items : List Item) :
    lastOf (last.map (ExecutionReport.numbered id)) (numbered id items) =
      (lastOf last items).map (Option.map (ExecutionReport.numbered id)) := by
  induction items generalizing last with
  | nil => rfl
  | cons item items ih =>
      cases item with
      | error e => rfl
      | ok report => exact ih (some report)

/-- The last snapshot is one of the stream. -/
lemma mem_of_lastOf (h : lastOf last items = .ok (some report)) :
    last = some report ∨ .ok report ∈ items := by
  induction items generalizing last with
  | nil => exact .inl (Except.ok.inj h)
  | cons item items ih =>
      cases item with
      | error e => cases h
      | ok first =>
          right
          rcases ih h with heq | hmem
          · obtain rfl := Option.some.inj heq
            exact List.mem_cons_self
          · exact List.mem_cons_of_mem _ hmem

/-- A stream with numbers ends with the number in its final snapshot, or in the error that there is
none. -/
lemma final_numbered (id : ExecutionId) (items : List Item) :
    final id (numbered id items) =
      match lastOf none items with
      | .ok (some report) => .ok (report.numbered id)
      | .ok none => .error (.noReport id)
      | .error e => .error e := by
  have hlast := lastOf_numbered id none items
  rw [Option.map_none] at hlast
  rw [final, hlast]
  rcases lastOf none items with e | last
  · rfl
  · cases last <;> rfl

end Stream

/-- The snapshots of a script are about the environment of the scenario. -/
lemma ScriptBook.environment_of_gives {book : ScriptBook} {scenario : Scenario}
    {environment : Environment} {opened : Except Error (ExecutionId × List Item)}
    {report : ExecutionReport} (hgives : (book.answer scenario environment).Gives opened)
    (h : Stream.outcome opened = .ok report) : report.environment = environment.name := by
  rw [answer] at hgives
  split at hgives
  · cases hgives
    cases h
  · cases hgives with
    | stream items id =>
        rw [Stream.outcome, Stream.final_numbered] at h
        split at h
        · next last hlast =>
          obtain rfl := Except.ok.inj h
          obtain hnone | hmem := Stream.mem_of_lastOf hlast
          · cases hnone
          · obtain ⟨item, -, hitem⟩ := List.mem_map.mp hmem
            cases item with
            | report tree =>
                obtain rfl := Except.ok.inj hitem
                rfl
            | broken reason => cases hitem
        · cases h
        · cases h

/-- The number of an execution does not matter for the path of a report. -/
lemma Archive.pathAt_numbered (a : Archive) (report : ExecutionReport) (id : ExecutionId)
    (time : DateTime) : a.pathAt (report.numbered id) time = a.pathAt report time := by
  have hname : (report.numbered id).scenarioName = report.scenarioName := rfl
  have henvironment : (report.numbered id).environment = report.environment := rfl
  exact a.pathAt_congr hname henvironment time

/-- **Two outcomes are alike** but for numbers of executions and for the times at which reports are
written into an archive. -/
inductive LaunchOutcome.Alike (archive : Archive) : LaunchOutcome → LaunchOutcome → Prop
  | reported (title : String) (expected : Status) (report : ExecutionReport)
      (id id' : ExecutionId) (time time' : DateTime) :
    Alike archive
      ⟨title, .ok (report.numbered id), expected, archive.pathAt report time⟩
      ⟨title, .ok (report.numbered id'), expected, archive.pathAt report time'⟩
  | silent (title : String) (expected : Status) (id id' : ExecutionId) :
    Alike archive ⟨title, .error (.noReport id), expected, none⟩
      ⟨title, .error (.noReport id'), expected, none⟩
  | broken (title : String) (expected : Status) (e : Error) :
    Alike archive ⟨title, .error e, expected, none⟩ ⟨title, .error e, expected, none⟩

/-- One answer leads to outcomes that are alike. -/
lemma Answer.Gives.alike {a : Answer} {opened opened' : Except Error (ExecutionId × List Item)}
    (h : a.Gives opened) (h' : a.Gives opened') (title : String) (expected : Status)
    (archive : Archive) (time time' : DateTime) :
    LaunchOutcome.Alike archive
      ⟨title, Stream.outcome opened, expected,
        (Stream.outcome opened).toOption.bind fun report => archive.pathAt report time⟩
      ⟨title, Stream.outcome opened', expected,
        (Stream.outcome opened').toOption.bind fun report => archive.pathAt report time'⟩ := by
  cases h with
  | refused e => cases h'; exact .broken ..
  | unopened e => cases h'; exact .broken ..
  | stream items id =>
      cases h' with
      | stream _ id' =>
          rw [Stream.outcome, Stream.outcome, Stream.final_numbered, Stream.final_numbered]
          rcases Stream.lastOf none items with e | last
          · exact .broken title expected e
          · cases last with
            | none => exact .silent title expected id id'
            | some report =>
                have halike : LaunchOutcome.Alike archive _ _ :=
                  .reported title expected report id id' time time'
                rw [← archive.pathAt_numbered report id, ← archive.pathAt_numbered report id'] at halike
                exact halike

namespace Launch

variable {book book' : ScriptBook} {scenarios : List Scenario} {scenario : Scenario}
  {environment : Environment} {expected : Status} {s s' : ScriptState} {archive : Archive} {i : Nat}

/-- What a backend gives that replays scripts, when earlier scenarios have been run. -/
lemma gives_behind (book : ScriptBook) (environment : Environment)
    (hready : ScriptBook.Ready scenarios.length s) (h : scenarios[i]? = some scenario) :
    (book.answer scenario environment).Gives
      (book.backend.start scenario environment Table.empty
        (book.backend.behind environment (scenarios.take i) s)).1 := by
  obtain ⟨hi, -⟩ := List.getElem?_eq_some_iff.mp h
  have hlength : scenarios.length = (scenarios.take i).length + (scenarios.length - i - 1 + 1) := by
    rw [List.length_take]
    omega
  rw [hlength] at hready
  exact book.steady.gives_start (book.steady.ready_behind hready)

/-- The reports of a launch are about its environment. -/
lemma environment_of_mem_runAll (hready : ScriptBook.Ready scenarios.length s) {o : LaunchOutcome}
    (ho : o ∈ (runAll book.backend expected environment scenarios s archive).1)
    {report : ExecutionReport} (h : o.result = .ok report) :
    report.environment = environment.name := by
  obtain ⟨j, hj⟩ := List.getElem?_of_mem ho
  obtain ⟨hlt, -⟩ := List.getElem?_eq_some_iff.mp hj
  rw [length_runAll] at hlt
  have hscenario := List.getElem?_eq_getElem hlt
  rw [getElem?_runAll _ _ _ _ _ hscenario] at hj
  obtain rfl := Option.some.inj hj
  rw [outcomeOf, Backend.runToEnd_eq] at h
  exact ScriptBook.environment_of_gives (gives_behind book environment hready hscenario) h

/-- The archive behind the first outcomes is still the same for the reports of the launch. -/
lemma sameIn_storeAll (book : ScriptBook) (expected : Status) (environment : Environment)
    (hready : ScriptBook.Ready scenarios.length s) (hdisk : archive.disk.Standing) (i : Nat) :
    archive.SameIn (FileName.component environment.name)
      (archive.storeAll
        (reports ((runAll book.backend expected environment scenarios s archive).1.take i))) := by
  refine (Archive.SameIn.refl _ hdisk).storeAll fun report hreport => ?_
  obtain ⟨o, ho, hresult⟩ := List.mem_filterMap.mp hreport
  refine congrArg FileName.component (environment_of_mem_runAll hready (List.mem_of_mem_take ho) ?_)
  cases h : o.result with
  | ok report' => rw [h] at hresult; exact congrArg Except.ok (Option.some.inj hresult)
  | error e => rw [h] at hresult; cases hresult

/-- **What a launch says of a scripted scenario** comes from its script, a number and a time. -/
lemma exists_outcome_of_gives (hready : ScriptBook.Ready scenarios.length s)
    (hdisk : archive.disk.Standing) (h : scenarios[i]? = some scenario) :
    ∃ opened time, (book.answer scenario environment).Gives opened ∧
      (runAll book.backend expected environment scenarios s archive).1[i]? =
        some ⟨scenario.title, Stream.outcome opened, expected,
          (Stream.outcome opened).toOption.bind fun report => archive.pathAt report time⟩ := by
  have hgives := gives_behind book environment hready h
  have hsame := sameIn_storeAll book expected environment hready hdisk i
  rw [getElem?_runAll _ _ _ _ _ h]
  generalize archive.storeAll _ = a at hsame
  refine ⟨_, archive.clock a.count, hgives, ?_⟩
  rw [outcomeOf, Backend.runToEnd_eq]
  cases houtcome : Stream.outcome (book.backend.start scenario environment Table.empty
      (book.backend.behind environment (scenarios.take i) s)).1 with
  | error e => rfl
  | ok report =>
      have hdirectory : ReportFolder.directoryName report = FileName.component environment.name :=
        congrArg FileName.component (ScriptBook.environment_of_gives hgives houtcome)
      have hpath : (a.store report).1 = archive.pathAt report (archive.clock a.count) := by
        rw [a.store_fst, hsame.clock, hsame.pathAt report _ hdirectory]
      simp only [Except.toOption, Option.bind_some, hpath]

/-- **Each scenario is judged on its own.**  On every backend, a launch whose environment is found ends
with one outcome for each scenario, in their order, whatever happens to them: a report if the backend
comes to one, which is matched if it has the expected status, or the error.  No outcome depends on
whether reports are written.  All are matched, or the error counts those that are not.  If the scripts
of other titles are changed, then an outcome stays the same but for numbers and times. -/
theorem judged_alone (expected : Status) (name : Option String) (scenarios : List Scenario)
    (archive : Archive) :
    (∀ {σ : Type} (b : Backend σ) (s : σ) {environment : Environment} {t : σ},
      b.environmentFor name s = (.ok environment, t) →
      ∃ summary, run b expected name scenarios s archive =
          (.ok summary, b.behind environment scenarios t,
            archive.storeAll (reports summary.outcomes)) ∧
        summary.Judges b environment expected scenarios t archive) ∧
    ∀ {book book' : ScriptBook} {s s' : ScriptState} (clock : Clock)
      {summary summary' : LaunchSummary} {left left' : ScriptState × Archive},
      book'.environments = book.environments → ScriptBook.Ready scenarios.length s →
      ScriptBook.Ready scenarios.length s' → archive.disk.Standing →
      run book.backend expected name scenarios s archive = (.ok summary, left) →
      run book'.backend expected name scenarios s' { archive with clock } = (.ok summary', left') →
      ∀ {i : Nat} {scenario : Scenario}, scenarios[i]? = some scenario →
        book'.script? scenario.title = book.script? scenario.title →
        ∃ o o', summary.outcomes[i]? = some o ∧ summary'.outcomes[i]? = some o' ∧
          o.Alike archive o' := by
  constructor
  · intro σ b s environment t henvironment
    exact ⟨_, run_eq henvironment expected scenarios archive,
      judges_runAll b environment expected scenarios t archive⟩
  · intro book book' s s' clock summary summary' left left' henvironments hready hready' hdisk hrun
      hrun' i scenario hi hscript
    obtain ⟨environment, t, henvironment, houtcomes⟩ := exists_environment_of_run hrun
    obtain ⟨environment', t', henvironment', houtcomes'⟩ := exists_environment_of_run hrun'
    rw [ScriptBook.backend_environmentFor] at henvironment henvironment'
    obtain ⟨hfound, rfl⟩ := Prod.mk.inj henvironment
    obtain ⟨hfound', rfl⟩ := Prod.mk.inj henvironment'
    rw [ScriptBook.environmentFor_congr henvironments, hfound] at hfound'
    obtain rfl := Except.ok.inj hfound'
    obtain ⟨opened, time, hgives, ho⟩ := exists_outcome_of_gives hready hdisk hi
    have hdisk' : ({ archive with clock } : Archive).disk.Standing := hdisk
    obtain ⟨opened', time', hgives', ho'⟩ := exists_outcome_of_gives hready' hdisk' hi
    rw [ScriptBook.answer_congr hscript] at hgives'
    exact ⟨_, _, (congrArg (·[i]?) houtcomes).trans ho, (congrArg (·[i]?) houtcomes').trans ho',
      hgives.alike hgives' scenario.title expected archive time time'⟩

/-- Two scenarios of different titles. -/
def twoScenarios : List Scenario :=
  ["first", "second"].map fun title => .ofStep title (.action "do" (.ofAction "debug"))

/-- The first scenario is turned down if there is a reason for it; else its stream breaks. -/
def firstBroken (reason : Option String) : ScriptBook :=
  ⟨[.named "DEV"], [("first", { submitError := reason, items := [.broken "lost"] })]⟩

/-- An archive on an empty disk, whose reports are written in the seconds from some one on. -/
def fromSecond (second : Nat) : Archive :=
  .ofFolder (some ⟨"out"⟩) (fun k => ⟨2024, 3, 9, 7, 5, second + k, 0⟩) ⟨.directory [], []⟩

/-- The number of the execution whose report an outcome holds. -/
def numberAt (summary : LaunchSummary) (i : Nat) : Option ExecutionId :=
  summary.outcomes[i]?.bind fun o => o.result.toOption.map ExecutionReport.executionId

/-- If the first of two scenarios is turned down, then this one is counted, and the other one ends with
success.  It is the first execution then, and the second one if only the stream of the first scenario
breaks; the outcomes are alike. -/
theorem judged_alone_firstBroken :
    ∃ summary summary' left left',
      (firstBroken (some "closed")).backend.environmentFor none ScriptState.initial =
        (.ok (.named "DEV"), .initial) ∧
      ScriptBook.Ready twoScenarios.length .initial ∧ (fromSecond 1).disk.Standing ∧
      run (firstBroken (some "closed")).backend .success none twoScenarios .initial (fromSecond 1) =
        (.ok summary, left) ∧
      run (firstBroken none).backend .success none twoScenarios .initial (fromSecond 4) =
        (.ok summary', left') ∧
      summary.Judges (firstBroken (some "closed")).backend (.named "DEV") .success twoScenarios
        .initial (fromSecond 1) ∧
      summary.ensureExpected = .error (.unexpectedStatus 1 2) ∧
      numberAt summary 1 = some 1 ∧ numberAt summary' 1 = some 2 ∧
      ∃ o o', summary.outcomes[1]? = some o ∧ summary'.outcomes[1]? = some o' ∧
        o.Alike (fromSecond 1) o' := by
  have henvironment : (firstBroken (some "closed")).backend.environmentFor none
      ScriptState.initial = (.ok (.named "DEV"), .initial) := rfl
  have henvironment' : (firstBroken none).backend.environmentFor none ScriptState.initial =
      (.ok (.named "DEV"), .initial) := rfl
  have hready : ScriptBook.Ready twoScenarios.length .initial :=
    ⟨by decide +kernel, by simp [ScriptState.initial]⟩
  have hdisk : (fromSecond 1).disk.Standing := rfl
  obtain ⟨summary, hrun, hjudges⟩ :=
    (judged_alone .success none twoScenarios (fromSecond 1)).1 _ ScriptState.initial henvironment
  obtain ⟨summary', hrun', -⟩ :=
    (judged_alone .success none twoScenarios (fromSecond 4)).1 _ ScriptState.initial henvironment'
  have hfacts : (run (firstBroken (some "closed")).backend .success none twoScenarios .initial
      (fromSecond 1)).1.toOption.map (fun r => (r.mismatched, numberAt r 1)) =
        some (1, some 1) := by
    decide +kernel
  have hfacts' : (run (firstBroken none).backend .success none twoScenarios .initial
      (fromSecond 4)).1.toOption.map (fun r => numberAt r 1) = some (some 2) := by
    decide +kernel
  rw [hrun] at hfacts
  rw [hrun'] at hfacts'
  obtain ⟨hone, hnumber⟩ := Prod.mk.inj (Option.some.inj hfacts)
  have hnumber' := Option.some.inj hfacts'
  have hexpected : summary.ensureExpected = .error (.unexpectedStatus 1 2) := by
    rw [LaunchSummary.ensureExpected, hone, hjudges.length_eq]
    rfl
  have henvironments : (firstBroken none).environments =
      (firstBroken (some "closed")).environments := rfl
  have hsecond : twoScenarios[1]? =
      some (.ofStep "second" (.action "do" (.ofAction "debug"))) := rfl
  have hscript : (firstBroken none).script? "second" =
      (firstBroken (some "closed")).script? "second" := rfl
  exact ⟨summary, summary', _, _, henvironment, hready, hdisk, hrun, hrun', hjudges, hexpected,
    hnumber, hnumber', (judged_alone .success none twoScenarios (fromSecond 1)).2
      (fromSecond 4).clock henvironments hready hready hdisk hrun hrun' hsecond hscript⟩

end Launch

end ScenarioRunner

import ScenarioRunner.Launch
import ScenarioRunner.Proofs.Engine.Rehearsals

/-!
# Following a stream and waiting for its end

A run follows the stream of a scenario snapshot by snapshot, with a tracker that remembers the last
one.  A launch reads the stream on its own and keeps the last snapshot.  Both come to the same.

* `Backend.IgnoresConstants`: the constants of a run make no difference to the backend.
* `Tracker.outcome_follow`: what a tracker comes to is the last snapshot behind the one that it
  remembers, whatever moves the snapshots cause.
* `ClassRun.Works` relates what the task of a scenario leads to on its own, and
  `ClassRun.exists_works`: it submits, follows and tells what its job does.
* `Job.agrees_with_launch`: the run and the launch end with the same report or the same error.
* `Run.matched_of_completes`: what has succeeded in a run, whichever way its tasks were scheduled,
  is matched by a launch on the same backend.
-/

namespace ScenarioRunner

/-! ## Backends -/

namespace Backend

variable {σ : Type} {b : Backend σ} {scenario : Scenario} {environment : Environment}
  {constants constants' : Table String} {s : σ}

/-- **Constants make no difference** to what the backend answers, and to what it does. -/
def IgnoresConstants (b : Backend σ) : Prop :=
  ∀ scenario environment constants constants' dataset s,
    b.submit scenario environment constants dataset s =
      b.submit scenario environment constants' dataset s

lemma IgnoresConstants.start_eq (h : b.IgnoresConstants) (scenario : Scenario)
    (environment : Environment) (constants constants' : Table String) (s : σ) :
    b.start scenario environment constants s = b.start scenario environment constants' s := by
  rw [start, h scenario environment constants constants', start]

/-- A backend with fixed answers starts an execution by its answer, and is ready for one less. -/
lemma Steady.of_start {answer : Scenario → Environment → Answer} (h : b.Steady answer) {n : Nat}
    (hready : h.ready (n + 1) s) :
    (answer scenario environment).Gives (b.start scenario environment constants s).1 ∧
      h.ready n (b.start scenario environment constants s).2 := by
  unfold start
  split
  · next e s' hsubmit =>
    obtain ⟨hanswer, hready', -⟩ := h.of_refused hready hsubmit
    rw [hanswer]
    exact ⟨.refused e, hready'⟩
  · next id s' hsubmit =>
    obtain ⟨hready', -, howed, -⟩ := h.of_accepted hready hsubmit
    split
    · next e s'' hopen =>
      obtain ⟨hgives, hready'', -⟩ := h.of_opened hready' howed hopen
      exact ⟨hgives, hready''⟩
    · next items s'' hopen =>
      obtain ⟨hgives, hready'', -⟩ := h.of_opened hready' howed hopen
      exact ⟨hgives, hready''⟩

lemma Steady.gives_start {answer : Scenario → Environment → Answer} (h : b.Steady answer) {n : Nat}
    (hready : h.ready (n + 1) s) :
    (answer scenario environment).Gives (b.start scenario environment constants s).1 :=
  (h.of_start hready).1

end Backend

lemma ScriptBook.ignoresConstants (book : ScriptBook) : book.backend.IgnoresConstants :=
  fun _ _ _ _ _ _ => rfl

/-! ## Two ways to read a stream -/

namespace Stream

/-- What an execution comes to when all of its stream has been read. -/
def outcome : Except Error (ExecutionId × List Item) → Except Error ExecutionReport
  | .error e => .error e
  | .ok (id, items) => final id items

end Stream

/-- **A tracker remembers the last snapshot**, whatever moves the snapshots cause. -/
theorem Tracker.outcome_follow (id : ExecutionId) (t : Tracker) (items : List Item) :
    (t.follow id items).outcome =
      match Stream.lastOf t.last items with
      | .ok (some report) => .ok report
      | .ok none => .error (.noReport id)
      | .error e => .error e := by
  induction items generalizing t with
  | nil =>
      rw [follow, Stream.lastOf]
      cases t.last <;> rfl
  | cons item items ih =>
      cases item with
      | error e => rfl
      | ok report =>
          have hlast : (t.observe report).2.last = some report := rfl
          rw [Stream.lastOf, ← hlast, ← ih]
          rfl

/-- What has been followed comes to the same as what has been read. -/
lemma Job.outcome_followed (job : Job) (opened : Except Error (ExecutionId × List Item)) :
    (job.followed opened).outcome = Stream.outcome opened := by
  cases opened with
  | error e => rfl
  | ok reply => exact (Tracker.ofScenario job.node).outcome_follow reply.1 reply.2

lemma Backend.runToEnd_eq {σ : Type} (b : Backend σ) (scenario : Scenario)
    (environment : Environment) (s : σ) :
    b.runToEnd scenario environment s =
      (Stream.outcome (b.start scenario environment Table.empty s).1,
        (b.start scenario environment Table.empty s).2) := by
  rw [runToEnd]
  split
  · next e s' hstart => rw [hstart, Stream.outcome]
  · next id items s' hstart => rw [hstart, Stream.outcome]

/-! ## The task of a scenario -/

namespace ClassRun

variable {σ : Type} {b : Backend σ} {options : RunOptions} {c : ClassRun} {l : Nat} {job : Job}
  {actions : List JobAction}

/-- What the task of a scenario leads to while no other task has a turn. -/
abbrev Works (b : Backend σ) (options : RunOptions) (l : Nat) :
    ClassRun × Outside σ → ClassRun × Outside σ → Prop :=
  Relation.ReflTransGen fun before behind =>
    before.1.advanceScenario? b options l before.2 = some behind

lemma scenarios_setPhase {phase : Phase} (hl : c.scenarios[l]? = some ⟨job, phase⟩)
    (scope : ClassScope) (phase' : Phase) :
    ({ c with scope }.setPhase l phase').scenarios[l]? = some ⟨job, phase'⟩ :=
  getElem?_changePhase_self (c := { c with scope }) hl _

/-- The task goes through its actions. -/
lemma exists_works_of_acting (hl : c.scenarios[l]? = some ⟨job, .acting actions⟩) (o : Outside σ) :
    ∃ c' o', Works b options l (c, o) (c', o') ∧ c'.scenarios[l]? = some ⟨job, .acting []⟩ ∧
      o'.backend = o.backend ∧ o'.events = o.events ++ Job.toldBy actions := by
  induction actions generalizing c o with
  | nil => exact ⟨c, o, .refl, hl, rfl, by simp⟩
  | cons action rest ih =>
      have hstep : c.advanceScenario? b options l o =
          some ({ c with scope := c.scope.behind job action }.setPhase l (.acting rest),
            o.behind action) := by
        rw [advanceScenario?, hl]
        cases action <;> rfl
      obtain ⟨c', o', hworks, hdone, hbackend, hevents⟩ :=
        ih (scenarios_setPhase hl _ (.acting rest)) (o.behind action)
      refine ⟨c', o', .head hstep hworks, hdone, hbackend.trans ?_, hevents.trans ?_⟩
      · cases action <;> rfl
      · rw [Outside.events_behind, List.append_assoc]
        cases action <;> rfl

/-- The task submits the scenario and asks for its stream. -/
lemma exists_works_of_submitting (hl : c.scenarios[l]? = some ⟨job, .submitting⟩) (o : Outside σ) :
    ∃ c',
      Works b options l (c, o)
        (c', { o with
          backend :=
            (b.start job.source.definition job.environment options.constants o.backend).2 }) ∧
      c'.scenarios[l]? =
        some ⟨job, .acting (job.actions options
          (b.start job.source.definition job.environment options.constants o.backend).1)⟩ := by
  have hsubmitted :
      c.advanceScenario? b options l o = some (c.submitScenario b options l job o) := by
    rw [advanceScenario?, hl]
  unfold Backend.start
  split
  · next e s hsubmit =>
    rw [submitScenario, hsubmit] at hsubmitted
    exact ⟨_, .single hsubmitted, scenarios_setPhase hl c.scope _⟩
  · next id s hsubmit =>
    rw [submitScenario, hsubmit] at hsubmitted
    have hl' := scenarios_setPhase hl c.scope (.opening id)
    have hopened :
        (c.setPhase l (.opening id)).advanceScenario? b options l { o with backend := s } =
          some ((c.setPhase l (.opening id)).openScenario b options l job id
            { o with backend := s }) := by
      rw [advanceScenario?, hl']
    split
    · next e s' hopen =>
      rw [openScenario, hopen] at hopened
      exact ⟨_, .head hsubmitted (.single hopened), scenarios_setPhase hl' c.scope _⟩
    · next items s' hopen =>
      rw [openScenario, hopen] at hopened
      exact ⟨_, .head hsubmitted (.single hopened), scenarios_setPhase hl' c.scope _⟩

/-- **On its own** the task of a scenario submits it, and tells what its job does with the
stream. -/
theorem exists_works (hl : c.scenarios[l]? = some ⟨job, .submitting⟩) (o : Outside σ) :
    ∃ c' o', Works b options l (c, o) (c', o') ∧ c'.scenarios[l]? = some ⟨job, .acting []⟩ ∧
      o'.backend =
        (b.start job.source.definition job.environment options.constants o.backend).2 ∧
      o'.events =
        o.events ++ Job.toldBy (job.actions options
          (b.start job.source.definition job.environment options.constants o.backend).1) := by
  obtain ⟨c', (hasks : Works b options l _ _), hl'⟩ := exists_works_of_submitting hl o
  obtain ⟨c'', o', (hacts : Works b options l _ _), hdone, hbackend, hevents⟩ :=
    exists_works_of_acting hl' _
  exact ⟨c'', o', hasks.trans hacts, hdone, hbackend, hevents⟩

end ClassRun

/-! ## Runs and launches -/

namespace Job

variable {σ : Type} {b : Backend σ} {options : RunOptions} {job : Job}
  {opened : Except Error (ExecutionId × List Item)} {result : NodeResult} {s : σ}

/-- A scenario that finishes with success has come to a report with this status. -/
lemma exists_report_of_success (hresult : (job.followed opened).result.verdict = .success) :
    ∃ report, Stream.outcome opened = .ok report ∧ report.status = .success := by
  rw [Followed.result, outcome_followed] at hresult
  cases houtcome : Stream.outcome opened with
  | error e =>
      rw [houtcome] at hresult
      exact Verdict.noConfusion hresult
  | ok report =>
      rw [houtcome] at hresult
      exact ⟨report, rfl, (report.verdict_eq_success_iff.mp hresult).1⟩

/-- The end that a job tells is that of what has been followed. -/
lemma result_of_mem_told (h : job.event (.finished result) ∈ toldBy (job.actions options opened)) :
    result = (job.followed opened).result := by
  rw [toldBy_actions, List.mem_append, List.mem_singleton] at h
  rcases h with h | h
  · rcases isInner_of_mem_innerEvents h with ⟨slot, hslot⟩ | ⟨report, hreport⟩
    · exact Subject.noConfusion hslot
    · exact Change.noConfusion (event_inj.mp hreport)
  · exact Change.finished.inj (event_inj.mp h)

/-- A launch of a scenario that comes to a report with success is matched. -/
lemma matched_of_outcome {scenario : Scenario} {environment : Environment}
    {report : ExecutionReport}
    (houtcome : Stream.outcome (b.start scenario environment Table.empty s).1 = .ok report)
    (hstatus : report.status = .success) (archive : Archive) :
    (Launch.runOne b .success environment scenario s archive).1.matched = true := by
  rw [Launch.runOne, Backend.runToEnd_eq, houtcome]
  simp [LaunchOutcome.matched, hstatus]

/-- **A run and a launch agree** on a scenario, where `opened` is what the task of the scenario is
given by the backend. -/
structure Agrees (b : Backend σ) (options : RunOptions) (job : Job) (s : σ)
    (opened : Except Error (ExecutionId × List Item)) : Prop where
  report_iff : ∀ report, (job.followed opened).outcome = .ok report ↔
    (b.runToEnd job.source.definition job.environment s).1 = .ok report
  error_iff : ∀ text, (∃ e, (job.followed opened).outcome = .error e ∧ e.message = text) ↔
    ∃ e, (b.runToEnd job.source.definition job.environment s).1 = .error e ∧ e.message = text
  /-- The task comes to that on its own, and leaves the backend as the launch does. -/
  works : ∀ {c : ClassRun} {o : Outside σ} {l : Nat},
    c.scenarios[l]? = some ⟨job, .submitting⟩ → o.backend = s →
    ∃ c' o', ClassRun.Works b options l (c, o) (c', o') ∧
      c'.scenarios[l]? = some ⟨job, .acting []⟩ ∧
      o'.backend = (b.runToEnd job.source.definition job.environment s).2 ∧
      o'.events = o.events ++ toldBy (job.actions options opened)
  /-- If the run tells success, then success is what the launch finds. -/
  matched : ∀ result, job.event (.finished result) ∈ toldBy (job.actions options opened) →
    result.verdict = .success → ∀ archive,
      (Launch.runOne b .success job.environment job.source.definition s archive).1.matched = true

/-- **The run and the launch of a scenario agree**, on every backend to which constants make no
difference, in every state of it, and whatever node stands for the scenario in the run. -/
theorem agrees_with_launch (hb : b.IgnoresConstants) (options : RunOptions) (job : Job) (s : σ) :
    job.Agrees b options s
      (b.start job.source.definition job.environment options.constants s).1 := by
  have hstart := hb.start_eq job.source.definition job.environment options.constants Table.empty s
  refine
    { report_iff := fun report => ?_
      error_iff := fun text => ?_
      works := fun {c o l} hl hbackend => ?_
      matched := fun result htold hsuccess archive => ?_ }
  · rw [outcome_followed, Backend.runToEnd_eq, hstart]
  · rw [outcome_followed, Backend.runToEnd_eq, hstart]
  · subst hbackend
    rw [Backend.runToEnd_eq, ← hstart]
    exact ClassRun.exists_works hl o
  · rw [result_of_mem_told htold] at hsuccess
    obtain ⟨report, houtcome, hstatus⟩ := exists_report_of_success hsuccess
    rw [hstart] at houtcome
    exact matched_of_outcome houtcome hstatus archive

/-- A scenario whose steps are nodes, in an environment. -/
def nestedJob : Job :=
  let source : ScenarioSource := ⟨Run.twiceNested, "a.A", "p", none⟩
  ⟨0, 0, .ofScenario (NodeId.engine NodeId.engineName) "p" source true, source, .named "local"⟩

/-- A run with a constant. -/
def withConstant : RunOptions :=
  { constants := .ofList [("user", "ann")] }

/-- The two agree on a stream that breaks, though the launch submits no constants. -/
theorem agrees_with_launch_breaking :
    Run.breaking.backend.IgnoresConstants ∧
      nestedJob.Agrees Run.breaking.backend withConstant .initial
        (Run.breaking.backend.start Run.twiceNested (.named "local") withConstant.constants
          .initial).1 ∧
      ∃ e, (Run.breaking.backend.runToEnd Run.twiceNested (.named "local") .initial).1 = .error e ∧
        e.message = "Report stream broken: boom" :=
  ⟨Run.breaking.ignoresConstants,
    agrees_with_launch Run.breaking.ignoresConstants withConstant nestedJob .initial, _, rfl, rfl⟩

end Job

namespace Run

variable {σ : Type} {b : Backend σ} {answer : Scenario → Environment → Answer} {h : b.Steady answer}
  {options : RunOptions} {request : RunRequest} {r : Run σ} {s s' : σ}

/-- **What has succeeded in a run is matched by a launch**, on a backend with fixed answers:
whichever way the tasks of the run were scheduled, and whatever else was submitted before the
launch. -/
theorem matched_of_completes {i j : Nat} {node child : Node} {source : ScenarioSource}
    {environment : Environment} {result : NodeResult} {n : Nat}
    (hcompletes : Completes b options request s r)
    (hready : h.ready (request.tasks h.findings) s)
    (hchild : request.root.children[i]? = some node)
    (hskip : request.skip.contains node.id = false) (hat : node.children[j]? = some child)
    (hsource : child.scenario? = some source) (hskipped : request.skip.contains child.id = false)
    (henvironment : h.environmentFor source.environment = .ok environment)
    (htold : ⟨.scenarioAt i j, child, .finished result⟩ ∈ r.outside.events)
    (hsuccess : result.verdict = .success) (hready' : h.ready (n + 1) s') (archive : Archive) :
    (Launch.runOne b .success environment source.definition s' archive).1.matched = true := by
  obtain ⟨opened, hgives, hevents⟩ :=
    hcompletes.exists_gives hready hchild hskip hat hsource hskipped henvironment
  have hmem : (⟨.scenarioAt i j, child, .finished result⟩ : Event) ∈
      r.outside.events.filter fun e => e.subject.isWithinScenario i j :=
    List.mem_filter.mpr ⟨htold, by simp [Subject.isWithinScenario]⟩
  rw [hevents] at hmem
  have hresult := Job.result_of_mem_told
    ((List.mem_cons.mp hmem).resolve_left fun heq => Change.noConfusion (Event.mk.inj heq).2.2)
  -- the answer leads to one verdict, under whatever number
  have hanswer : (answer source.definition environment).Gives
      (b.start source.definition environment Table.empty s').1 :=
    h.gives_start hready'
  have hverdict := Job.verdict_eq ⟨i, j, child, source, environment⟩ hgives hanswer
  rw [← hresult, hsuccess] at hverdict
  obtain ⟨report, houtcome, hstatus⟩ := Job.exists_report_of_success hverdict.symm
  exact Job.matched_of_outcome houtcome hstatus archive

end Run

end ScenarioRunner

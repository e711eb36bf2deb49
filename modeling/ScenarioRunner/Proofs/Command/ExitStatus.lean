import ScenarioRunner.Backend.Replay
import ScenarioRunner.Command.Session
import ScenarioRunner.Proofs.Engine.Execution
import ScenarioRunner.Proofs.Engine.Overload
import ScenarioRunner.Proofs.Files.Trees

/-!
# The exit status of a run

A command that runs scenarios counts those that are finished, and fails if one of them failed.  The
engine comes to its own verdict from the classes.

* `Tally.Tells` says that the two agree, and that all scenarios were counted.
  `Run.Completes.tells`: they do at the end of every run.
* `Session.Provides` is the backend that a session uses, and `Session.Prepares` says what it runs
  under which settings.  `Session.Prepares.exists_execute`: the command tells the tally of a run on
  that backend.
* `Session.failure_perform_run` puts this together, for gates that can be made.
* `Session.success_of_limit_lt`: without gates nothing is finished, and the command succeeds
  although every run fails.
-/

namespace ScenarioRunner

/-! ## Tallies of runs -/

/-- **A tally tells how a run has ended**: it has all scenarios of the tree, and no failure exactly
if the engine was finished with success. -/
structure Tally.Tells (t : Tally) (root : Node) (events : List Event) : Prop where
  total : t.total = root.scenarioCount
  ends : ∃ verdict,
    events.filter (fun e => e.subject == .engine) =
      [⟨.engine, root, .started⟩, ⟨.engine, root, .finished (.ofVerdict verdict)⟩] ∧
    t.failure? =
      if verdict = .success then none else some (.scenariosFailed t.failed root.scenarioCount)

namespace Run

variable {σ : Type} {b : Backend σ} {options : RunOptions} {root : Node} {findings : Findings} {s : σ}
  {r : Run σ}

/-- What the engine tells of itself at the end of a run, with or without gates. -/
lemma Keeps.filter_engine {inv : ClassPlan → ClassRun → List Event → Prop} {request : RunRequest}
    (hfollows : ∀ {P c log}, inv P c log → ∃ stage, P.FollowsBy stage options c log)
    (h : r.Keeps inv findings options request) (hstuck : r.Stuck b options) :
    r.outside.events.filter (fun e => e.subject == .engine) =
      [request.event .started, request.event (.finished (.ofVerdict r.verdict))] :=
  Follows.told_engine (h.closed_of_stuck hfollows hstuck).1.1

/-- **The tally of a run tells how it has ended.** -/
theorem Completes.tells (h : Completes b options ⟨root, []⟩ s r) (hlayered : root.Layered) :
    (Tally.ofEvents r.outside.events).Tells root r.outside.events := by
  obtain ⟨choices, hreaches, hquiet⟩ := h.reaches
  obtain ⟨findings, hproceeds, hstuck⟩ := hreaches.exists_proceeds hquiet
  have hends := (follows_of_proceeds hproceeds).filter_engine (fun h => ⟨_, h⟩) (hstuck h.stuck)
  rw [foreseen_verdict] at hends
  rw [h.tally_eq hlayered]
  refine ⟨rfl, r.verdict, hends, ?_⟩
  rw [Tally.failure?]
  cases hverdict : r.verdict with
  | success =>
      have hnone : r.outside.events.countP Event.failsScenario = 0 := by
        refine List.countP_eq_zero.mpr fun e he hfails => ?_
        have hfailure := h.verdict_eq_failure_iff.mpr ⟨e, he, hfails⟩
        exact Verdict.noConfusion (hverdict.symm.trans hfailure)
      rw [if_pos hnone, if_pos rfl]
  | failure =>
      have hsome := h.verdict_eq_failure_iff.mp hverdict
      rw [if_neg (Nat.ne_of_gt (List.countP_pos_iff.mpr hsome)), if_neg Verdict.noConfusion]

/-- A run without gates has a tally of nothing. -/
lemma tally_of_gateless
    (hkeeps : r.Keeps (ClassPlan.FollowsGateless options) findings options ⟨root, []⟩)
    (hstuck : r.Stuck b options) (hlayered : root.Layered) :
    Tally.ofEvents r.outside.events = ⟨0, 0⟩ := by
  have hsilent : ∀ e ∈ r.outside.events, e.IsAt root ∧ e.finishesScenario = false :=
    fun e he => silent_of_gateless hkeeps hstuck he
  have hfinished : r.outside.events.countP Event.finishesScenario = 0 :=
    List.countP_eq_zero.mpr fun e he => by simp [(hsilent e he).2]
  have hfailed : r.outside.events.countP Event.failsScenario = 0 :=
    List.countP_eq_zero.mpr fun e he hfails => by
      have hfinishes := Event.finishesScenario_of_failsScenario hfails
      exact Bool.false_ne_true ((hsilent e he).2.symm.trans hfinishes)
  rw [Tally.ofEvents, Tally.foldl_add_eq _ fun e he => hlayered.isScenario_eq (hsilent e he).1,
    hfinished, hfailed]

end Run

namespace Session

variable {σ : Type} {s : Session σ} {directory : String} {selection : SelectionArguments}
  {address : Option String} {concurrency : Option UInt64} {settings : Settings}
  {outcome : Discovery.Outcome}

/-! ## What a session runs -/

/-- **The backend of a session**, with its state: for a dry run the scripts, and otherwise the
server. -/
inductive Provides (s : Session σ) (settings : Settings) :
    Bool → (τ : Type) → Backend τ → τ → Prop where
  | scripts : Provides s settings true ScriptState
    (ScriptBook.ofDryRun (s.environments settings).list).backend .initial
  | server : Provides s settings false σ
    (RemoteService.backend ⟨settings.url, s.environments settings⟩ s.transport) s.network

/-- **What a session runs**: the settings it has after the arguments of the command, and what it
discovers under them. -/
structure Prepares (s : Session σ) (directory : String) (selection : SelectionArguments)
    (address : Option String) (concurrency : Option UInt64) (settings : Settings)
    (outcome : Discovery.Outcome) : Prop where
  loads : ∃ loaded, Settings.load s.disk s.lookup = .ok loaded ∧
    loaded.withArguments address concurrency = .ok settings
  discovers : ∃ catalog request, Catalog.load s.disk directory = .ok catalog ∧
    selection.request = .ok request ∧
    Discovery.discover catalog settings.stepAsTest request = outcome

namespace Prepares

lemma layered (h : s.Prepares directory selection address concurrency settings outcome) :
    outcome.root.Layered := by
  obtain ⟨catalog, request, -, -, rfl⟩ := h.discovers
  exact Discovery.layered_discover ..

/-- **The command tells the tally of a run** of the discovered tree on the backend of the
session. -/
theorem exists_execute (h : s.Prepares directory selection address concurrency settings outcome)
    (hsome : outcome.root.scenarioCount ≠ 0) (verbose dryRun : Bool) :
    ∃ (τ : Type) (b : Backend τ) (t : τ) (r : Run τ), s.Provides settings dryRun τ b t ∧
      r = Run.execute b (.ofSettings settings) .quiet ⟨outcome.root, []⟩ t ∧
      (s.perform verbose (.run directory selection address dryRun concurrency)).failure =
        (Tally.ofEvents r.outside.events).failure? ∧
      (s.perform verbose (.run directory selection address dryRun concurrency)).lines =
        outcome.issueLines ++ (r.outside.events.flatMap (Event.lines verbose) ++
          [[], (Tally.ofEvents r.outside.events).line]) := by
  obtain ⟨loaded, hload, harguments⟩ := h.loads
  obtain ⟨catalog, request, hcatalog, hrequest, rfl⟩ := h.discovers
  have hperform : ∀ aftermath, aftermath = s.onBackend settings dryRun
        (Aftermath.ofTree (Discovery.discover catalog settings.stepAsTest request).root
          (.ofSettings settings) verbose) →
      s.perform verbose (.run directory selection address dryRun concurrency) =
        { aftermath with
          lines := (Discovery.discover catalog settings.stepAsTest request).issueLines ++
            aftermath.lines } := by
    rintro _ rfl
    simp [perform, performUnder, run, hload, harguments, hcatalog, hrequest, hsome, bind,
      Except.bind]
  cases dryRun with
  | true =>
      refine ⟨_, _, _, _, .scripts, rfl, ?_⟩
      rw [hperform _ rfl]
      exact ⟨rfl, rfl⟩
  | false =>
      refine ⟨_, _, _, _, .server, rfl, ?_⟩
      rw [hperform _ rfl]
      exact ⟨rfl, rfl⟩

end Prepares

/-! ## The exit status -/

/-- **The exit status agrees with the run** if gates can be made.  Whichever way the tasks of a run
of the discovered tree are scheduled and whatever its backend answers, the tally tells how it ends;
and the command tells the tally of a run on the backend of the session. -/
theorem failure_perform_run
    (h : s.Prepares directory selection address concurrency settings outcome)
    (hsome : outcome.root.scenarioCount ≠ 0)
    (hlimit : settings.concurrency.toNat ≤ ClassScope.limit) (verbose dryRun : Bool) :
    (∀ {τ : Type} {b : Backend τ} {t : τ} {r : Run τ},
      Run.Completes b (.ofSettings settings) ⟨outcome.root, []⟩ t r →
        (Tally.ofEvents r.outside.events).Tells outcome.root r.outside.events) ∧
    ∃ (τ : Type) (b : Backend τ) (t : τ) (r : Run τ), s.Provides settings dryRun τ b t ∧
      Run.Completes b (.ofSettings settings) ⟨outcome.root, []⟩ t r ∧
      (s.perform verbose (.run directory selection address dryRun concurrency)).failure =
        (Tally.ofEvents r.outside.events).failure? ∧
      (s.perform verbose (.run directory selection address dryRun concurrency)).lines =
        outcome.issueLines ++ (r.outside.events.flatMap (Event.lines verbose) ++
          [[], (Tally.ofEvents r.outside.events).line]) := by
  refine ⟨fun hcompletes => hcompletes.tells h.layered, ?_⟩
  obtain ⟨τ, b, t, r, hprovides, rfl, htold⟩ := h.exists_execute hsome verbose dryRun
  have hgate : max (RunOptions.ofSettings settings).concurrency 1 ≤ ClassScope.limit :=
    Nat.max_le.mpr ⟨hlimit, by decide⟩
  exact ⟨τ, b, t, _, hprovides, Run.completes_execute _ _ _ _ hgate, htold⟩

/-! ## A directory with one file -/

/-- A scenario document with one scenario. -/
def page : String :=
  "producers:\n  p:\n    produces:\n      title: t\n      when:\n        description: d\n"

/-- A session that sees a directory with this document, and nothing else. -/
def oneFile : Session Unit where
  disk := ⟨.directory [("s", .directory [("a.yaml", .file (Text.Utf8.encode page))])], []⟩
  lookup := fun _ => none
  clock := fun _ => ⟨2024, 1, 1, 0, 0, 0, 0⟩
  transport := Transport.silent
  network := ()

/-- Everything is selected. -/
def everything : SelectionArguments :=
  ⟨[], [], [], [], []⟩

/-- With one file, settings are as they are by default, but for the concurrency. -/
lemma prepares_oneFile (concurrency : Option UInt64) (hsome : concurrency ≠ some 0) :
    ∃ settings outcome, oneFile.Prepares "s" everything none concurrency settings outcome ∧
      outcome.root.scenarioCount = 1 ∧ settings.concurrency = concurrency.getD 1 := by
  have hlocal : oneFile.disk.contains Settings.localFile = false := by
    rw [Disk.contains, Disk.get, Disk.locate, Disk.start_eq _ (by decide) (by decide) (by decide)]
    decide +kernel
  have hsettings : Settings.load oneFile.disk oneFile.lookup = .ok {} := by
    rw [Settings.load, hlocal]
    rfl
  have hcatalog : ∃ catalog, Catalog.load oneFile.disk "s" = .ok catalog ∧
      (Discovery.discover catalog true .all).root.scenarioCount = 1 := by
    rw [Catalog.load, Disk.entries?, Disk.get, Disk.locate,
      Disk.start_eq _ (by decide) (by decide) (by decide)]
    refine ⟨_, rfl, ?_⟩
    decide +kernel
  obtain ⟨catalog, hload, hcount⟩ := hcatalog
  refine ⟨{ concurrency := concurrency.getD 1 }, Discovery.discover catalog true .all,
    ⟨⟨{}, hsettings, ?_⟩, catalog, .all, hload, rfl, rfl⟩, hcount, rfl⟩
  rw [Settings.withArguments, if_neg hsome]
  rfl

/-- A dry run of one file comes to its end, and the command tells how. -/
theorem failure_perform_run_oneFile :
    ∃ settings outcome, oneFile.Prepares "s" everything none none settings outcome ∧
      outcome.root.scenarioCount = 1 ∧ settings.concurrency.toNat ≤ ClassScope.limit ∧
      ∃ (τ : Type) (b : Backend τ) (t : τ) (r : Run τ),
        Run.Completes b (.ofSettings settings) ⟨outcome.root, []⟩ t r ∧
        (Tally.ofEvents r.outside.events).Tells outcome.root r.outside.events ∧
        (oneFile.perform false (.run "s" everything none true none)).failure =
          (Tally.ofEvents r.outside.events).failure? := by
  obtain ⟨settings, outcome, hprepares, hcount, hconcurrency⟩ :=
    prepares_oneFile none (by decide)
  have hsome : outcome.root.scenarioCount ≠ 0 := by rw [hcount]; exact Nat.one_ne_zero
  have hlimit : settings.concurrency.toNat ≤ ClassScope.limit := by rw [hconcurrency]; decide
  obtain ⟨htells, τ, b, t, r, -, hcompletes, hfailure, -⟩ :=
    failure_perform_run hprepares hsome hlimit false true
  exact ⟨settings, outcome, hprepares, hcount, hlimit, τ, b, t, r, hcompletes, htells hcompletes,
    hfailure⟩

/-! ## Without gates -/

/-- **Without gates the exit status is wrong**: every run fails, but no scenario is finished, so
that the command succeeds and tells that no scenario has passed. -/
theorem success_of_limit_lt
    (h : s.Prepares directory selection address concurrency settings outcome)
    (hsome : outcome.root.scenarioCount ≠ 0)
    (hlimit : ClassScope.limit < settings.concurrency.toNat) (verbose dryRun : Bool) :
    (∀ {τ : Type} {b : Backend τ} {t : τ} {choices : List Choice} {r : Run τ},
      Run.Reaches b (.ofSettings settings)
          (Run.ofRequest (.ofSettings settings) ⟨outcome.root, []⟩ t) choices r →
        Run.Quiet choices → r.Stuck b (.ofSettings settings) →
        r.outside.events.filter (fun e => e.subject == .engine) =
          [⟨.engine, outcome.root, .started⟩,
            ⟨.engine, outcome.root, .finished (.ofVerdict .failure)⟩]) ∧
      (s.perform verbose (.run directory selection address dryRun concurrency)).failure = none ∧
      (s.perform verbose (.run directory selection address dryRun concurrency)).lines.getLast? =
        some (Tally.line ⟨0, 0⟩) := by
  have hgate : ClassScope.limit < max (RunOptions.ofSettings settings).concurrency 1 :=
    Nat.lt_of_lt_of_le hlimit (Nat.le_max_left ..)
  -- a tree with scenarios has classes, and the verdict is that of a class which is cut off
  have hclass : ∀ findings : Findings, RunRequest.plans ⟨outcome.root, []⟩ findings ≠ [] := by
    intro findings hnil
    cases hchildren : outcome.root.children with
    | nil => exact hsome (by rw [h.layered.scenarioCount_eq, hchildren]; rfl)
    | cons node nodes =>
        have hmem : ClassPlan.ofNode (findings 0) (List.contains []) 0 node ∈
            RunRequest.plans ⟨outcome.root, []⟩ findings :=
          RunRequest.mem_plans.mpr ⟨node, 0, by rw [hchildren]; rfl, rfl, rfl⟩
        exact List.not_mem_nil (hnil ▸ hmem)
  constructor
  · intro τ b t choices r hreaches hquiet hstuck
    obtain ⟨findings, hproceeds, hplanned⟩ := hreaches.exists_proceeds hquiet
    have hkeeps := Run.keeps_gateless_of_proceeds hproceeds hgate
    have hends := hkeeps.filter_engine (fun h => ⟨_, h.follows⟩) (hplanned hstuck)
    rw [Run.verdict_of_gateless hkeeps (hplanned hstuck) (hclass findings)] at hends
    exact hends
  · obtain ⟨τ, b, t, r, -, rfl, hfailure, hlines⟩ := h.exists_execute hsome verbose dryRun
    obtain ⟨choices, hreaches, hquiet, hstuck⟩ :=
      Run.exists_execute b (.ofSettings settings) ⟨outcome.root, []⟩ t
    obtain ⟨findings, hproceeds, hplanned⟩ := hreaches.exists_proceeds hquiet
    have hkeeps := Run.keeps_gateless_of_proceeds hproceeds hgate
    have htally := Run.tally_of_gateless hkeeps (hplanned hstuck) h.layered
    have htally' : Tally.ofEvents (Run.execute b (.ofSettings settings) .quiet ⟨outcome.root, []⟩
        t).outside.events = ⟨0, 0⟩ := htally
    rw [htally'] at hfailure hlines
    exact ⟨hfailure, by rw [hlines]; simp⟩

/-- **The command can succeed although the run fails**: one file is run under a concurrency for
which no gate can be made. -/
theorem success_oneFile_overloaded :
    ∃ settings outcome,
      oneFile.Prepares "s" everything none (some 2305843009213693952) settings outcome ∧
      outcome.root.scenarioCount = 1 ∧
      (∃ (τ : Type) (b : Backend τ) (t : τ), oneFile.Provides settings true τ b t ∧
        (Run.execute b (.ofSettings settings) .quiet ⟨outcome.root, []⟩ t).outside.events.filter
            (fun e => e.subject == .engine) =
          [⟨.engine, outcome.root, .started⟩,
            ⟨.engine, outcome.root, .finished (.ofVerdict .failure)⟩]) ∧
      (oneFile.perform false
          (.run "s" everything none true (some 2305843009213693952))).failure = none ∧
      (oneFile.perform false
          (.run "s" everything none true (some 2305843009213693952))).lines.getLast? =
        some (Tally.line ⟨0, 0⟩) := by
  obtain ⟨settings, outcome, hprepares, hcount, hconcurrency⟩ :=
    prepares_oneFile (some 2305843009213693952) (by decide)
  have hsome : outcome.root.scenarioCount ≠ 0 := by rw [hcount]; exact Nat.one_ne_zero
  have hlimit : ClassScope.limit < settings.concurrency.toNat := by rw [hconcurrency]; decide
  obtain ⟨hfails, hsuccess⟩ := success_of_limit_lt hprepares hsome hlimit false true
  refine ⟨settings, outcome, hprepares, hcount, ⟨_, _, _, .scripts, ?_⟩, hsuccess⟩
  obtain ⟨choices, hreaches, hquiet, hstuck⟩ := Run.exists_execute _ _ _ _
  exact hfails hreaches hquiet hstuck

end Session

end ScenarioRunner

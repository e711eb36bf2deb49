import ScenarioRunner.Proofs.Engine.Concurrency
import ScenarioRunner.Proofs.Engine.Rescue

/-!
# The gate and the countdown at every moment

The accounts of a class hold whichever way its tasks are scheduled, and wherever tasks of scenarios are
cut off.

* `ClassRun.Accounted` says it of one class: no permit is lost or given twice, the countdown counts
  the scenarios that are not off it, and the class is never stuck before its end is told.
* `ClassRun.Searched.lengths` counts the scenarios for which a class has searched and those for which
  it has not, with those of its plan.
* `ClassPlan.FollowsBy.accounted`: a class that follows its plan is accounted for.
* `Run.accounted_of_reaches`: so is every class at every moment.

A scenario with an environment is taken off the countdown by its own task, and one without by the task
of its class.
-/

namespace ScenarioRunner

/-- The task waits for the backend: it submits the scenario or opens its stream. -/
def Phase.awaitsBackend : Phase → Bool
  | submitting | opening _ => true
  | _ => false

namespace ClassRun

variable {σ : Type}

/-- Some task takes a scenario off the countdown with its next step. -/
def CountsDown (c : ClassRun) : Prop :=
  (∃ rest, c.phase = .running (.countDown :: rest)) ∨
    ∃ (l : Nat) (job : Job), c.scenarios[l]? = some ⟨job, .counting⟩

/-- The number of scenarios for which the task of the class has not searched. -/
def unsearched (c : ClassRun) : Nat :=
  (c.todo.filterMap ClassAction.candidate?).length

/-- The number of scenarios that are off the countdown, where `failed` were found to have no
environment. -/
def released (c : ClassRun) (failed : Nat) : Nat :=
  c.scenarios.countP (fun s => !s.phase.isCounted) + (failed - c.owed)

/-- The task of some scenario waits for the backend. -/
def WaitsForBackend (c : ClassRun) : Prop :=
  ∃ (l : Nat) (s : ScenarioRun), c.scenarios[l]? = some s ∧ s.phase.awaitsBackend = true

/-- Some task of the class can make a step: that of the class, which may look for an environment, or
that of a scenario, which calls no backend. -/
def CanGoOn (b : Backend σ) (options : RunOptions) (c : ClassRun) (o : Outside σ) : Prop :=
  (c.advance? b o).isSome ∨
    ∃ (l : Nat) (s : ScenarioRun), c.scenarios[l]? = some s ∧ s.phase.awaitsBackend = false ∧
      (c.advanceScenario? b options l o).isSome

/-- **The accounts of a class are in order**, for what came of its searches so far. -/
structure Accounted (b : Backend σ) (options : RunOptions) (isSkipped : NodeId → Bool)
    (lookups : List Lookup) (c : ClassRun) (o : Outside σ) : Prop where
  /-- Every permit is free or held by a scenario. -/
  permits : c.scope.free + c.held = max options.concurrency 1
  /-- The task of the class is cut off only if the gate cannot be made. -/
  gate : c.phase = .crashed → ClassScope.limit < max options.concurrency 1
  /-- The countdown is the number of scenarios that are not done, of those without an environment that
  the class has to deal with, and of those for which it has not searched. -/
  remaining : c.phase ≠ .crashed → c.scope.remaining = c.pending + c.owed + c.unsearched
  /-- The scenarios that are not skipped are on the countdown or off it. -/
  complete : c.phase ≠ .crashed →
    c.scope.remaining + c.released (lookups.countP fun x => !x.found.isOk) =
      (ClassPlan.runnable isSkipped c.node).length
  /-- The countdown never goes below zero. -/
  positive : c.phase ≠ .crashed → c.CountsDown → 0 < c.scope.remaining
  /-- It is at zero only if every scenario was searched for and is done. -/
  zero : c.phase ≠ .crashed → c.scope.remaining = 0 →
    c.unsearched = 0 ∧ c.owed = 0 ∧
      ∀ (l : Nat) (s : ScenarioRun), c.scenarios[l]? = some s → s.phase = .done
  /-- Until the end of the class is told, a scenario waits for the backend or some task can go on. -/
  progress : c.phase ≠ .crashed → c.phase ≠ .waiting →
    (∀ e ∈ o.events, e.subject = .classAt c.place → e.isFinish = false) →
    c.WaitsForBackend ∨ c.CanGoOn b options o

/-! ## A class and its plan -/

section Foreseen

variable {findings : Findings} {isSkipped : NodeId → Bool} {lookups : List Lookup} {c : ClassRun}

lemma foreseen_held (findings : Findings) (c : ClassRun) :
    (c.foreseen findings).held = c.held := by
  rw [held, held, ← countP_eq_total, ← countP_eq_total, foreseen, List.countP_append,
    List.countP_map]
  exact congrArg _ (List.countP_eq_zero.mpr fun job _ => Bool.false_ne_true)

lemma foreseen_pending (findings : Findings) (c : ClassRun) :
    (c.foreseen findings).pending =
      c.pending + ((c.foreseenJobs findings).length - c.scenarios.length) := by
  rw [pending, pending, ← countP_eq_total, ← countP_eq_total, foreseen, List.countP_append,
    List.countP_map, ← List.length_drop]
  exact congrArg _ (List.countP_eq_length.mpr fun job _ => rfl)

lemma owed_eq (c : ClassRun) : c.owed = c.todo.countP ClassAction.isCountDown := by
  unfold owed todo
  cases c.phase <;> rfl

lemma foreseen_todo (findings : Findings) (c : ClassRun) :
    (c.foreseen findings).todo = c.foresee findings c.todo := by
  unfold foreseen todo
  cases c.phase <;> rfl

/-- By the plan the scenarios that are not going to be found have to be taken off the countdown. -/
lemma foreseen_owed (findings : Findings) (c : ClassRun) :
    (c.foreseen findings).owed = c.owed +
      ((c.todo.filterMap ClassAction.candidate?).filterMap
        (ClassPlan.failing? (findings c.place))).length := by
  have hstarts : ∀ jobs : List Job, (startAll 0 jobs).countP ClassAction.isCountDown = 0 := by
    intro jobs
    have := ClassPlan.countP_ending ⟨0, c.node, [], [], jobs⟩ 0
    rw [ClassPlan.ending, List.countP_append, Nat.add_eq_zero_iff] at this
    exact this.1
  rw [owed_eq, owed_eq, foreseen_todo, foresee]
  generalize c.todo = actions
  induction actions with
  | nil => rfl
  | cons action actions ih =>
      rw [List.flatMap_cons, List.countP_append, ih, List.countP_cons]
      cases hcandidate : action.candidate? with
      | some candidate =>
          have hnot : action.isCountDown = false := by
            cases action <;> simp_all [ClassAction.candidate?, ClassAction.isCountDown]
          rw [ClassAction.foreseen_of_candidate _ _ _ hcandidate, List.filterMap_cons_some hcandidate,
            hnot, if_neg Bool.false_ne_true, List.filterMap_cons, ClassPlan.failing?]
          cases findings c.place candidate with
          | ok environment => exact Nat.zero_add _
          | error e =>
              show 1 + _ = _ + (_ + 1)
              omega
      | none =>
          rw [List.filterMap_cons_none hcandidate]
          by_cases hlaunch : action = .launch
          · subst hlaunch
            rw [show ClassAction.foreseen _ _ _ .launch = startAll 0 _ from rfl, hstarts]
            exact Nat.zero_add _
          · rw [ClassAction.foreseen_of_plain ⟨hcandidate, hlaunch⟩, List.countP_singleton]
            omega

/-- **The scenarios of a class**: those that were found and those that were not, and those that are not
searched for, which are going to be found or not. -/
lemma Searched.lengths (h : c.Searched isSkipped lookups) (hagree : findings.Agree lookups)
    (hrunning : c.phase ≠ .crashed) :
    (ClassPlan.runnable isSkipped c.node).length =
        c.scenarios.length + lookups.countP (fun x => !x.found.isOk) + c.unsearched ∧
      c.unsearched + c.scenarios.length =
        (c.foreseenJobs findings).length +
          ((c.todo.filterMap ClassAction.candidate?).filterMap
            (ClassPlan.failing? (findings c.place))).length ∧
      c.scenarios.length ≤ (c.foreseenJobs findings).length := by
  have hahead := congrArg List.length (h.ahead hrunning)
  have hjobs := congrArg List.length (h.foreseenJobs_eq hagree hrunning)
  have hfound := congrArg List.length h.scenarios
  have hcandidates := ClassPlan.length_candidates (findings c.place) c.place
    (c.todo.filterMap ClassAction.candidate?)
  have hsplit : ∀ lookups : List Lookup, lookups.length =
      (lookups.filterMap Lookup.job?).length + lookups.countP fun x => !x.found.isOk := by
    intro lookups
    induction lookups with
    | nil => rfl
    | cons x lookups ih =>
        rw [List.length_cons, ih, List.filterMap_cons, List.countP_cons, Lookup.job?]
        cases x.found with
        | ok environment => exact Nat.add_right_comm ..
        | error e => rfl
  have hlength := hsplit lookups
  simp only [List.length_append, List.length_map] at hahead hjobs hfound
  rw [unsearched]
  omega

end Foreseen

end ClassRun

namespace ClassPlan

variable {σ : Type} {b : Backend σ} {options : RunOptions} {isSkipped : NodeId → Bool}
  {findings : Findings} {lookups : List Lookup} {group : Nat} {node : Node} {P : ClassPlan}
  {c : ClassRun} {o : Outside σ} {reached : Reached} {log : List Event}
  {stage : Job → Phase → List Event → Prop}

/-- The task of the class takes off the countdown at most the scenarios without an environment. -/
lemma Linked.owed_le (h : P.Linked c reached) (hprogram : c.program = P.prelude ++ P.ending 0) :
    c.owed ≤ P.failed.length := by
  have hstage := h.stage
  rw [ClassRun.owed]
  generalize c.phase = phase at hstage
  cases hstage with
  | waiting =>
      dsimp only
      rw [hprogram, List.countP_append, countP_prelude, countP_ending]
      exact Nat.le_refl _
  | @preparing done todo action hplan =>
      have hprelude := countP_prelude P
      rw [hplan, List.countP_append] at hprelude
      dsimp only
      rw [← List.cons_append, List.countP_append, countP_ending]
      omega
  | ready => simp [countP_ending]
  | granted => simp [countP_ending, ClassAction.isCountDown]
  | begun => simp [countP_ending, ClassAction.isCountDown]
  | entered => simp [countP_ending, ClassAction.isCountDown]
  | closing => simp [ClassAction.isCountDown]
  | finished => exact Nat.zero_le _
  | crashed => exact Nat.zero_le _

namespace FollowsBy

/-- The end of a class that is finished has been told. -/
lemma finish_mem (h : P.FollowsBy stage options c log) {verdict : Verdict}
    (hphase : c.phase = .finished verdict) :
    P.event (.finished (.ofVerdict verdict)) ∈ log := by
  obtain ⟨reached, tail, -, hlogged⟩ := h.logged
  rw [hlogged.log_eq, hphase]
  simp [lastWord]

/-- Until a class is finished, a scenario waits for the backend or some task can go on. -/
lemma canGoOn (h : P.FollowsBy stage options (c.foreseen findings) log)
    (hsearched : c.Searched isSkipped lookups) (hcrashed : c.phase ≠ .crashed)
    (hwaiting : c.phase ≠ .waiting) (hfinished : ∀ verdict, c.phase ≠ .finished verdict) :
    c.WaitsForBackend ∨ c.CanGoOn b options o := by
  by_contra hnone
  obtain ⟨hbackend, hstuck⟩ := not_or.mp hnone
  obtain ⟨htask, hscenarios⟩ := not_or.mp hstuck
  obtain ⟨reached, hlinked⟩ := h.linked
  have hcapacity : 0 < (c.foreseen findings).scope.capacity := by
    rw [h.capacity]
    omega
  have hall : ∀ l, (c.foreseen findings).advanceScenario? b options l o = none := by
    intro l
    rw [ClassRun.advanceScenario?_foreseen]
    cases hl : c.scenarios[l]? with
    | none => simp [ClassRun.advanceScenario?, hl]
    | some s =>
        have hawaits : s.phase.awaitsBackend = false := by
          rw [Bool.eq_false_iff]
          exact fun hawaits => hbackend ⟨l, s, hl, hawaits⟩
        rw [← Option.not_isSome_iff_eq_none, Option.isSome_map]
        exact fun hsome => hscenarios ⟨l, s, hl, hawaits, hsome⟩
  have hclass : (c.foreseen findings).advance? b o = none :=
    ClassRun.foreseen_of_none hsearched (Option.not_isSome_iff_eq_none.mp htask)
  rcases hlinked.cases_of_stuck h.balanced hcapacity hclass hall
    with hphase | hphase | ⟨⟨verdict, hphase⟩, -⟩
  · exact hwaiting ((ClassRun.foreseen_phase_iff (by simp)).mp hphase)
  · exact hcrashed ((ClassRun.foreseen_phase_iff (by simp)).mp hphase)
  · exact hfinished verdict ((ClassRun.foreseen_phase_iff (by simp)).mp hphase)

/-- **A class that follows its plan** is accounted for. -/
theorem accounted
    (h : (ofNode (findings group) isSkipped group node).FollowsBy stage options
      (c.foreseen findings) log)
    (hsearched : c.Searched isSkipped lookups) (hagree : findings.Agree lookups)
    (hlog : ∀ e ∈ log, e ∈ o.events) : c.Accounted b options isSkipped lookups o := by
  obtain ⟨reached, hlinked⟩ := h.linked
  have hplace : c.place = group := h.place
  have hnode : c.node = node := h.node
  have hphase : ∀ {phase : ClassPhase}, (∀ actions, phase ≠ .running actions) →
      ((c.foreseen findings).phase = phase ↔ c.phase = phase) := ClassRun.foreseen_phase_iff
  have hremaining : c.phase ≠ .crashed → c.scope.remaining = c.pending + c.owed + c.unsearched := by
    intro hcrashed
    have hplanned := h.balanced.remaining ((hphase (by simp)).not.mpr hcrashed)
    obtain ⟨-, hlengths, hle⟩ := hsearched.lengths hagree hcrashed
    rw [ClassRun.foreseen_pending, ClassRun.foreseen_owed] at hplanned
    show (c.foreseen findings).scope.remaining = _
    omega
  have hpermits : (c.foreseen findings).scope.free + (c.foreseen findings).held =
      max options.concurrency 1 := h.capacity ▸ h.balanced.permits
  rw [ClassRun.foreseen_held] at hpermits
  refine
    { permits := hpermits, gate := fun hcrashed => h.gate ((hphase (by simp)).mpr hcrashed)
      remaining := hremaining, complete := fun hcrashed => ?_
      positive := fun hcrashed hcounts => ?_, zero := fun hcrashed hzero => ?_
      progress := fun hcrashed hwaiting hopen => ?_ }
  · have hpending : c.pending + c.scenarios.countP (fun s => !s.phase.isCounted) =
        c.scenarios.length := by
      rw [ClassRun.pending, ← countP_eq_total (fun s : ScenarioRun => s.phase.isCounted)]
      simpa using (List.length_eq_countP_add_countP (l := c.scenarios)
        (fun s : ScenarioRun => s.phase.isCounted)).symm
    obtain ⟨hall, hlengths, -⟩ := hsearched.lengths hagree hcrashed
    have hjobs : (c.foreseenJobs findings).length =
        (ofNode (findings group) isSkipped group node).jobs.length := by
      rw [ClassRun.foreseenJobs, hsearched.program, hplace, hnode]
      rfl
    have hcandidates := length_candidates (findings group) group (runnable isSkipped node)
    have howed := hlinked.owed_le h.program
    rw [ClassRun.foreseen_owed] at howed
    rw [hremaining hcrashed, ClassRun.released]
    rw [hnode] at hall ⊢
    simp only [ofNode] at hjobs howed
    omega
  · rw [hremaining hcrashed]
    rcases hcounts with ⟨rest, hphase⟩ | ⟨l, job, hl⟩
    · have howed : 0 < c.owed := by
        simp [ClassRun.owed, hphase, ClassAction.isCountDown]
      omega
    · have hpending := ClassRun.pending_pos hl rfl
      omega
  · rw [hremaining hcrashed] at hzero
    have hpending : c.pending = 0 := by omega
    exact ⟨by omega, by omega, fun l s hl => ClassRun.done_of_pending_eq_zero hpending hl⟩
  · refine h.canGoOn hsearched hcrashed hwaiting fun verdict hfinished => ?_
    have hmem := h.finish_mem ((hphase (by simp)).mpr hfinished)
    have hfinish := hopen _ (hlog _ hmem) (congrArg Subject.classAt hplace.symm)
    exact absurd hfinish.symm Bool.false_ne_true

end FollowsBy

end ClassPlan

namespace Run

variable {σ : Type} {r : Run σ}

/-- **The accounts of a class are in order at every moment.**  Whichever way the tasks are scheduled,
and wherever tasks of scenarios are cut off, every permit of the gate is free or held by one
scenario, the countdown is the number of scenarios that are not off it, and until the end of the
class is told some scenario waits for the backend or some task of the class can go on. -/
theorem accounted_of_reaches (b : Backend σ) (options : RunOptions) (request : RunRequest) (s : σ)
    {choices : List Choice} (hreaches : Reaches b options (ofRequest options request s) choices r)
    (hmild : ∀ choice ∈ choices, choice.IsMild) {k : Nat} {c : ClassRun}
    (hk : r.classes[k]? = some c) :
    request.root.children[c.place]? = some c.node ∧ request.skip.contains c.node.id = false ∧
      c.Accounted b options request.skip.contains
        (((ofRequest options request s).lookups b options choices).filter
          fun x => x.group == c.place) r.outside := by
  obtain ⟨findings, hagree, -⟩ := hreaches.exists_findings
  have hkeeps := keeps_fate_of_proceeds (hreaches.proceeds_mildly hmild hagree)
  obtain ⟨P, hP, hfollows⟩ := hkeeps.exists_plan (foreseen_getElem? findings hk)
  obtain ⟨node, i, hchild, hskip, rfl⟩ := RunRequest.mem_plans.mp (List.mem_of_getElem? hP)
  obtain ⟨p, -, -, hpplace, hsearched⟩ := (searched_of_reaches hreaches).exists_placed hk
  have hplace : c.place = i := hfollows.place
  have hnode : c.node = node := hfollows.node
  rw [← hpplace] at hsearched
  have haccounted := hfollows.accounted (b := b) (o := r.outside) hsearched
    (fun x hx => hagree x (List.mem_filter.mp hx).1) fun e he => (List.mem_filter.mp he).1
  rw [hplace, hnode] at *
  exact ⟨hchild, hskip, haccounted⟩

/-- The first job is launched and cut off, and its end is told for it. -/
def untilRescued : List Choice :=
  List.replicate 2 (.advance .engine) ++ List.replicate 15 (.advance (.classTask 0)) ++
    [.crash (.scenarioTask 0 0) "interrupted"] ++ List.replicate 3 (.advance (.scenarioTask 0 0))

/-- The permit of a scenario that was cut off is free again, and the scenario is on the countdown. -/
theorem accounted_of_reaches_rescued :
    ∃ r c lookups,
      Reaches oneEnvironment.backend {} (ofRequest {} twoClasses .initial) untilRescued r ∧
      (∀ choice ∈ untilRescued, choice.IsMild) ∧ r.classes[0]? = some c ∧
      c.scope.free = 1 ∧ c.scope.remaining = 1 ∧
      c.Accounted oneEnvironment.backend {} twoClasses.skip.contains lookups r.outside := by
  have hsome : (untilRescued.foldlM (step? oneEnvironment.backend {})
      (ofRequest {} twoClasses .initial)).any (fun r =>
        (r.classes[0]?).any fun c => c.scope.free == 1 && c.scope.remaining == 1) = true := by
    decide +kernel
  obtain ⟨r, hr, hfirst⟩ := (Option.any_eq_true _ _).mp hsome
  obtain ⟨c, hc, hcounts⟩ := (Option.any_eq_true _ _).mp hfirst
  obtain ⟨hfree, hremaining⟩ := Bool.and_eq_true_iff.mp hcounts
  have hreaches := reaches_of_foldlM hr
  have hmild : ∀ choice ∈ untilRescued, choice.IsMild := by
    simp [untilRescued, Choice.IsMild, or_imp, forall_and]
  have haccounted :=
    accounted_of_reaches oneEnvironment.backend {} twoClasses .initial hreaches hmild hc
  exact ⟨r, c, _, hreaches, hmild, hc, beq_iff_eq.mp hfree, beq_iff_eq.mp hremaining,
    haccounted.2.2⟩

end Run

end ScenarioRunner

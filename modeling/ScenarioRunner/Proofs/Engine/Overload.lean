import ScenarioRunner.Proofs.Engine.Census

/-!
# Runs without gates

What becomes of a run if no gate of its capacity can be made.

* `ClassRun.Gateless` is the invariant of a class: it comes no further than to its gate.
  `ClassPlan.FollowsGateless` and `Run.keeps_gateless_of_proceeds` keep it in every run.
* `ClassPlan.FollowsBy.log_of_crashed`: a class that is cut off there has told its start and the
  scenarios that are skipped.
* `Run.verdict_of_gateless` and `Run.silent_of_gateless`: such a run fails at its end, but it tells
  no end of any scenario.
-/

namespace ScenarioRunner

/-! ## Classes that come to no gate -/

/-- The class has not come past its gate. -/
def ClassRun.Gateless (c : ClassRun) : Prop :=
  c.phase = .waiting ∨ c.phase = .crashed ∨
    ∃ actions, c.phase = .running actions ∧ ClassAction.openGate ∈ actions

namespace ClassPlan

variable {σ : Type} {b : Backend σ} {options : RunOptions} {P : ClassPlan} {c c' : ClassRun}
  {o o' : Outside σ} {reached reached' : Reached} {log : List Event}

/-- What the task of a class does before it makes the gate. -/
def overture (P : ClassPlan) : List ClassAction :=
  .emit (P.event .started) ::
    P.skipped.map fun c => .emit (c.event P.place (.skipped skipReason))

lemma prelude_eq (P : ClassPlan) :
    P.prelude = P.overture ++
      .openGate :: P.failed.flatMap fun f => ClassRun.failActions P.place f.1 f.2 := by
  simp only [prelude, overture, List.append_assoc, List.cons_append, List.nil_append]

/-- There is one gate. -/
lemma eq_overture {done todo : List ClassAction} (h : P.prelude = done ++ .openGate :: todo) :
    done = P.overture := by
  have hbefore : ClassAction.openGate ∉ P.overture := by simp [overture]
  have hbehind :
      ClassAction.openGate ∉ P.failed.flatMap fun f => ClassRun.failActions P.place f.1 f.2 := by
    simp [ClassRun.failActions]
  rw [prelude_eq] at h
  exact ((List.append_cons_inj_of_notMem hbefore hbehind).mp h).1.symm

lemma openGate_not_mem_ending (P : ClassPlan) (k : Nat) : ClassAction.openGate ∉ P.ending k := by
  intro h
  rcases cases_of_mem_ending h with ⟨_, h⟩ | ⟨_, h⟩ | ⟨_, h⟩ | ⟨_, h⟩ | h | h <;>
    exact ClassAction.noConfusion h

/-- **A step of the task of a class** does not come past a gate that cannot be made. -/
theorem TaskStep.gateless (hstep : P.TaskStep c o reached c' o' reached')
    (hcapacity : ClassScope.limit < c.scope.capacity) (h : c.Gateless) : c'.Gateless := by
  have hmem : ∀ {actions}, c.phase = .running actions → ClassAction.openGate ∈ actions := by
    intro actions hphase
    obtain hwaiting | hcrashed | ⟨actions', hrunning, hgate⟩ := h
    · exact ClassPhase.noConfusion (hphase.symm.trans hwaiting)
    · exact ClassPhase.noConfusion (hphase.symm.trans hcrashed)
    · exact ClassPhase.running.inj (hphase.symm.trans hrunning) ▸ hgate
  -- only the steps of the prelude have the gate still before them
  cases hstep with
  | @prepared done todo action hplan hphase hgate =>
      have hne : ClassAction.openGate ≠ action := fun heq =>
        Nat.not_lt_of_le (hgate heq.symm) hcapacity
      exact Or.inr (Or.inr ⟨_, rfl, (List.mem_cons.mp (hmem hphase)).resolve_left hne⟩)
  | overloaded => exact Or.inr (Or.inl rfl)
  | granted hjob hphase => exact absurd (hmem hphase) (P.openGate_not_mem_ending _)
  | begun hjob hphase => exact absurd (hmem hphase) (by simp [P.openGate_not_mem_ending])
  | entered hjob hphase => exact absurd (hmem hphase) (by simp [P.openGate_not_mem_ending])
  | launched hjob hphase => exact absurd (hmem hphase) (by simp [P.openGate_not_mem_ending])
  | awaited hphase => exact absurd (hmem hphase) (by simp)
  | closed hphase => exact absurd (hmem hphase) (by simp)

/-- What a run without gates keeps of its classes: they follow their plans, and come no further than
to their gates. -/
structure FollowsGateless (options : RunOptions) (P : ClassPlan) (c : ClassRun)
    (log : List Event) : Prop where
  follows : P.Follows options c log
  gateless : c.Gateless

lemma FollowsGateless.begin (h : P.FollowsGateless options c log) :
    P.FollowsGateless options c.begin log := by
  refine ⟨h.follows.begin, ?_⟩
  unfold ClassRun.begin
  split
  · refine Or.inr (Or.inr ⟨_, rfl, ?_⟩)
    rw [h.follows.program, prelude_eq]
    simp
  · exact h.gateless

/-- A class that is cut off at its gate has told its start and the scenarios that are skipped. -/
lemma FollowsBy.log_of_crashed {stage : Job → Phase → List Event → Prop}
    (h : P.FollowsBy stage options c log) (hcrashed : c.phase = .crashed) :
    log = toldBy P.overture := by
  obtain ⟨reached, tail, hlinked, hlogged⟩ := h.logged
  have hstage := hlinked.stage
  have hlog := hlogged.log_eq
  rw [hcrashed] at hstage hlog
  cases hstage with
  | crashed hplan =>
      rw [hlogged.tail_eq_nil hlinked rfl, eq_overture hplan] at hlog
      simpa [lastWord, Reached.before] using hlog

end ClassPlan

/-! ## Runs -/

namespace Run

variable {σ : Type} {b : Backend σ} {options : RunOptions} {request : RunRequest}
  {findings : Findings} {r : Run σ} {s : σ} {choices : List Choice}

/-- **Every run** whose gates cannot be made keeps this if no task is cut off. -/
theorem keeps_gateless_of_proceeds
    (hproceeds : Proceeds (fun _ => Choice.IsQuiet) b options (planned findings options request s)
      choices r) (hlimit : ClassScope.limit < max options.concurrency 1) :
    r.Keeps (ClassPlan.FollowsGateless options) findings options request := by
  refine hproceeds.induct
    (keeps_planned findings options request s fun i node => ⟨?_, Or.inl rfl⟩) ?_
    fun h _ => h.consult _
  · exact ClassPlan.followsBy_planned (Job.course_stageBy ..) (findings i) options
      request.skip.contains i node
  · rintro r r' _ h ⟨actor, rfl⟩ hstep
    have hmild : (Choice.advance actor).IsMild := trivial
    refine h.step hmild hstep (fun h => h.begin) fun hP _ hgateless hturn => ?_
    obtain ⟨hrunning, hgoes, more, hevents, hwithin, hfollows⟩ :=
      goesOn_of_turn (List.mem_of_getElem? hP) hgateless.follows hturn
    refine ⟨hrunning, hgoes, more, hevents, hwithin, hfollows, ?_⟩
    cases hturn with
    | task hadvance =>
        obtain ⟨reached, hlinked⟩ := hgateless.follows.linked
        obtain ⟨reached', hstep, -⟩ := ClassPlan.taskStep_of_advance hlinked.stage hadvance
        exact hstep.gateless (hgateless.follows.capacity ▸ hlimit) hgateless.gateless
    | scenario hadvance =>
        obtain ⟨job, phase, phase', scope', -, -, rfl⟩ :=
          ClassRun.scenarioStep_of_advance hadvance
        exact hgateless.gateless

variable (hkeeps : r.Keeps (ClassPlan.FollowsGateless options) findings options request)
  (hstuck : r.Stuck b options)

include hkeeps hstuck

/-- Every class of such a run is cut off at its gate. -/
lemma crashed_of_gateless {c : ClassRun} (hc : c ∈ r.classes) : c.phase = .crashed := by
  obtain ⟨-, hover⟩ := hkeeps.closed_of_stuck (fun h => ⟨_, h.follows⟩) hstuck
  have hover := hover c hc
  obtain ⟨k, hk⟩ := List.getElem?_of_mem hc
  obtain ⟨P, -, h⟩ := hkeeps.exists_plan hk
  obtain hwaiting | hcrashed | ⟨actions, hrunning, -⟩ := h.gateless
  · simp [ClassRun.isOver, hwaiting] at hover
  · exact hcrashed
  · simp [ClassRun.isOver, hrunning] at hover

/-- **A run without gates fails** if it has a class. -/
theorem verdict_of_gateless (hclass : request.plans findings ≠ []) : r.verdict = .failure := by
  obtain ⟨P, hP⟩ := List.exists_mem_of_ne_nil _ hclass
  obtain ⟨k, hk⟩ := List.getElem?_of_mem hP
  obtain ⟨c, hc, -⟩ := hkeeps.classes hk
  have hmem := List.mem_of_getElem? hc
  refine (Verdict.foldl_worse_eq_failure_iff ..).mpr (Or.inr ⟨c, hmem, ?_⟩)
  rw [ClassRun.outcome, crashed_of_gateless hkeeps hstuck hmem]

/-- **A run without gates** tells no end of a scenario. -/
theorem silent_of_gateless {e : Event} (he : e ∈ r.outside.events) :
    e.IsAt request.root ∧ e.finishesScenario = false := by
  obtain ⟨⟨htold, -⟩, -⟩ := hkeeps.closed_of_stuck (fun h => ⟨_, h.follows⟩) hstuck
  obtain hengines | ⟨P, hP, hown⟩ := mem_enginesLog_or_mem_logOf findings request he
  · refine ⟨isAt_of_mem_enginesLog htold hengines, ?_⟩
    rcases cases_of_mem_enginesLog htold hengines with rfl | ⟨c, -, rfl⟩ | rfl <;> rfl
  · obtain ⟨k, hk⟩ := List.getElem?_of_mem hP
    obtain ⟨c, hc, h⟩ := hkeeps.classes hk
    have hcrashed := crashed_of_gateless hkeeps hstuck (List.mem_of_getElem? hc)
    rw [h.follows.log_of_crashed hcrashed] at hown
    obtain ⟨node, i, hchild, -, rfl⟩ := RunRequest.mem_plans.mp hP
    have hprelude :
        e ∈ ClassPlan.toldBy
          (ClassPlan.ofNode (findings i) request.skip.contains i node).prelude := by
      rw [ClassPlan.prelude_eq, ClassPlan.toldBy_append]
      exact List.mem_append_left _ hown
    constructor
    · exact ClassPlan.isAt_of_mem_prelude hchild hprelude
    · rw [ClassPlan.overture, ClassPlan.toldBy, List.mem_filterMap] at hown
      obtain ⟨action, haction, hevent⟩ := hown
      rw [List.mem_cons, List.mem_map] at haction
      obtain rfl | ⟨c, -, rfl⟩ := haction <;> obtain rfl := Option.some.inj hevent <;> rfl

end Run

end ScenarioRunner

import ScenarioRunner.Proofs.Engine.RunLog

/-!
# Tasks that are cut off

What a scenario tells if its task may be cut off, and what a run keeps if tasks of scenarios may be
cut off at any moment.

* `Job.Fate` relates how far the task of a scenario is to the events told of the scenario: the task
  is on its course, or it was cut off, when its end is told for it.
* `Job.Fate.passes_step` and `Job.Fate.passes_cut`: every turn takes a fate to a fate.
* `Run.keeps_fate_of_proceeds`: whichever way tasks are scheduled, and wherever tasks of scenarios are
  cut off, every class follows its plan.

The end of a scenario that was cut off may get lost: it is told only if the scenario is still in
flight, and telling it may be cut off as well.  A fate has a parameter that says whether this may
happen.
-/

namespace ScenarioRunner

namespace Job

variable {σ : Type} {b : Backend σ} {options : RunOptions} {job : Job} {lossy : Prop}
  {phase phase' : Phase} {scope scope' : ClassScope} {o o' : Outside σ}

/-- **The fate of a scenario**: the phase of its task and the events told of it, if its task may be
cut off.  With `lossy`, its end may get lost. -/
inductive Fate (lossy : Prop) (options : RunOptions) (job : Job) : Phase → List Event → Prop where
  | onCourse {phase : Phase} {events : List Event} (hstage : job.Stage options phase events) :
    Fate lossy options job phase events
  | rescuing (reason : String) {inner : List Event} (hinner : ∀ e ∈ inner, job.IsInner e) :
    Fate lossy options job (.rescuing reason) (job.event .started :: inner)
  | telling (reason : String) {inner : List Event} (hinner : ∀ e ∈ inner, job.IsInner e) :
    Fate lossy options job (.telling reason) (job.event .started :: inner)
  | rescued (reason : String) {phase : Phase} {inner : List Event}
    (hphase : phase = .releasing ∨ phase = .counting ∨ phase = .done)
    (hinner : ∀ e ∈ inner, job.IsInner e) :
    Fate lossy options job phase
      (job.event .started :: inner ++ [job.event (.finished (ClassRun.lost reason))])
  | muted {phase : Phase} {inner : List Event} (hlossy : lossy)
    (hphase : phase = .releasing ∨ phase = .counting ∨ phase = .done)
    (hinner : ∀ e ∈ inner, job.IsInner e) :
    Fate lossy options job phase (job.event .started :: inner)

lemma course_fate (lossy : Prop) (options : RunOptions) : Course (Fate lossy options) where
  waiting _ := .onCourse .waiting
  granted _ := .onCourse .granted
  begun _ := .onCourse .begun
  submitting _ := .onCourse .submitting
  cases_granted := by
    intro job events h
    cases h with
    | onCourse hstage => exact (course_stageBy _ options).cases_granted hstage
    | rescued _ hphase => simp at hphase
    | muted _ hphase => simp at hphase
  not_launched := by
    intro job phase h
    cases h with
    | onCourse hstage => exact (course_stageBy _ options).not_launched hstage

namespace Fate

/-- A step of a task takes a fate to a fate.  If no end may get lost, the task of a scenario that was
cut off must find it in flight. -/
theorem passes_step (hstep : ClassRun.ScenarioStep b options job phase scope o phase' scope' o')
    (hkept : lossy ∨ ∀ reason, phase = .rescuing reason →
      (scope.leave job.node.id .failure).1 = true) :
    job.Passes (Fate lossy options) phase o phase' o' := by
  intro events h
  cases h with
  | onCourse hstage =>
      obtain ⟨more, hevents, hmore, hstage'⟩ :=
        StageBy.passes hstep (replies_trivial ..) hstage
      exact ⟨more, hevents, hmore, .onCourse hstage'⟩
  | rescuing reason hinner =>
      cases hstep with
      | rescued =>
          refine ⟨[], by simp, by simp, ?_⟩
          rw [List.append_nil]
          split
          · exact .telling reason hinner
          · next hnot =>
            have hlossy := hkept.resolve_right fun hflight => hnot (hflight reason rfl)
            exact .muted hlossy (Or.inl rfl) hinner
  | telling reason hinner =>
      cases hstep with
      | told =>
          refine ⟨_, rfl, fun e he => ?_, .rescued reason (Or.inl rfl) hinner⟩
          obtain rfl := List.mem_singleton.mp he
          exact ⟨covers_event .., rfl⟩
  | rescued reason hphase hinner =>
      have hnext : phase' = .releasing ∨ phase' = .counting ∨ phase' = .done := by
        cases hstep <;> simp at hphase ⊢
      refine ⟨[], ?_, by simp, by simpa using .rescued reason hnext hinner⟩
      cases hstep <;> simp at hphase ⊢
  | muted hlossy hphase hinner =>
      have hnext : phase' = .releasing ∨ phase' = .counting ∨ phase' = .done := by
        cases hstep <;> simp at hphase ⊢
      refine ⟨[], ?_, by simp, by simpa using .muted hlossy hnext hinner⟩
      cases hstep <;> simp at hphase ⊢

/-- Cutting a task off takes a fate to a fate.  If no end may get lost, it must not be about to be
told. -/
theorem passes_cut (reason : String) (hexposed : phase.isExposed = true)
    (hkept : lossy ∨ ∀ reason, phase ≠ .telling reason) :
    job.Passes (Fate lossy options) phase o (phase.cutOff reason) o := by
  intro events h
  refine ⟨[], (List.append_nil _).symm, by simp, ?_⟩
  rw [List.append_nil]
  cases h with
  | onCourse hstage =>
      cases hstage with
      | waiting => exact absurd hexposed Bool.false_ne_true
      | granted => exact absurd hexposed Bool.false_ne_true
      | begun => exact absurd hexposed Bool.false_ne_true
      | submitting => exact .rescuing reason (by simp)
      | opening => exact .rescuing reason (by simp)
      | @acting opened done rest hactions =>
          cases rest with
          | nil => exact absurd hexposed Bool.false_ne_true
          | cons action rest =>
              exact .rescuing reason fun e he => isInner_of_unfinished hactions he
      | complete opened hphase =>
          rcases hphase with rfl | rfl | rfl <;> exact absurd hexposed Bool.false_ne_true
  | rescuing => exact absurd hexposed Bool.false_ne_true
  | telling reason hinner =>
      exact .muted (hkept.resolve_right fun hnot => hnot reason rfl) (Or.inl rfl) hinner
  | rescued _ hphase => rcases hphase with rfl | rfl | rfl <;> exact absurd hexposed Bool.false_ne_true
  | muted _ hphase => rcases hphase with rfl | rfl | rfl <;> exact absurd hexposed Bool.false_ne_true

end Fate

end Job

namespace Run

variable {σ : Type} {b : Backend σ} {options : RunOptions} {request : RunRequest}
  {findings : Findings} {r : Run σ}

/-- A turn that cuts off no task but that of a scenario keeps a class on its plan. -/
lemma goesOn_fate_of_turn {k : Nat} {P : ClassPlan} {c c' : ClassRun} {o' : Outside σ}
    {choice : Choice} {log : List Event} (hP : P ∈ request.plans findings)
    (h : P.FollowsBy (Job.Fate True options) options c log)
    (hturn : r.Turn b options k c choice c' o') :
    P.GoesOn (ClassPlan.FollowsBy (Job.Fate True options) options) c r.outside log c' o' := by
  have hcourse := Job.course_fate True options
  cases hturn with
  | task hadvance => exact h.task hcourse (Keeps.wellPlaced hP) hadvance
  | scenario hadvance =>
      obtain ⟨job, phase, phase', scope', hl, hstep, rfl⟩ :=
        ClassRun.scenarioStep_of_advance hadvance
      exact h.scenario hcourse (Keeps.wellPlaced hP) hl (.step hstep)
        (Job.Fate.passes_step hstep (Or.inl trivial))
  | cut hcrash =>
      obtain ⟨job, phase, hl, hexposed, rfl⟩ := ClassRun.exposed_of_crash hcrash
      exact h.scenario (b := b) hcourse (Keeps.wellPlaced hP) hl (.cut _ hexposed)
        (Job.Fate.passes_cut _ hexposed (Or.inl trivial))

/-- **Every run** follows its plan if no task but those of scenarios is cut off. -/
theorem keeps_fate_of_proceeds {s : σ} {choices : List Choice}
    (hproceeds : Proceeds (fun _ => Choice.IsMild) b options (planned findings options request s)
      choices r) :
    r.Keeps (ClassPlan.FollowsBy (Job.Fate True options) options) findings options request := by
  refine hproceeds.induct (keeps_planned findings options request s fun i node => ?_) ?_
    fun h _ => h.consult _
  · exact ClassPlan.followsBy_planned (Job.course_fate ..) (findings i) options
      request.skip.contains i node
  · intro r r' choice h hallowed hstep
    refine h.step hallowed hstep (fun h => h.begin) fun hP _ hfollows hturn => ?_
    exact goesOn_fate_of_turn (List.mem_of_getElem? hP) hfollows hturn

/-- A run in which no task but those of scenarios is cut off goes by its plan. -/
lemma Reaches.proceeds_mildly {s : σ} {choices : List Choice}
    (hreaches : Reaches b options (ofRequest options request s) choices r)
    (hmild : ∀ choice ∈ choices, choice.IsMild)
    (hagree : findings.Agree ((ofRequest options request s).lookups b options choices)) :
    Proceeds (fun _ => Choice.IsMild) b options (planned findings options request s) choices
      (r.foreseen findings) :=
  proceeds_of_reaches (hreaches.reachesBy hmild) hagree fun hallowed => ⟨hallowed, hallowed⟩

end Run

end ScenarioRunner

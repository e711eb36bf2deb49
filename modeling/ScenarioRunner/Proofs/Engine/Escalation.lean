import ScenarioRunner.Proofs.Engine.Aggregation

/-!
# How failures are passed up

A scenario that fails makes its class fail, and a class that fails makes the engine fail.  Nothing
else does, and nothing gets lost, whichever way the tasks are scheduled.

* `Ended`: the end of a subject has been told, with a verdict.
* `RunRequest.Escalates` says it of the events so far, and `RunRequest.Concluded` which ends there are
  when no task can go on.
* `ClassPlan.FollowsBy.cases_of_mem` sorts the events of a class, and `Run.Keeps.cases_of_mem` those of
  the engine: each end that they tell comes with the verdict that the class or the run has then.
* `Run.escalates_of_reaches`: failures are passed up in every run that is reached.
-/

namespace ScenarioRunner

/-- The end of a subject has been told, with a verdict. -/
def Ended (events : List Event) (subject : Subject) (verdict : Verdict) : Prop :=
  ∃ node result, ⟨subject, node, .finished result⟩ ∈ events ∧ result.verdict = verdict

namespace RunRequest

/-- **How failures are passed up** in what has been told. -/
structure Escalates (request : RunRequest) (events : List Event) : Prop where
  /-- A class fails exactly if one of its scenarios has failed. -/
  ofClass : ∀ {i : Nat} {verdict : Verdict}, Ended events (.classAt i) verdict →
    (verdict = .failure ↔ ∃ j, Ended events (.scenarioAt i j) .failure)
  /-- The engine fails exactly if one of the classes has failed. -/
  ofEngine : ∀ {verdict : Verdict}, Ended events .engine verdict →
    (verdict = .failure ↔ ∃ i, Ended events (.classAt i) .failure)
  /-- Neither a class that is skipped nor anything below it comes to an end. -/
  skippedClass : ∀ {i : Nat} {node : Node}, request.root.children[i]? = some node →
    request.skip.contains node.id = true →
    ∀ {subject : Subject}, subject.isWithinClass i = true → ∀ verdict, ¬ Ended events subject verdict
  /-- Neither a scenario that is skipped nor anything below it comes to an end. -/
  skippedScenario : ∀ {i j : Nat} {node child : Node}, request.root.children[i]? = some node →
    node.children[j]? = some child → request.skip.contains child.id = true →
    ∀ {subject : Subject}, subject.isWithinScenario i j = true →
      ∀ verdict, ¬ Ended events subject verdict

/-- The engine and all classes that are not skipped have come to an end. -/
structure Concluded (request : RunRequest) (events : List Event) : Prop where
  engine : ∃ verdict, Ended events .engine verdict
  classes : ∀ {i : Nat} {node : Node}, request.root.children[i]? = some node →
    request.skip.contains node.id = false → ∃ verdict, Ended events (.classAt i) verdict

end RunRequest

/-- The failures of scenarios among the events are their ends with that verdict. -/
lemma exists_failsScenario_iff {events : List Event} {i : Nat} :
    (∃ e ∈ events.filter (fun e => e.subject.isWithinClass i), e.failsScenario = true) ↔
      ∃ j, Ended events (.scenarioAt i j) .failure := by
  constructor
  · rintro ⟨⟨subject, node, change⟩, he, hfails⟩
    obtain ⟨htold, hwithin⟩ := List.mem_filter.mp he
    unfold Event.failsScenario at hfails
    split at hfails
    · next k j result hsubject hchange =>
      dsimp only at hsubject hchange
      subst hsubject hchange
      obtain rfl : k = i := beq_iff_eq.mp hwithin
      exact ⟨j, node, result, htold, of_decide_eq_true hfails⟩
    · exact absurd hfails Bool.false_ne_true
  · rintro ⟨j, node, result, he, hresult⟩
    refine ⟨_, List.mem_filter.mpr ⟨he, beq_self_eq_true i⟩, ?_⟩
    simp [Event.failsScenario, hresult]

/-! ## What a class tells -/

namespace ClassPlan

variable {options : RunOptions} {P : ClassPlan} {c : ClassRun} {log : List Event} {e : Event}
  {stage : Job → Phase → List Event → Prop} {verdict : Verdict}

/-- **The events of a class** belong to its prelude or to one of its jobs, or tell its end. -/
lemma FollowsBy.cases_of_mem (h : P.FollowsBy stage options c log) (he : e ∈ log) :
    e ∈ toldBy P.prelude ∨ (∃ job ∈ P.jobs, job.Covers e) ∨
      ∃ verdict, c.phase = .finished verdict ∧ e = P.event (.finished (.ofVerdict verdict)) := by
  obtain ⟨reached, tail, hlinked, hlogged⟩ := h.logged
  rw [hlogged.log_eq, List.mem_append, List.mem_append] at he
  rcases he with (htold | htail) | hlast
  · rcases hlinked.told_cases with heq | ⟨hfront, -⟩
    · exact Or.inl (heq ▸ htold)
    · exact Or.inl (hfront.subset htold)
  · exact Or.inr (Or.inl (hlogged.covered e htail))
  · unfold lastWord at hlast
    split at hlast
    · next verdict hphase => exact Or.inr (Or.inr ⟨verdict, hphase, List.mem_singleton.mp hlast⟩)
    · exact absurd hlast List.not_mem_nil

/-- A class that is finished has told its end. -/
lemma FollowsBy.end_mem (h : P.FollowsBy stage options c log) (hphase : c.phase = .finished verdict) :
    P.event (.finished (.ofVerdict verdict)) ∈ log := by
  obtain ⟨reached, tail, -, hlogged⟩ := h.logged
  rw [hlogged.log_eq, hphase]
  exact List.mem_append_right _ (List.mem_singleton_self _)

/-- A class tells its end only when it is finished. -/
lemma FollowsBy.phase_of_ended (h : P.FollowsBy stage options c log) {i : Nat}
    (hended : Ended log (.classAt i) verdict) : i = P.place ∧ c.phase = .finished verdict := by
  obtain ⟨node, result, he, rfl⟩ := hended
  rcases h.cases_of_mem he with hprelude | ⟨job, -, hcovers⟩ | ⟨verdict, hphase, heq⟩
  · rw [toldBy_prelude, List.mem_append, List.mem_cons, List.mem_map, List.mem_flatMap] at hprelude
    rcases hprelude with (heq | ⟨c', -, heq⟩) | ⟨f, -, hf⟩
    · exact Change.noConfusion (Event.mk.inj heq).2.2
    · exact Subject.noConfusion (Event.mk.inj heq).1
    · simp [Candidate.event] at hf
  · exact absurd hcovers Bool.false_ne_true
  · obtain ⟨hsubject, -, hchange⟩ := Event.mk.inj heq
    obtain rfl := Change.finished.inj hchange
    exact ⟨Subject.classAt.inj hsubject, hphase⟩

/-- **The verdict of a class** at its end is a failure exactly if it has told that a scenario
failed. -/
theorem FollowsAgreed.verdict_eq_failure_iff (h : P.FollowsAgreed options c log)
    (hphase : c.phase = .finished verdict) :
    verdict = .failure ↔ ∃ e ∈ log, e.failsScenario = true := by
  have hpending := h.follows.balanced.waited (Or.inr ⟨verdict, hphase⟩)
  rw [h.follows.verdict hphase]
  exact h.agreed.of_done hphase fun _ _ hl => ClassRun.done_of_pending_eq_zero hpending hl

/-- Nothing is finished at or below a scenario that is skipped. -/
lemma FollowsBy.not_ended_of_skipped {found : Candidate → Except Error Environment}
    {isSkipped : NodeId → Bool} {i j : Nat} {node child : Node}
    (h : (ofNode found isSkipped i node).FollowsBy stage options c log)
    (hchild : node.children[j]? = some child) (hskipped : isSkipped child.id = true)
    {subject : Subject} (hwithin : subject.isWithinScenario i j = true) :
    ¬ Ended log subject verdict := by
  have hnot : ∀ {candidate : Candidate}, candidateAt? node candidate.place = some candidate →
      isSkipped candidate.node.id = false → candidate.place ≠ j := by
    rintro ⟨place, node', source⟩ hat hrunnable rfl
    simp only [candidateAt?, Option.bind_eq_bind, Option.bind_eq_some_iff, Option.some.injEq,
      Candidate.mk.injEq, true_and] at hat
    obtain ⟨_, hchild', _, -, rfl, -⟩ := hat
    obtain rfl := Option.some.inj (hchild.symm.trans hchild')
    exact absurd hskipped (by simp [hrunnable])
  rintro ⟨node', result, he, -⟩
  rcases h.cases_of_mem he with hprelude | ⟨job, hjob, hcovers⟩ | ⟨verdict, -, heq⟩
  · rw [toldBy_prelude, List.mem_append, List.mem_cons, List.mem_map, List.mem_flatMap] at hprelude
    rcases hprelude with (heq | ⟨c', -, heq⟩) | ⟨⟨candidate, error⟩, hf, he⟩
    · exact Change.noConfusion (Event.mk.inj heq).2.2
    · exact Change.noConfusion (Event.mk.inj heq).2.2
    · obtain ⟨hat, hrunnable, -⟩ := failed_iff.mp hf
      have hsubject : subject = .scenarioAt i candidate.place := by
        simp only [List.mem_cons, List.not_mem_nil, or_false] at he
        rcases he with heq | heq <;> exact (Event.mk.inj heq).1
      rw [hsubject] at hwithin
      exact hnot hat hrunnable (beq_iff_eq.mp (Bool.and_eq_true_iff.mp hwithin).2)
  · obtain ⟨candidate, environment, hat, hrunnable, -, rfl⟩ := jobs_iff.mp hjob
    have hplace : candidate.place = j := by
      unfold Job.Covers at hcovers
      unfold Subject.isWithinScenario at hcovers hwithin
      cases subject <;> simp_all [Candidate.job]
    exact hnot hat hrunnable hplace
  · rw [(Event.mk.inj heq).1] at hwithin
    exact absurd hwithin Bool.false_ne_true

end ClassPlan

/-! ## What the engine tells -/

namespace Run

variable {σ : Type} {b : Backend σ} {options : RunOptions} {request : RunRequest}
  {findings : Findings} {r : Run σ} {inv : ClassPlan → ClassRun → List Event → Prop}

/-- **The events of the engine** are its start, the classes that are skipped, and its end, which comes
when every class is over. -/
lemma Keeps.cases_of_mem (h : r.Keeps inv findings options request) {e : Event}
    (he : e ∈ r.enginesLog request) :
    e = request.event .started ∨ (∃ c ∈ request.placed true, e = RunRequest.skippedEvent c) ∨
      e = request.event (.finished (.ofVerdict r.verdict)) ∧ ∀ c ∈ r.classes, c.isOver = true := by
  have hprelude : ∀ {more}, e ∈ RunRequest.toldBy (request.prelude options) →
      e = request.event .started ∨ (∃ c ∈ request.placed true, e = RunRequest.skippedEvent c) ∨
        more := by
    intro more he
    rw [RunRequest.toldBy_prelude, List.mem_cons, List.mem_map] at he
    exact he.imp_right fun ⟨c, hc, heq⟩ => Or.inl ⟨c, hc, heq.symm⟩
  cases h.engine with
  | @running done todo hplan _ htold _ =>
      refine hprelude ?_
      rw [hplan, RunRequest.toldBy_append]
      exact List.mem_append_left _ (htold ▸ he)
  | closing _ htold _ => exact hprelude (htold ▸ he)
  | closed _ htold _ hover =>
      rw [htold, List.mem_append, List.mem_singleton] at he
      rcases he with he | he
      · exact hprelude he
      · exact Or.inr (Or.inr ⟨he, hover⟩)

/-- The end of a class that runs is told by the class. -/
lemma Keeps.exists_class (h : r.Keeps inv findings options request) {subject : Subject} {verdict : Verdict}
    (hended : Ended r.outside.events subject verdict) (hne : subject ≠ .engine) :
    ∃ (k : Nat) (P : ClassPlan) (c : ClassRun), (request.plans findings)[k]? = some P ∧
      r.classes[k]? = some c ∧ inv P c (r.logOf P.place) ∧
      subject.isWithinClass P.place = true ∧ Ended (r.logOf P.place) subject verdict := by
  obtain ⟨node, result, he, hresult⟩ := hended
  obtain hengines | ⟨P, hP, hown⟩ := mem_enginesLog_or_mem_logOf findings request he
  · rcases h.cases_of_mem hengines with heq | ⟨c, -, heq⟩ | ⟨heq, -⟩
    · exact absurd (Event.mk.inj heq).1 hne
    · exact Change.noConfusion (Event.mk.inj heq).2.2
    · exact absurd (Event.mk.inj heq).1 hne
  · obtain ⟨k, hk⟩ := List.getElem?_of_mem hP
    obtain ⟨c, hc, hinv⟩ := h.classes hk
    exact ⟨k, P, c, hk, hc, hinv, (List.mem_filter.mp hown).2, node, result, hown, hresult⟩

/-- What a class has told has been told. -/
lemma ended_of_logOf {place : Nat} {subject : Subject} {verdict : Verdict}
    (h : Ended (r.logOf place) subject verdict) : Ended r.outside.events subject verdict := by
  obtain ⟨node, result, he, hresult⟩ := h
  exact ⟨node, result, (List.mem_filter.mp he).1, hresult⟩

/-! ## Every run -/

/-- **Failures are passed up** in a run whose classes follow their plans and agree with their
events. -/
theorem Keeps.escalates (h : r.Keeps (ClassPlan.FollowsAgreed options) findings options request)
    (hcrashed : ∀ c ∈ r.classes, c.phase ≠ .crashed) : request.Escalates r.outside.events where
  ofClass := by
    intro i verdict hended
    obtain ⟨k, P, c, -, -, hclass, -, hown⟩ := h.exists_class hended Subject.noConfusion
    obtain ⟨rfl, hphase⟩ := hclass.follows.phase_of_ended hown
    rw [hclass.verdict_eq_failure_iff hphase]
    exact exists_failsScenario_iff
  ofEngine := by
    rintro verdict ⟨node, result, he, rfl⟩
    -- the end of the engine is told when every class is over
    have hend : result = .ofVerdict r.verdict ∧ ∀ c ∈ r.classes, c.isOver = true := by
      obtain hengines | ⟨P, -, hown⟩ := mem_enginesLog_or_mem_logOf findings request he
      · rcases h.cases_of_mem hengines with heq | ⟨c, -, heq⟩ | ⟨heq, hover⟩
        · exact Change.noConfusion (Event.mk.inj heq).2.2
        · exact Subject.noConfusion (Event.mk.inj heq).1
        · exact ⟨Change.finished.inj (Event.mk.inj heq).2.2, hover⟩
      · exact absurd (List.mem_filter.mp hown).2 Bool.false_ne_true
    obtain ⟨rfl, hover⟩ := hend
    show r.verdict = .failure ↔ _
    rw [verdict, Verdict.foldl_worse_eq_failure_iff, or_iff_right Verdict.noConfusion]
    constructor
    · rintro ⟨c, hc, hfails⟩
      obtain ⟨k, hk⟩ := List.getElem?_of_mem hc
      obtain ⟨P, -, hclass⟩ := h.exists_plan hk
      have hover := hover c hc
      have hcrashed := hcrashed c hc
      cases hphase : c.phase with
      | finished verdict =>
          rw [ClassRun.outcome, hphase] at hfails
          exact ⟨P.place, ended_of_logOf
            ⟨P.node, .ofVerdict verdict, hclass.follows.end_mem hphase, hfails⟩⟩
      | crashed => exact absurd hphase hcrashed
      | waiting => simp [ClassRun.isOver, hphase] at hover
      | running actions => simp [ClassRun.isOver, hphase] at hover
    · rintro ⟨i, hended⟩
      obtain ⟨k, P, c, -, hk, hclass, -, hown⟩ := h.exists_class hended Subject.noConfusion
      obtain ⟨rfl, hphase⟩ := hclass.follows.phase_of_ended hown
      exact ⟨c, List.mem_of_getElem? hk, by rw [ClassRun.outcome, hphase]⟩
  skippedClass := by
    intro i node hchild hskip subject hwithin verdict hended
    have hne : subject ≠ .engine := fun heq => by
      rw [heq] at hwithin
      exact Bool.false_ne_true hwithin
    obtain ⟨k, P, c, hP, -, -, hplace, -⟩ := h.exists_class hended hne
    obtain ⟨node', i', hchild', hskip', rfl⟩ := RunRequest.mem_plans.mp (List.mem_of_getElem? hP)
    obtain rfl : i = i' := Subject.eq_of_isWithinClass hwithin hplace
    obtain rfl := Option.some.inj (hchild.symm.trans hchild')
    exact Bool.noConfusion (hskip.symm.trans hskip')
  skippedScenario := by
    intro i j node child hchild hat hskipped subject hwithin verdict hended
    have hne : subject ≠ .engine := fun heq => by
      rw [heq] at hwithin
      exact Bool.false_ne_true hwithin
    obtain ⟨k, P, c, hP, -, hclass, hplace, hown⟩ := h.exists_class hended hne
    obtain ⟨node', i', hchild', -, rfl⟩ := RunRequest.mem_plans.mp (List.mem_of_getElem? hP)
    obtain rfl : i = i' :=
      Subject.eq_of_isWithinClass (isWithinClass_of_isWithinScenario hwithin) hplace
    obtain rfl := Option.some.inj (hchild.symm.trans hchild')
    exact hclass.follows.not_ended_of_skipped hat hskipped hwithin hown

/-- When no task can go on, the engine and the classes that are not skipped have come to an end. -/
lemma Keeps.concluded (h : r.Keeps (ClassPlan.FollowsAgreed options) findings options request)
    (hstuck : r.Stuck b options) (hcrashed : ∀ c ∈ r.classes, c.phase ≠ .crashed) :
    request.Concluded r.outside.events := by
  obtain ⟨⟨-, front, hlast⟩, hclasses⟩ :=
    h.finished_of_stuck (fun hclass => ⟨_, hclass.follows⟩) hstuck hcrashed
  refine ⟨⟨r.verdict, request.root, .ofVerdict r.verdict, ?_, rfl⟩, fun {i node} hchild hskip => ?_⟩
  · rw [hlast]
    exact List.mem_append_right _ (List.mem_singleton_self _)
  · obtain ⟨k, hk⟩ := RunRequest.exists_plan findings hchild hskip
    obtain ⟨c, hc, hclass⟩ := h.classes hk
    obtain ⟨⟨verdict, hphase⟩, -⟩ := hclasses k c hc
    exact ⟨verdict, ended_of_logOf ⟨node, .ofVerdict verdict, hclass.follows.end_mem hphase, rfl⟩⟩

/-- **Failures are passed up in every run.**  If no task is cut off, then at every point of every
order of steps a class that has come to its end fails exactly if one of its scenarios has failed, and
the engine exactly if one of the classes has; what is skipped has no part in that.  When no task can
go on, the engine and every class that is not skipped have come to their ends. -/
theorem escalates_of_reaches {s : σ} {choices : List Choice}
    (hreaches : Reaches b options (ofRequest options request s) choices r)
    (hquiet : Quiet choices) (hcrashed : ∀ c ∈ r.classes, c.phase ≠ .crashed) :
    request.Escalates r.outside.events ∧
      (r.Stuck b options → request.Concluded r.outside.events) := by
  obtain ⟨findings, hproceeds, hplanned⟩ := hreaches.exists_proceeds hquiet
  have hkeeps := keeps_agreed_of_proceeds hproceeds
  rw [← foreseen_phase_ne_crashed findings] at hcrashed
  exact ⟨hkeeps.escalates hcrashed, fun hstuck => hkeeps.concluded (hplanned hstuck) hcrashed⟩

/-- The engine starts and skips, the first class runs up to its end, and so does its scenario. -/
def oneAfterTheOther : List (Actor × Nat) :=
  [(.engine, 3), (.classTask 0, 15), (.scenarioTask 0 0, 8), (.classTask 0, 2), (.engine, 2)]

/-- The scenario without an environment makes its class and the engine fail. -/
theorem escalates_of_reaches_twoClasses :
    ∃ r,
      Reaches oneEnvironment.backend {} (ofRequest {} twoClasses .initial) (turns oneAfterTheOther)
        r ∧
      Quiet (turns oneAfterTheOther) ∧ (∀ c ∈ r.classes, c.phase ≠ .crashed) ∧
      r.Stuck oneEnvironment.backend {} ∧ twoClasses.Escalates r.outside.events ∧
      twoClasses.Concluded r.outside.events ∧ Ended r.outside.events .engine .failure := by
  have hsome : ((turns oneAfterTheOther).foldlM (step? oneEnvironment.backend {})
      (ofRequest {} twoClasses .initial)).any (fun r =>
        r.isOver && (r.logOf 0).any Event.failsScenario) = true := by decide +kernel
  obtain ⟨r, hr, hboth⟩ := (Option.any_eq_true _ _).mp hsome
  obtain ⟨hover, hfails⟩ := Bool.and_eq_true_iff.mp hboth
  have hreaches := reaches_of_foldlM hr
  have hquiet := quiet_turns oneAfterTheOther
  obtain ⟨findings, hproceeds, -⟩ := hreaches.exists_proceeds hquiet
  have hcrashed : ∀ c ∈ r.classes, c.phase ≠ .crashed := by
    rw [← foreseen_phase_ne_crashed findings]
    exact fun c hc => (keeps_agreed_of_proceeds hproceeds).not_crashed
      (fun hclass => ⟨_, hclass.follows⟩) (by decide) hc
  have hstuck : r.Stuck oneEnvironment.backend {} := stuck_of_isOver hover
  obtain ⟨hescalates, hconcluded⟩ := escalates_of_reaches hreaches hquiet hcrashed
  obtain ⟨hengine, hclasses⟩ := hconcluded hstuck
  refine ⟨r, hreaches, hquiet, hcrashed, hstuck, hescalates, ⟨hengine, hclasses⟩, ?_⟩
  obtain ⟨verdict, hclass⟩ := hclasses (i := 0) rfl (by decide +kernel)
  obtain rfl : verdict = .failure :=
    (hescalates.ofClass hclass).mpr (exists_failsScenario_iff.mp (List.any_eq_true.mp hfails))
  obtain ⟨verdict, hend⟩ := hengine
  obtain rfl : verdict = .failure := (hescalates.ofEngine hend).mpr ⟨0, hclass⟩
  exact hend

end Run

end ScenarioRunner

import ScenarioRunner.Proofs.Engine.ClassLog

/-!
# The events of one scenario

What the prelude of a class and its tail tell of the scenario at one place.  The scenarios that are
skipped, those that fail, and the jobs stand at different places, so that each is told of once.

* `ClassPlan.filter_prelude_skipped`, `ClassPlan.filter_prelude_failed` and
  `ClassPlan.filter_prelude_eq_nil` give the part of the prelude.
* `ClassPlan.filter_tail_eq_nil` gives the tail for places without a job.
* `ClassPlan.Complete` is what has been told of a class that is finished, and
  `ClassPlan.Complete.skipped`, `ClassPlan.Complete.failed` and `ClassPlan.Complete.job` what has been
  told of each scenario.
-/

namespace ScenarioRunner

namespace ClassPlan

variable {found : Candidate → Except Error Environment} {options : RunOptions}
  {isSkipped : NodeId → Bool} {group j : Nat} {node : Node} {P : ClassPlan}
  {tail log : List Event} {verdict : Verdict} {stage : Job → Phase → List Event → Prop}

/-! ## Places -/

lemma isWithinScenario_event (c : Candidate) (group : Nat) (change : Change) (j : Nat) :
    (c.event group change).subject.isWithinScenario group j = (c.place == j) := by
  simp [Candidate.event, Subject.isWithinScenario]

lemma candidate_eq {c c' : Candidate} (h : candidateAt? node c.place = some c)
    (h' : candidateAt? node c'.place = some c') (hplace : c.place = c'.place) : c = c' := by
  rw [hplace] at h
  exact Option.some.inj (h.symm.trans h')

lemma pairwise_skipped :
    (ofNode found isSkipped group node).skipped.Pairwise fun c c' => c.place < c'.place :=
  (pairwise_ofChildren 0 node.children).filter _

lemma pairwise_failed :
    (ofNode found isSkipped group node).failed.Pairwise fun f f' => f.1.place < f'.1.place := by
  refine List.Pairwise.filterMap _ ?_ ((pairwise_ofChildren 0 node.children).filter _)
  intro c c' hlt f hf f' hf'
  unfold failing? at hf hf'
  split at hf
  · exact absurd hf (by simp)
  · split at hf'
    · exact absurd hf' (by simp)
    · rw [← Option.some.inj hf, ← Option.some.inj hf']
      exact hlt

lemma place_ne_of_skipped_of_failed {c c' : Candidate} {e : Error}
    (hc : c ∈ (ofNode found isSkipped group node).skipped)
    (hc' : (c', e) ∈ (ofNode found isSkipped group node).failed) : c.place ≠ c'.place := by
  intro hplace
  obtain ⟨hat, hskip⟩ := skipped_iff.mp hc
  obtain ⟨hat', hskip', -⟩ := failed_iff.mp hc'
  obtain rfl := candidate_eq hat hat' hplace
  rw [hskip] at hskip'
  exact absurd hskip' (by simp)

lemma place_ne_of_skipped_of_job {c : Candidate} {job : Job}
    (hc : c ∈ (ofNode found isSkipped group node).skipped)
    (hjob : job ∈ (ofNode found isSkipped group node).jobs) : c.place ≠ job.place := by
  intro hplace
  obtain ⟨hat, hskip⟩ := skipped_iff.mp hc
  obtain ⟨c', environment, hat', hskip', -, rfl⟩ := jobs_iff.mp hjob
  obtain rfl := candidate_eq hat hat' hplace
  rw [hskip] at hskip'
  exact absurd hskip' (by simp)

lemma place_ne_of_failed_of_job {c : Candidate} {e : Error} {job : Job}
    (hc : (c, e) ∈ (ofNode found isSkipped group node).failed)
    (hjob : job ∈ (ofNode found isSkipped group node).jobs) : c.place ≠ job.place := by
  intro hplace
  obtain ⟨hat, -, he⟩ := failed_iff.mp hc
  obtain ⟨c', environment, hat', -, he', rfl⟩ := jobs_iff.mp hjob
  obtain rfl := candidate_eq hat hat' hplace
  rw [he] at he'
  exact absurd he' (by simp)

/-! ## The prelude -/

/-- The events of the prelude about scenarios, by scenario. -/
lemma filter_prelude (P : ClassPlan) (j : Nat) :
    (toldBy P.prelude).filter (fun e => e.subject.isWithinScenario P.place j) =
      (P.skipped.flatMap fun c => [c.event P.place (.skipped skipReason)]).filter
        (fun e => e.subject.isWithinScenario P.place j) ++
      (P.failed.flatMap fun f =>
          [f.1.event P.place .started, f.1.event P.place (.finished (.failure f.2.message))]).filter
        (fun e => e.subject.isWithinScenario P.place j) := by
  rw [toldBy_prelude, List.filter_append, List.filter_cons_of_neg, List.map_eq_flatMap]
  exact Bool.false_ne_true

lemma filter_skipped_eq_nil (h : ∀ c ∈ P.skipped, c.place ≠ j) :
    (P.skipped.flatMap fun c => [c.event P.place (.skipped skipReason)]).filter
      (fun e => e.subject.isWithinScenario P.place j) = [] := by
  refine filter_flatMap_eq_nil fun c hc e he => ?_
  rw [List.mem_singleton.mp he, isWithinScenario_event]
  simpa using h c hc

lemma filter_failed_eq_nil (h : ∀ f ∈ P.failed, f.1.place ≠ j) :
    (P.failed.flatMap fun f =>
        [f.1.event P.place .started, f.1.event P.place (.finished (.failure f.2.message))]).filter
      (fun e => e.subject.isWithinScenario P.place j) = [] := by
  refine filter_flatMap_eq_nil fun f hf e he => ?_
  have hne : (f.1.place == j) = false := by simpa using h f hf
  simp only [List.mem_cons, List.not_mem_nil, or_false] at he
  rcases he with rfl | rfl <;> rw [isWithinScenario_event, hne]

/-- The prelude tells nothing of other scenarios than those that are skipped or fail. -/
theorem filter_prelude_eq_nil (hskipped : ∀ c ∈ P.skipped, c.place ≠ j)
    (hfailed : ∀ f ∈ P.failed, f.1.place ≠ j) :
    (toldBy P.prelude).filter (fun e => e.subject.isWithinScenario P.place j) = [] := by
  rw [filter_prelude, filter_skipped_eq_nil hskipped, filter_failed_eq_nil hfailed,
    List.append_nil]

/-- The prelude tells that a scenario is skipped. -/
theorem filter_prelude_skipped {c : Candidate}
    (hc : c ∈ (ofNode found isSkipped group node).skipped) :
    (toldBy (ofNode found isSkipped group node).prelude).filter
        (fun e => e.subject.isWithinScenario group c.place) =
      [c.event group (.skipped skipReason)] := by
  obtain ⟨k, hk⟩ := List.getElem?_of_mem hc
  have hfailed := @filter_failed_eq_nil c.place (ofNode found isSkipped group node)
    fun f hf => (place_ne_of_skipped_of_failed hc hf).symm
  refine (filter_prelude (ofNode found isSkipped group node) c.place).trans ?_
  rw [hfailed, List.append_nil]
  refine filter_flatMap_of_getElem? hk ?_ ?_
  · intro e he
    rw [List.mem_singleton.mp he]
    exact (isWithinScenario_event ..).trans (beq_self_eq_true _)
  · intro l c' hl hne e he
    rw [List.mem_singleton.mp he]
    refine (isWithinScenario_event ..).trans (beq_false_of_ne fun hplace => ?_)
    exact hne (eq_of_pairwise_lt pairwise_skipped hl hk hplace)

/-- The prelude tells that a scenario without an environment starts and fails. -/
theorem filter_prelude_failed {c : Candidate} {error : Error}
    (hc : (c, error) ∈ (ofNode found isSkipped group node).failed) :
    (toldBy (ofNode found isSkipped group node).prelude).filter
        (fun e => e.subject.isWithinScenario group c.place) =
      [c.event group .started, c.event group (.finished (.failure error.message))] := by
  obtain ⟨k, hk⟩ := List.getElem?_of_mem hc
  have hskipped := @filter_skipped_eq_nil c.place (ofNode found isSkipped group node)
    fun c' hc' => place_ne_of_skipped_of_failed hc' hc
  refine (filter_prelude (ofNode found isSkipped group node) c.place).trans ?_
  rw [hskipped, List.nil_append]
  refine filter_flatMap_of_getElem? hk ?_ ?_
  · intro e he
    simp only [List.mem_cons, List.not_mem_nil, or_false] at he
    rcases he with rfl | rfl
    · exact (isWithinScenario_event ..).trans (beq_self_eq_true _)
    · exact (isWithinScenario_event ..).trans (beq_self_eq_true _)
  · intro l f hl hne e he
    have hother : (f.1.place == c.place) = false :=
      beq_false_of_ne fun hplace => hne (eq_of_pairwise_lt pairwise_failed hl hk hplace)
    simp only [List.mem_cons, List.not_mem_nil, or_false] at he
    rcases he with rfl | rfl
    · exact (isWithinScenario_event ..).trans hother
    · exact (isWithinScenario_event ..).trans hother

/-! ## The tail -/

/-- The tail tells nothing of places without a job. -/
theorem filter_tail_eq_nil (hplaced : P.WellPlaced)
    (hcovered : ∀ e ∈ tail, ∃ job ∈ P.jobs, job.Covers e) (hj : ∀ job ∈ P.jobs, j ≠ job.place) :
    tail.filter (fun e => e.subject.isWithinScenario P.place j) = [] := by
  rw [List.filter_eq_nil_iff]
  intro e he hwithin
  obtain ⟨job, hjob, hcovers⟩ := hcovered e he
  rw [Job.Covers, hplaced.groups job hjob] at hcovers
  refine hj job hjob ?_
  unfold Subject.isWithinScenario at hwithin hcovers
  cases hsubject : e.subject <;> simp_all

lemma filter_covers (hplaced : P.WellPlaced) {job : Job} (hjob : job ∈ P.jobs)
    (log : List Event) :
    log.filter (fun e => e.subject.isWithinScenario P.place job.place) =
      log.filter fun e => job.Covers e := by
  refine List.filter_congr fun e _ => ?_
  rw [← hplaced.groups job hjob]
  exact Bool.decide_eq_true.symm

/-! ## A class that is finished -/

/-- What has been told of a class that is finished with a verdict: its prelude, a tail in which each
job has told all that its course says, and its end. -/
inductive Complete (stage : Job → Phase → List Event → Prop) (P : ClassPlan) (verdict : Verdict) :
    List Event → Prop where
  | intro {tail : List Event} (hcovered : ∀ e ∈ tail, ∃ job ∈ P.jobs, job.Covers e)
    (htold : ∀ job ∈ P.jobs, stage job .done (tail.filter fun e => job.Covers e)) :
    Complete stage P verdict
      (toldBy P.prelude ++ tail ++ [P.event (.finished (.ofVerdict verdict))])

/-- A class that is finished with all of its scenarios has told everything. -/
theorem FollowsBy.complete {c : ClassRun} {verdict : Verdict}
    (h : P.FollowsBy stage options c log) (hphase : c.phase = .finished verdict)
    (hdone : ∀ (l : Nat) (s : ScenarioRun), c.scenarios[l]? = some s → s.phase = .done) :
    P.Complete stage verdict log := by
  obtain ⟨reached, tail, hlinked, hlogged⟩ := h.logged
  have hlast := hlinked.stage
  have hlog := hlogged.log_eq
  rw [hphase] at hlast hlog
  cases hlast with
  | finished verdict =>
      rw [hlog]
      refine .intro hlogged.covered fun job hjob => ?_
      obtain ⟨l, hl⟩ := List.getElem?_of_mem hjob
      obtain ⟨phase, hs⟩ := hlinked.exists_scenario hl
      obtain rfl : phase = .done := hdone l _ hs
      exact hlogged.stages hs

namespace Complete

/-- Nothing but the skip is told of a scenario that is skipped. -/
theorem skipped (h : (ofNode found isSkipped group node).Complete stage verdict log) {c : Candidate}
    (hc : c ∈ (ofNode found isSkipped group node).skipped) :
    log.filter (fun e => e.subject.isWithinScenario group c.place) =
      [c.event group (.skipped skipReason)] := by
  cases h with
  | intro hcovered htold =>
      have htail := filter_tail_eq_nil (wellPlaced_ofNode found isSkipped group node) hcovered
        fun job hjob => place_ne_of_skipped_of_job hc hjob
      rw [List.filter_append, List.filter_append, filter_prelude_skipped hc]
      exact congrArg (_ :: · ++ []) htail

/-- Only its start and its failure are told of a scenario without an environment. -/
theorem failed (h : (ofNode found isSkipped group node).Complete stage verdict log) {c : Candidate}
    {error : Error} (hc : (c, error) ∈ (ofNode found isSkipped group node).failed) :
    log.filter (fun e => e.subject.isWithinScenario group c.place) =
      [c.event group .started, c.event group (.finished (.failure error.message))] := by
  cases h with
  | intro hcovered htold =>
      have htail := filter_tail_eq_nil (wellPlaced_ofNode found isSkipped group node) hcovered
        fun job hjob => place_ne_of_failed_of_job hc hjob
      rw [List.filter_append, List.filter_append, filter_prelude_failed hc]
      exact congrArg (_ :: _ :: · ++ []) htail

/-- All that a job tells is told of it. -/
theorem job (h : (ofNode found isSkipped group node).Complete stage verdict log) {job : Job}
    (hjob : job ∈ (ofNode found isSkipped group node).jobs) :
    stage job .done (log.filter fun e => e.subject.isWithinScenario group job.place) := by
  cases h with
  | @intro tail hcovered htold =>
      have hprelude := @filter_prelude_eq_nil job.place (ofNode found isSkipped group node)
        (fun c hc => place_ne_of_skipped_of_job hc hjob)
        (fun f hf => place_ne_of_failed_of_job hf hjob)
      have htail := filter_covers (wellPlaced_ofNode found isSkipped group node) hjob tail
      have hown : (toldBy (ofNode found isSkipped group node).prelude ++ tail ++
          [(ofNode found isSkipped group node).event (.finished (.ofVerdict verdict))]).filter
            (fun e => e.subject.isWithinScenario group job.place) =
          tail.filter fun e => job.Covers e := by
        rw [List.filter_append, List.filter_append]
        exact (congrArg₂ (· ++ · ++ []) hprelude htail).trans (List.append_nil _)
      rw [hown]
      exact htold job hjob

/-- Nothing is told of other children. -/
theorem eq_nil (h : (ofNode found isSkipped group node).Complete stage verdict log)
    (hj : candidateAt? node j = none) :
    log.filter (fun e => e.subject.isWithinScenario group j) = [] := by
  have hne : ∀ {c : Candidate}, candidateAt? node c.place = some c → c.place ≠ j := by
    rintro c hc rfl
    rw [hj] at hc
    exact absurd hc (by simp)
  cases h with
  | @intro tail hcovered htold =>
      have hprelude := @filter_prelude_eq_nil j (ofNode found isSkipped group node)
        (fun c hc => hne (skipped_iff.mp hc).1) (fun f hf => hne (failed_iff.mp hf).1)
      have htail := filter_tail_eq_nil (wellPlaced_ofNode found isSkipped group node) hcovered
        (j := j) fun job hjob => by
          obtain ⟨c, environment, hat, -, -, rfl⟩ := jobs_iff.mp hjob
          exact (hne hat).symm
      rw [List.filter_append, List.filter_append]
      exact congrArg₂ (· ++ · ++ []) hprelude htail

end Complete

end ClassPlan

end ScenarioRunner

import ScenarioRunner.Progress.Policy
import ScenarioRunner.Proofs.Model.Failures

/-!
# The result of a step from two reports

A step is judged by the report that is held on it and by the latest one, which has the reports on what
lies below it.

* `NodeResult.Judged` lists what the result can be and when, and `NodeResult.judged_ofStep` says that it
  is one of these.
* `NodeResult.verdict_ofStep_eq_success_iff_forall`: a step passes if its held status says so and nothing
  in the latest report on it has failed.

A status that is no outcome counts where it is held, but not below: a step that has not succeeded fails,
whatever lies below it.
-/

namespace ScenarioRunner

namespace NodeResult

/-- The results of a step with a held report, and the latest report on it if there is one. -/
inductive Judged (held : StepReport) (latest : Option StepReport) : NodeResult → Prop where
  | passed (hstatus : held.status = .success) (hcalm : ∀ s, latest = some s → ¬ s.Fails) :
    Judged held latest success
  /-- The errors of what has failed are told. -/
  | explained {s : StepReport} (hlatest : latest = some s) (hlines : s.errorLines ≠ []) :
    Judged held latest (failure (Text.joined "\n" s.errorLines))
  /-- Something has failed, but without an error. -/
  | unexplained (hfailed : held.status = .failure ∨ ∃ s, latest = some s ∧ s.Fails)
    (hlines : ∀ s, latest = some s → s.errorLines = []) :
    Judged held latest (failure ("step '" ++ held.name ++ "' failed"))
  /-- Nothing has failed, but the step has not succeeded either. -/
  | ended (hstatus : held.status ≠ .success) (hcalm : ∀ s, latest = some s → ¬ s.Fails) :
    Judged held latest
      (failure ("step '" ++ held.name ++ "' ended with status " ++ held.status.name))

/-- What counts as failed: something in the latest report, or the held status. -/
lemma worst?_eq_failure_iff (held : StepReport) (latest : Option StepReport) :
    Verdict.worst? (latest.bind StepReport.worst?) (Verdict.ofStatus? held.status) =
        some .failure ↔
      held.status = .failure ∨ ∃ s, latest = some s ∧ s.Fails := by
  rw [Verdict.worst?_eq_failure_iff, Verdict.ofStatus?_eq_failure_iff, Option.bind_eq_some_iff,
    or_comm]
  simp only [StepReport.worst?_eq_failure_iff]

lemma ofFailures_of_ne_nil (name : String) {lines : List String} (h : lines ≠ []) :
    ofFailures name lines = failure (Text.joined "\n" lines) := by
  cases lines with
  | nil => exact absurd rfl h
  | cons => rfl

/-- **The result of a step** is one of those that there are. -/
theorem judged_ofStep (held : StepReport) (latest : Option StepReport) :
    Judged held latest (ofStep held latest) := by
  have hfailed := worst?_eq_failure_iff held latest
  simp only [ofStep]
  split_ifs with hworst hstatus
  · replace hfailed := hfailed.mp hworst
    cases latest with
    | none => exact .unexplained hfailed fun _ hs => absurd hs (by simp)
    | some s =>
        rw [Option.elim_some, s.failures_eq_errorLines]
        by_cases hlines : s.errorLines = []
        · rw [hlines]
          refine .unexplained hfailed fun s' hs' => ?_
          rw [← Option.some.inj hs', hlines]
        · rw [ofFailures_of_ne_nil held.name hlines]
          exact .explained rfl hlines
  · exact .passed hstatus fun s hs hfails => hworst (hfailed.mpr (Or.inr ⟨s, hs, hfails⟩))
  · exact .ended hstatus fun s hs hfails => hworst (hfailed.mpr (Or.inr ⟨s, hs, hfails⟩))

variable {held : StepReport} {latest : Option StepReport} {result : NodeResult}

/-- A step passes if its held status says so and nothing in the latest report has failed. -/
lemma Judged.verdict_eq_success_iff (h : Judged held latest result) :
    result.verdict = .success ↔
      held.status = .success ∧ ∀ s, latest = some s → ¬ s.Fails := by
  cases h with
  | passed hstatus hcalm => exact iff_of_true rfl ⟨hstatus, hcalm⟩
  | explained hlatest hlines =>
      refine iff_of_false Verdict.noConfusion fun hboth => ?_
      exact hboth.2 _ hlatest (StepReport.fails_of_errorLines_ne_nil hlines)
  | unexplained hfailed _ =>
      refine iff_of_false Verdict.noConfusion fun hboth => ?_
      rcases hfailed with hstatus | ⟨s, hs, hfails⟩
      · exact absurd (hstatus.symm.trans hboth.1) Status.noConfusion
      · exact hboth.2 s hs hfails
  | ended hstatus _ => exact iff_of_false Verdict.noConfusion fun hboth => hstatus hboth.1

/-- A step that passes needs no explanation. -/
lemma Judged.eq_success_iff (h : Judged held latest result) :
    result = success ↔ result.verdict = .success := by
  cases h with
  | passed => exact iff_of_true rfl rfl
  | explained => exact iff_of_false (by simp [success, failure]) Verdict.noConfusion
  | unexplained => exact iff_of_false (by simp [success, failure]) Verdict.noConfusion
  | ended => exact iff_of_false (by simp [success, failure]) Verdict.noConfusion

/-- A step that does not pass is explained by a text that is not empty. -/
lemma Judged.exists_failure (h : Judged held latest result) (hne : result ≠ success) :
    ∃ text, text ≠ "" ∧ result = failure text := by
  have hfront : "step '" ++ held.name ≠ "" := Text.append_ne_empty (by decide) held.name
  cases h with
  | passed => exact absurd rfl hne
  | explained _ hlines =>
      exact ⟨_, Text.joined_ne_empty hlines fun _ => StepReport.ne_empty_of_mem_errorLines, rfl⟩
  | unexplained => exact ⟨_, Text.append_ne_empty hfront _, rfl⟩
  | ended => exact ⟨_, Text.append_ne_empty (Text.append_ne_empty hfront _) _, rfl⟩

/-- The errors of what has failed are told if there are any. -/
lemma Judged.eq_failure_of_errorLines (h : Judged held latest result) {s : StepReport}
    (hs : latest = some s) (hlines : s.errorLines ≠ []) :
    result = failure (Text.joined "\n" s.errorLines) := by
  cases h with
  | passed _ hcalm => exact absurd (StepReport.fails_of_errorLines_ne_nil hlines) (hcalm s hs)
  | explained hlatest _ => rw [Option.some.inj (hs.symm.trans hlatest)]
  | unexplained _ hnone => exact absurd (hnone s hs) hlines
  | ended _ hcalm => exact absurd (StepReport.fails_of_errorLines_ne_nil hlines) (hcalm s hs)

/-- A step that the last snapshot may lack passes if its held status says so, and nothing in the
snapshot's report on it, if there is one, has failed. -/
lemma verdict_ofStep_eq_success_iff_forall (held : StepReport) (latest : Option StepReport) :
    (ofStep held latest).verdict = .success ↔
      held.status = .success ∧ ∀ s, latest = some s → ¬ s.Fails :=
  (judged_ofStep held latest).verdict_eq_success_iff

/-- A step passes if its held status says so and nothing in the latest report on it has failed. -/
theorem verdict_ofStep_eq_success_iff (held latest : StepReport) :
    (ofStep held (some latest)).verdict = .success ↔
      held.status = .success ∧ ¬ latest.Fails := by
  rw [verdict_ofStep_eq_success_iff_forall]
  simp only [Option.some.injEq, forall_eq']

lemma ofStep_eq_success (h : (ofStep held latest).verdict = .success) :
    ofStep held latest = success :=
  (judged_ofStep held latest).eq_success_iff.mpr h

lemma verdict_eq_failure_iff (result : NodeResult) :
    result.verdict = .failure ↔ ¬ result.verdict = .success := by
  cases result.verdict <;> simp

end NodeResult

end ScenarioRunner

import Mathlib.Data.List.Basic
import Mathlib.Tactic.Common
import ScenarioRunner.Model.Report

/-!
# Failures in a report

Two recursions judge a report: one takes the worst outcome of a tree, and the other one collects the
errors of what has failed.  This file reads both off the nodes of the tree.

* `StepReport.nodes` lists the nodes of a tree, each before those below it, and
  `StepReport.mem_nodes_iff` says that they are what stands at some positions.
* `StepReport.Fails`: something in a tree has failed.  `StepReport.worst?_eq_failure_iff` is the worst
  outcome in terms of it.
* `StepReport.failures_eq_errorLines`: the collected errors are those of the failed nodes, in the
  order of the tree.
* `ExecutionReport.judged_and_explained` puts the verdict on a scenario and its explanation together.

A scenario may fail without anything to say about it, so that the explanation has one general line
then.
-/

namespace ScenarioRunner

/-! ## Texts -/

namespace Text

lemma append_ne_empty {s : String} (h : s ≠ "") (t : String) : s ++ t ≠ "" :=
  fun hempty => h (String.append_eq_empty_iff.mp hempty).1

/-- Lines are joined to a text that is not empty if none of them is. -/
lemma joined_ne_empty {sep : String} {lines : List String} (hne : lines ≠ [])
    (h : ∀ line ∈ lines, line ≠ "") : joined sep lines ≠ "" := by
  have hfirst : lines.head hne ≠ "" := h _ (List.head_mem hne)
  match lines, hne with
  | [line], _ =>
      rw [joined, String.intercalate_singleton]
      exact hfirst
  | line :: next :: rest, _ =>
      rw [joined, String.intercalate_cons_cons, String.append_assoc]
      exact append_ne_empty hfirst _

end Text

/-! ## Verdicts -/

namespace Verdict

@[simp] lemma worst?_eq_failure_iff (v w : Option Verdict) :
    worst? v w = some .failure ↔ v = some .failure ∨ w = some .failure := by
  rcases v with _ | _ | _ <;> rcases w with _ | _ | _ <;> simp [worst?, worse]

@[simp] lemma ofStatus?_eq_failure_iff (s : Status) :
    ofStatus? s = some .failure ↔ s = .failure := by
  cases s <;> simp [ofStatus?]

end Verdict

/-! ## Trees of reports -/

namespace StepReport

/-- **Induction on forests of reports.**  The reports on the sub-steps of the first step come first,
then the reports beside it. -/
theorem forest_induction {motive : List StepReport → Prop} (nil : motive [])
    (cons : ∀ report reports, motive report.steps → motive reports → motive (report :: reports)) :
    ∀ reports, motive reports
  | [] => nil
  | ⟨name, status, duration, startDate, errors, information, evaluatedInputs, stepOutputs, kind,
      targetName, strategy, steps⟩ :: reports =>
      cons ⟨name, status, duration, startDate, errors, information, evaluatedInputs, stepOutputs,
          kind, targetName, strategy, steps⟩ reports
        (forest_induction nil cons steps) (forest_induction nil cons reports)

mutual

/-- The nodes of a tree, each before those below it. -/
def nodes : StepReport → List StepReport
  | ⟨name, status, duration, startDate, errors, information, evaluatedInputs, stepOutputs, kind,
      targetName, strategy, steps⟩ =>
    ⟨name, status, duration, startDate, errors, information, evaluatedInputs, stepOutputs, kind,
      targetName, strategy, steps⟩ :: nodesOf steps

/-- The nodes of some trees, one after the other. -/
def nodesOf : List StepReport → List StepReport
  | [] => []
  | step :: steps => step.nodes ++ nodesOf steps

end

lemma nodes_eq (r : StepReport) : r.nodes = r :: nodesOf r.steps := by
  cases r
  rfl

lemma at?_append (r : StepReport) (path rest : List Nat) :
    r.at? (path ++ rest) = (r.at? path).bind fun s => s.at? rest := by
  induction path generalizing r with
  | nil => rfl
  | cons j path ih =>
      rw [List.cons_append, at?, at?, Option.bind_assoc]
      congr 1
      funext s
      exact ih s

lemma mem_nodesOf_iff (reports : List StepReport) (s : StepReport) :
    s ∈ nodesOf reports ↔ ∃ r ∈ reports, ∃ path, r.at? path = some s := by
  induction reports using forest_induction with
  | nil => simp [nodesOf]
  | cons r reports below beside =>
      have hfirst : s ∈ r.nodes ↔ ∃ path, r.at? path = some s := by
        rw [nodes_eq, List.mem_cons, below]
        constructor
        · rintro (rfl | ⟨step, hstep, path, hpath⟩)
          · exact ⟨[], rfl⟩
          · obtain ⟨j, hj⟩ := List.mem_iff_getElem?.mp hstep
            exact ⟨j :: path, Option.bind_eq_some_iff.mpr ⟨step, hj, hpath⟩⟩
        · rintro ⟨path, hpath⟩
          cases path with
          | nil => exact Or.inl (Option.some.inj hpath).symm
          | cons j path =>
              obtain ⟨step, hj, hrest⟩ := Option.bind_eq_some_iff.mp hpath
              exact Or.inr ⟨step, List.mem_of_getElem? hj, path, hrest⟩
      rw [nodesOf, List.mem_append, hfirst, beside, List.exists_mem_cons_iff]

/-- **The nodes of a tree** are what stands at some positions. -/
theorem mem_nodes_iff (r s : StepReport) : s ∈ r.nodes ↔ ∃ path, r.at? path = some s := by
  have h := mem_nodesOf_iff [r] s
  simpa only [nodesOf, List.append_nil, List.mem_singleton, exists_eq_left] using h

/-! ## The worst outcome -/

lemma worst?_eq (r : StepReport) :
    r.worst? = Verdict.worst? (worstOf? r.steps) (Verdict.ofStatus? r.status) := by
  cases r
  rfl

/-- The step or one below it has failed. -/
def Fails (r : StepReport) : Prop :=
  ∃ path below, r.at? path = some below ∧ below.status = .failure

lemma fails_iff_exists_node (r : StepReport) : r.Fails ↔ ∃ s ∈ r.nodes, s.status = .failure := by
  simp only [Fails, mem_nodes_iff]
  constructor
  · rintro ⟨path, s, hs, hstatus⟩
    exact ⟨s, ⟨path, hs⟩, hstatus⟩
  · rintro ⟨s, ⟨path, hs⟩, hstatus⟩
    exact ⟨path, s, hs, hstatus⟩

lemma worstOf?_eq_failure_iff (reports : List StepReport) :
    worstOf? reports = some .failure ↔ ∃ s ∈ nodesOf reports, s.status = .failure := by
  induction reports using forest_induction with
  | nil => simp [worstOf?, nodesOf]
  | cons r reports below beside =>
      rw [worstOf?, worst?_eq, Verdict.worst?_eq_failure_iff, Verdict.worst?_eq_failure_iff,
        Verdict.ofStatus?_eq_failure_iff, below, beside, nodesOf, nodes_eq]
      simp only [List.mem_append, List.mem_cons, or_and_right, exists_or, exists_eq_left]
      exact or_congr_left or_comm

/-- The worst outcome in a tree is a failure if anything in it has failed. -/
theorem worst?_eq_failure_iff (r : StepReport) : r.worst? = some .failure ↔ r.Fails := by
  have h := worstOf?_eq_failure_iff [r]
  simp only [worstOf?, nodesOf, List.append_nil] at h
  rw [fails_iff_exists_node, ← h, Verdict.worst?_eq_failure_iff]
  simp

/-! ## The errors -/

/-- The lines `name: error` of the failed nodes of a tree, each node before those below it. -/
def errorLines (r : StepReport) : List String :=
  (r.nodes.filter fun s => s.status = .failure).flatMap fun s =>
    s.errors.map fun e => s.name ++ ": " ++ e

lemma failures_eq (r : StepReport) :
    r.failures =
      (if r.status = .failure then r.errors.map fun e => r.name ++ ": " ++ e else []) ++
        failuresOf r.steps := by
  cases r
  rfl

lemma failuresOf_eq (reports : List StepReport) :
    failuresOf reports =
      ((nodesOf reports).filter fun s => s.status = .failure).flatMap fun s =>
        s.errors.map fun e => s.name ++ ": " ++ e := by
  induction reports using forest_induction with
  | nil => rfl
  | cons r reports below beside =>
      rw [failuresOf, failures_eq, below, beside, nodesOf, nodes_eq, List.filter_append,
        List.flatMap_append, List.filter_cons]
      by_cases hstatus : r.status = .failure <;> simp [hstatus]

/-- **What is collected** are the errors of the failed nodes, in the order of the tree. -/
theorem failures_eq_errorLines (r : StepReport) : r.failures = r.errorLines := by
  have h := failuresOf_eq [r]
  rw [failuresOf, failuresOf, nodesOf, nodesOf, List.append_nil, List.append_nil] at h
  exact h

lemma ne_empty_of_mem_errorLines {r : StepReport} {line : String} (h : line ∈ r.errorLines) :
    line ≠ "" := by
  obtain ⟨s, -, hline⟩ := List.mem_flatMap.mp h
  obtain ⟨e, -, rfl⟩ := List.mem_map.mp hline
  exact fun hempty =>
    absurd (String.append_eq_empty_iff.mp (String.append_eq_empty_iff.mp hempty).1).2 (by decide)

/-- Errors are collected only where something has failed. -/
lemma fails_of_errorLines_ne_nil {r : StepReport} (h : r.errorLines ≠ []) : r.Fails := by
  obtain ⟨line, hline⟩ := List.exists_mem_of_ne_nil _ h
  obtain ⟨s, hs, -⟩ := List.mem_flatMap.mp hline
  obtain ⟨hs, hstatus⟩ := List.mem_filter.mp hs
  exact (fails_iff_exists_node r).mpr ⟨s, hs, of_decide_eq_true hstatus⟩

end StepReport

/-! ## Scenarios -/

namespace ExecutionReport

/-- The scenario has succeeded, and nothing in the report on it has failed. -/
def Passed (r : ExecutionReport) : Prop :=
  r.status = .success ∧ ∀ s ∈ r.report.nodes, s.status ≠ .failure

/-- What there is to say of a scenario that has not passed: the errors of what has failed, and its
status if that is no outcome. -/
def reasons (r : ExecutionReport) : List String :=
  r.report.errorLines ++
    if r.status = .success ∨ r.status = .failure then []
    else ["scenario ended with status " ++ r.status.name]

/-- A scenario passes if it has succeeded and nothing in the report on it has failed. -/
lemma verdict_eq_success_iff (r : ExecutionReport) :
    r.verdict = .success ↔ r.status = .success ∧ ¬ r.report.Fails := by
  have hworst : Verdict.worst? r.report.worst? (Verdict.ofStatus? r.status) = some .failure ↔
      r.report.Fails ∨ r.status = .failure := by
    rw [Verdict.worst?_eq_failure_iff, Verdict.ofStatus?_eq_failure_iff,
      StepReport.worst?_eq_failure_iff]
  unfold verdict
  split
  · next hfailure =>
    refine iff_of_false (by simp) fun hboth => ?_
    rcases hworst.mp hfailure with hfails | hstatus
    · exact hboth.2 hfails
    · exact absurd (hboth.1.symm.trans hstatus) (by simp)
  · next hother =>
    have hcalm : ¬ r.report.Fails := fun hfails => hother (hworst.mpr (Or.inl hfails))
    rw [and_iff_left hcalm]
    split <;> simp_all

lemma passed_iff (r : ExecutionReport) : r.Passed ↔ r.status = .success ∧ ¬ r.report.Fails := by
  rw [Passed, StepReport.fails_iff_exists_node]
  simp only [ne_eq, not_exists, not_and]

lemma failureLines_eq (r : ExecutionReport) :
    r.failureLines =
      if r.reasons = [] then ["scenario '" ++ r.scenarioName ++ "' failed"] else r.reasons := by
  have hreasons : r.report.failures ++
      (if r.status.isTerminal then [] else ["scenario ended with status " ++ r.status.name]) =
        r.reasons := by
    rw [reasons, StepReport.failures_eq_errorLines]
    simp only [Status.isTerminal, Bool.or_eq_true, decide_eq_true_eq]
  simp only [failureLines, hreasons, List.isEmpty_iff]

lemma ne_empty_of_mem_reasons {r : ExecutionReport} {line : String} (h : line ∈ r.reasons) :
    line ≠ "" := by
  rcases List.mem_append.mp h with hline | hline
  · exact StepReport.ne_empty_of_mem_errorLines hline
  · split at hline
    · exact absurd hline List.not_mem_nil
    · rw [List.mem_singleton.mp hline]
      exact Text.append_ne_empty (by decide) _

/-- **The verdict on a scenario and its explanation.**  A scenario passes exactly if it has succeeded
and no node in the report on it has failed, and only then there is no explanation.  Otherwise it is not
empty and joins the lines that there are, or is the general line if there are none. -/
theorem judged_and_explained (r : ExecutionReport) :
    (r.verdict = .success ↔ r.Passed) ∧ (r.failureSummary? = none ↔ r.Passed) ∧
      ∀ text, r.failureSummary? = some text →
        text ≠ "" ∧ (r.reasons ≠ [] → text = Text.joined "\n" r.reasons) ∧
          (r.reasons = [] → text = "scenario '" ++ r.scenarioName ++ "' failed") := by
  have hverdict : r.verdict = .success ↔ r.Passed :=
    r.verdict_eq_success_iff.trans r.passed_iff.symm
  refine ⟨hverdict, ?_, fun text htext => ?_⟩
  · rw [← hverdict, failureSummary?]
    split <;> simp_all
  · rw [failureSummary?] at htext
    split at htext
    · exact absurd htext (by simp)
    · obtain rfl := Option.some.inj htext
      rw [failureLines_eq]
      by_cases hnone : r.reasons = []
      · rw [if_pos hnone, Text.joined, String.intercalate_singleton]
        exact ⟨Text.append_ne_empty (Text.append_ne_empty (by decide) _) _,
          fun hsome => absurd hnone hsome, fun _ => rfl⟩
      · rw [if_neg hnone]
        exact ⟨Text.joined_ne_empty hnone fun _ => ne_empty_of_mem_reasons, fun _ => rfl,
          fun heq => absurd heq hnone⟩

/-- A scenario that was stopped after a step in it had failed, within a step that has succeeded. -/
def stoppedAfterFailure : ExecutionReport :=
  .around 1 "s" "DEV"
    { StepReport.blank with
      status := .stopped
      steps :=
        [{ StepReport.blank with
            name := "outer"
            status := .success
            steps :=
              [{ StepReport.blank with name := "inner", status := .failure, errors := ["boom"] }] }] }

/-- The failure and the status are both told. -/
theorem judged_and_explained_stopped :
    stoppedAfterFailure.failureSummary? =
        some "inner: boom\nscenario ended with status STOPPED" ∧
      stoppedAfterFailure.reasons ≠ [] ∧
      "inner: boom\nscenario ended with status STOPPED" =
        Text.joined "\n" stoppedAfterFailure.reasons := by
  have htext : stoppedAfterFailure.failureSummary? =
      some "inner: boom\nscenario ended with status STOPPED" := by decide
  have hreasons : stoppedAfterFailure.reasons ≠ [] := by decide
  exact ⟨htext, hreasons, ((judged_and_explained stoppedAfterFailure).2.2 _ htext).2.1 hreasons⟩

end ExecutionReport

end ScenarioRunner

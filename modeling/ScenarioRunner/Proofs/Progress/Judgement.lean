import ScenarioRunner.Proofs.Progress.RollUp

/-!
# How a step is judged

A step that finishes has the result of two reports: the one that is held on it, which many snapshots
may have changed, and the one in the snapshot observed last, which may lack the step.  This file says
what the result is in terms of the snapshots alone.

* `ExecutionReport.latestAt?` is the report on a step in the last snapshot.
* `Tracker.JudgedBy`: the result of a step is what a history makes of it.
* `Tracker.judged_of_finished`: it is, for every step that a snapshot or the end of a run finishes.

Of what is held only the status counts, and that is the one of the last snapshot that has the step; a
name that has become old shows in texts only where nothing else is told.
-/

namespace ScenarioRunner

open ExecutionReport (statusOf)

/-- The report on the step at some positions in the last of some snapshots, if it has them. -/
def ExecutionReport.latestAt? (rs : List ExecutionReport) (path : List Nat) : Option StepReport :=
  rs.getLast?.bind fun r => r.report.at? path

namespace Tracker

open ExecutionReport (latestAt?)

variable {scenario : Node} {t : Tracker} {rs : List ExecutionReport} {i : Nat} {slot : Slot}
  {result : NodeResult}

/-- **What a history makes of a step** that finishes. -/
structure JudgedBy (rs : List ExecutionReport) (path : List Nat) (result : NodeResult) : Prop where
  /-- The step passes, without an explanation, if it has succeeded where a snapshot had it last, and
  the last snapshot shows no failure at or below it. -/
  passes_iff : result = .success ↔ statusOf rs path = .success ∧
    ∀ latest, latestAt? rs path = some latest → ∀ s ∈ latest.nodes, s.status ≠ .failure
  /-- Otherwise it fails, and there is something to say about it. -/
  fails : result ≠ .success → ∃ text, text ≠ "" ∧ result = .failure text
  /-- If the last snapshot has errors of what has failed at or below the step, this is what is said. -/
  explained : ∀ latest, latestAt? rs path = some latest → latest.errorLines ≠ [] →
    result = .failure (Text.joined "\n" latest.errorLines)

/-- What closes a step is what the history makes of it. -/
theorem Knows.judgedBy_of_closing (h : t.Knows scenario rs)
    (hi : (Slot.ofScenario scenario)[i]? = some slot)
    (hmem : .finished i result ∈ t.board.closing slot i (resultOf t.last none slot)) :
    JudgedBy rs slot.path result := by
  have hjudged : NodeResult.Judged (t.board.mark i).held (latestAt? rs slot.path) result := by
    rw [Board.result_of_closing hmem, h.last_eq]
    exact NodeResult.judged_ofStep ..
  refine ⟨?_, hjudged.exists_failure, fun latest => hjudged.eq_failure_of_errorLines⟩
  rw [hjudged.eq_success_iff, hjudged.verdict_eq_success_iff, h.held hi]
  simp only [StepReport.fails_iff_exists_node, not_exists, not_and, ne_eq]

/-- What a call finishes is a step that the history up to the call judges. -/
lemma exists_slot_of_finished {k : Nat} (hmem : .finished i result ∈ movesAt scenario rs k) :
    ∃ slot, (Slot.ofScenario scenario)[i]? = some slot ∧
      JudgedBy (rs.take (k + 1)) slot.path result := by
  have hrun : .finished i result ∈ movesOver scenario rs none := by
    rw [movesOver_eq_flatMap, List.mem_flatMap]
    refine ⟨k, List.mem_range.mpr (Nat.lt_succ_of_le ?_), hmem⟩
    by_contra hlt
    rw [movesAt, List.getElem?_eq_none (by omega)] at hmem
    exact absurd hmem (by simp [show k ≠ rs.length by omega])
  have hlt := (nested_movesOver scenario rs none).wellNested.slot_lt _ hrun
  have hi := List.getElem?_eq_getElem hlt
  obtain ⟨-, -, -, t, hknows, hclosing⟩ := exists_closing_of_finished hi hmem
  exact ⟨_, hi, hknows.judgedBy_of_closing hi hclosing⟩

/-- **Every step that finishes is judged by the history**: by the snapshots up to the one that
finishes it, or by all of them if it finishes at the end of a run that nothing breaks. -/
theorem judged_of_finished (scenario : Node) (rs : List ExecutionReport) :
    (∀ r i result, .finished i result ∈ (((ofScenario scenario).observeAll rs).2.observe r).1 →
      ∃ slot, (Slot.ofScenario scenario)[i]? = some slot ∧
        JudgedBy (rs ++ [r]) slot.path result) ∧
    ∀ i result, .finished i result ∈ (((ofScenario scenario).observeAll rs).2.finish none).1 →
      ∃ slot, (Slot.ofScenario scenario)[i]? = some slot ∧ JudgedBy rs slot.path result := by
  constructor
  · intro r i result hmem
    rw [← movesAt_concat] at hmem
    obtain ⟨slot, hi, hjudged⟩ := exists_slot_of_finished hmem
    rw [List.take_of_length_le (by simp)] at hjudged
    exact ⟨slot, hi, hjudged⟩
  · intro i result hmem
    rw [← movesAt_length] at hmem
    obtain ⟨slot, hi, hjudged⟩ := exists_slot_of_finished hmem
    rw [List.take_of_length_le (Nat.le_succ _)] at hjudged
    exact ⟨slot, hi, hjudged⟩

/-- A snapshot of `nested` in which the step inside has failed with an error, and the one around it
has succeeded. -/
def failedInside : ExecutionReport :=
  { ExecutionReport.blank with
    report :=
      { StepReport.blank with
        steps :=
          [{ StepReport.blank with
              status := .success
              steps :=
                [{ StepReport.blank with
                    name := "inner", status := .failure, errors := ["boom"] }] }] } }

/-- The step inside goes on at first.  Both steps fail with its error. -/
theorem judged_of_finished_nested :
    .finished 0 (.failure "inner: boom") ∈
        (((ofScenario nested).observeAll [nestedSnapshot .running .running]).2.observe
          failedInside).1 ∧
      JudgedBy [nestedSnapshot .running .running, failedInside] [0] (.failure "inner: boom") := by
  have hmem : .finished 0 (.failure "inner: boom") ∈
      (((ofScenario nested).observeAll [nestedSnapshot .running .running]).2.observe
        failedInside).1 := by decide
  obtain ⟨slot, hslot, hjudged⟩ :=
    (judged_of_finished nested [nestedSnapshot .running .running]).1 _ _ _ hmem
  obtain rfl : slot = ⟨[0], none, 2, false, false⟩ :=
    Option.some.inj (hslot.symm.trans (by decide))
  exact ⟨hmem, hjudged⟩

end Tracker

end ScenarioRunner

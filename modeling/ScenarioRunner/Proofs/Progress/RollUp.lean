import ScenarioRunner.Proofs.Progress.Nesting
import ScenarioRunner.Proofs.Progress.RetryWindow

/-!
# Results of steps against the results around them

A step is judged once, when it is closed, by what the snapshots up to then say.  So results agree with
those of the steps around them only as far as they are given by one call.

* `Tracker.movesAt` are the moves of one call of a run that nothing breaks: a call for each snapshot,
  and the end.
* `ExecutionReport.Passes`: after a history a step has succeeded, and nothing at or below it has failed.
* `Tracker.Knows.verdict_of_closing`: that decides the result with which a step is closed.
* `Tracker.RollsUp` compares the results of a run, and `Tracker.rollsUp_movesOver` shows it of all runs.
* `Tracker.not_rollsUp_grouped`: a step may pass although two steps in it are finished as failed.

A status that is no outcome does not count for the steps around, but a step that ends with it fails;
and what an earlier call has judged is not judged again.
-/

namespace ScenarioRunner

namespace ExecutionReport

variable {rs : List ExecutionReport} {r : ExecutionReport} {path path' : List Nat}

/-- The snapshot shows a failure of the step at some positions or of one below it. -/
def FailsAt (r : ExecutionReport) (path : List Nat) : Prop :=
  ∃ below, path <+: below ∧ r.statusAt? below = some .failure

/-- After a history the step at some positions passes: it has succeeded, and the last snapshot shows no
failure at or below it. -/
def Passes (rs : List ExecutionReport) (path : List Nat) : Prop :=
  statusOf rs path = .success ∧ ∀ r, rs.getLast? = some r → ¬ r.FailsAt path

lemma FailsAt.of_prefix (h : r.FailsAt path') (hpath : path <+: path') : r.FailsAt path := by
  obtain ⟨below, hbelow, hstatus⟩ := h
  exact ⟨below, hpath.trans hbelow, hstatus⟩

end ExecutionReport

namespace StepReport

/-- Failures in the tree of a step are failures at or below its positions. -/
lemma failsAt_iff (r : ExecutionReport) (path : List Nat) :
    r.FailsAt path ↔ ∃ s, r.report.at? path = some s ∧ s.Fails := by
  constructor
  · rintro ⟨_, ⟨rest, rfl⟩, hstatus⟩
    rw [ExecutionReport.statusAt?, at?_append, Option.map_eq_some_iff] at hstatus
    obtain ⟨below, hbelow, hstatus⟩ := hstatus
    obtain ⟨s, hs, hrest⟩ := Option.bind_eq_some_iff.mp hbelow
    exact ⟨s, hs, rest, below, hrest, hstatus⟩
  · rintro ⟨s, hs, rest, below, hrest, hstatus⟩
    refine ⟨path ++ rest, List.prefix_append .., ?_⟩
    rw [ExecutionReport.statusAt?, at?_append, hs, Option.bind_some, hrest, Option.map_some, hstatus]

end StepReport

namespace Tracker

open ExecutionReport (statusOf Passes)

variable {scenario : Node} {t : Tracker} {rs : List ExecutionReport} {r : ExecutionReport}
  {i k k' : Nat} {slot : Slot} {result result' : NodeResult}

/-! ## The result of one step -/

/-- **What closes a step is judged by its history**: it passes if the step does. -/
theorem Knows.verdict_of_closing (h : t.Knows scenario rs)
    (hi : (Slot.ofScenario scenario)[i]? = some slot)
    (hmem : .finished i result ∈ t.board.closing slot i (resultOf t.last none slot)) :
    result.verdict = .success ↔ Passes rs slot.path := by
  rw [Board.result_of_closing hmem, resultOf, NodeResult.verdict_ofStep_eq_success_iff_forall,
    h.held hi, h.last_eq, Passes]
  refine and_congr_right fun _ => ?_
  cases rs.getLast? with
  | none => simp
  | some last =>
      simp only [Option.bind_some, Option.some.injEq, forall_eq', StepReport.failsAt_iff, not_exists,
        not_and]

/-! ## The calls of a run -/

/-- The moves of one call of a run that nothing breaks: the call `k` observes the snapshot at `k`, and
the one behind the last snapshot closes what is open. -/
def movesAt (scenario : Node) (rs : List ExecutionReport) (k : Nat) : List Move :=
  match rs[k]? with
  | some r => (((ofScenario scenario).observeAll (rs.take k)).2.observe r).1
  | none =>
    if k = rs.length then (((ofScenario scenario).observeAll rs).2.finish none).1 else []

lemma movesAt_append (rs rs' : List ExecutionReport) (hk : k < rs.length) :
    movesAt scenario (rs ++ rs') k = movesAt scenario rs k := by
  rw [movesAt, movesAt, List.getElem?_append_left hk, List.take_append_of_le_length (Nat.le_of_lt hk),
    List.getElem?_eq_getElem hk]

lemma movesAt_concat (scenario : Node) (rs : List ExecutionReport) (r : ExecutionReport) :
    movesAt scenario (rs ++ [r]) rs.length =
      (((ofScenario scenario).observeAll rs).2.observe r).1 := by
  simp [movesAt]

lemma movesAt_length (scenario : Node) (rs : List ExecutionReport) :
    movesAt scenario rs rs.length = (((ofScenario scenario).observeAll rs).2.finish none).1 := by
  simp [movesAt]

/-- The moves of some snapshots are those of their calls. -/
lemma observeAll_eq_flatMap (scenario : Node) (rs : List ExecutionReport) :
    ((ofScenario scenario).observeAll rs).1 =
      (List.range rs.length).flatMap (movesAt scenario rs) := by
  induction rs using List.reverseRecOn with
  | nil => rfl
  | append_singleton rs r ih =>
      rw [observeAll_concat, ih, List.length_append, List.length_singleton, List.range_succ,
        List.flatMap_append, List.flatMap_singleton, movesAt_concat]
      refine congrArg (· ++ _) (List.flatMap_congr fun k hk => ?_)
      exact (movesAt_append rs [r] (List.mem_range.mp hk)).symm

/-- **The moves of a run are those of its calls.** -/
theorem movesOver_eq_flatMap (scenario : Node) (rs : List ExecutionReport) :
    movesOver scenario rs none = (List.range (rs.length + 1)).flatMap (movesAt scenario rs) := by
  rw [movesOver, observeAll_eq_flatMap, List.range_succ, List.flatMap_append, List.flatMap_singleton,
    movesAt_length]

/-- What a call finishes was open before it and is settled behind it unless it is the last call, and
the call closes it with what a tracker knows that has observed the snapshots up to it. -/
lemma exists_closing_of_finished (hi : (Slot.ofScenario scenario)[i]? = some slot)
    (hmem : .finished i result ∈ movesAt scenario rs k) :
    k ≤ rs.length ∧ ¬ scenario.Settled (rs.take k) slot.path ∧
      (k < rs.length → scenario.Settled (rs.take (k + 1)) slot.path) ∧
      ∃ t : Tracker, t.Knows scenario (rs.take (k + 1)) ∧
        .finished i result ∈ t.board.closing slot i (resultOf t.last none slot) := by
  have hmem' := Move.mem_ofSlot.mpr ⟨hmem, rfl⟩
  rw [Move.slot, movesAt] at hmem'
  cases hk : rs[k]? with
  | some r =>
      obtain ⟨hlt, hr⟩ := List.getElem?_eq_some_iff.mp hk
      have hseen : rs.take (k + 1) = rs.take k ++ [r] := by rw [List.take_add_one, hk]; rfl
      have hknows := knows_observeAll scenario (rs.take k)
      have hnext := knows_observe hknows r
      simp only [hk] at hmem'
      rw [ofSlot_observe hknows r hi, List.mem_append, or_iff_right (by split <;> simp)] at hmem'
      split at hmem'
      · next hcloses =>
        rw [← Bool.not_eq_true, hknows.closed hi, hnext.closed hi] at hcloses
        rw [hseen]
        exact ⟨Nat.le_of_lt hlt, hcloses.1, fun _ => hcloses.2, _, hnext, hmem'⟩
      · exact absurd hmem' List.not_mem_nil
  | none =>
      have hle : rs.length ≤ k := List.getElem?_eq_none_iff.mp hk
      simp only [hk] at hmem'
      split at hmem'
      · next hend =>
        have hknows := knows_observeAll scenario rs
        rw [ofSlot_finish hknows none hi] at hmem'
        split at hmem'
        · next hopen =>
          rw [← Bool.not_eq_true, hknows.closed hi] at hopen
          rw [List.take_of_length_le hle, List.take_of_length_le (Nat.le_succ_of_le hle)]
          exact ⟨Nat.le_of_eq hend, hopen, fun hlt => absurd hlt (by omega), _, hknows, hmem'⟩
        · exact absurd hmem' List.not_mem_nil
      · exact absurd hmem' List.not_mem_nil

/-- **What a call finishes** is judged by the snapshots up to it. -/
lemma of_finished_mem_movesAt (hi : (Slot.ofScenario scenario)[i]? = some slot)
    (hmem : .finished i result ∈ movesAt scenario rs k) :
    k ≤ rs.length ∧ ¬ scenario.Settled (rs.take k) slot.path ∧
      (k < rs.length → scenario.Settled (rs.take (k + 1)) slot.path) ∧
      (result.verdict = .success ↔ Passes (rs.take (k + 1)) slot.path) := by
  obtain ⟨hle, hopen, hsettled, t, hknows, hclosing⟩ := exists_closing_of_finished hi hmem
  exact ⟨hle, hopen, hsettled, hknows.verdict_of_closing hi hclosing⟩

/-- Where the last snapshot shows no failure, a step fails exactly if its status is not success. -/
lemma verdict_eq_failure_iff_of_calm {path : List Nat}
    (hverdict : result.verdict = .success ↔ Passes rs path)
    (hcalm : ∀ r, rs.getLast? = some r → ¬ r.FailsAt path) :
    result.verdict = .failure ↔ statusOf rs path ≠ .success := by
  rw [result.verdict_eq_failure_iff, hverdict, Passes, and_iff_left hcalm]

/-- **How results of steps agree** with one another in a run that nothing breaks. -/
structure RollsUp (scenario : Node) (rs : List ExecutionReport) : Prop where
  /-- A run is made of its calls. -/
  calls : movesOver scenario rs none = (List.range (rs.length + 1)).flatMap (movesAt scenario rs)
  /-- A step that a call finishes passes if it has succeeded after the snapshots up to that call, and
  the last of them shows no failure at or below it. -/
  judged : ∀ {k i : Nat} {slot : Slot} {result : NodeResult},
    (Slot.ofScenario scenario)[i]? = some slot → .finished i result ∈ movesAt scenario rs k →
    (result.verdict = .success ↔ Passes (rs.take (k + 1)) slot.path)
  /-- Nothing below a step that passes is finished by a later call.  What is finished by the same call
  shows no failure, so that it fails only where its status is not success. -/
  below : ∀ {k k' p d : Nat} {slot : Slot} {result result' : NodeResult},
    Slot.Below scenario d p → (Slot.ofScenario scenario)[d]? = some slot →
    .finished p result ∈ movesAt scenario rs k → result.verdict = .success →
    .finished d result' ∈ movesAt scenario rs k' →
    k' ≤ k ∧ (k' = k →
      (∀ r, (rs.take (k + 1)).getLast? = some r → ¬ r.FailsAt slot.path) ∧
      (result'.verdict = .failure ↔ statusOf (rs.take (k + 1)) slot.path ≠ .success))
  /-- When the scenario passes, the same is true of every step that the last snapshot or the end
  finishes. -/
  whole : ∀ {last : ExecutionReport} {k d : Nat} {slot : Slot} {result : NodeResult},
    rs.getLast? = some last → last.verdict = .success → rs.length ≤ k + 1 →
    (Slot.ofScenario scenario)[d]? = some slot → .finished d result ∈ movesAt scenario rs k →
    ¬ last.FailsAt slot.path ∧ (result.verdict = .failure ↔ statusOf rs slot.path ≠ .success)

/-- A scenario that passes shows no failure anywhere. -/
lemma not_failsAt_of_verdict (h : r.verdict = .success) (path : List Nat) : ¬ r.FailsAt path := by
  intro hfails
  obtain ⟨s, hs, hroot⟩ := (StepReport.failsAt_iff r []).mp (hfails.of_prefix List.nil_prefix)
  obtain rfl : r.report = s := Option.some.inj hs
  exact (r.verdict_eq_success_iff.mp h).2 hroot

/-- **Results of steps roll up within a call.**  In every run that nothing breaks, a step that passes
has nothing below it that the same call finishes as failed, unless its status is no success then; and
likewise the steps of a scenario that passes, at its last snapshot and at its end. -/
theorem rollsUp_movesOver (scenario : Node) (rs : List ExecutionReport) : RollsUp scenario rs where
  calls := movesOver_eq_flatMap scenario rs
  judged hi hmem := (of_finished_mem_movesAt hi hmem).2.2.2
  below := by
    intro k k' p d slot result result' hbelow hd hp hpasses hmem
    obtain ⟨s, above, hs, habove, hprefix, -⟩ := hbelow
    obtain rfl : s = slot := Option.some.inj (hs.symm.trans hd)
    obtain ⟨-, -, hsettled, hverdict⟩ := of_finished_mem_movesAt habove hp
    obtain ⟨hle, hopen, -, hverdict'⟩ := of_finished_mem_movesAt hd hmem
    constructor
    · -- what is settled with the step above is not open in a later call
      by_contra hlater
      have hearlier : rs.take (k + 1) ⊆ rs.take k' :=
        (List.take_prefix_take_left (by omega)).subset
      have hbefore := hsettled (by omega)
      exact hopen ((hbefore.of_prefix hprefix).mono hearlier)
    · rintro rfl
      have hcalm : ∀ r, (rs.take (k' + 1)).getLast? = some r → ¬ r.FailsAt s.path :=
        fun r hr hfails => (hverdict.mp hpasses).2 r hr (hfails.of_prefix hprefix)
      exact ⟨hcalm, verdict_eq_failure_iff_of_calm hverdict' hcalm⟩
  whole := by
    intro last k d slot result hlast hpasses hk hd hmem
    obtain ⟨-, -, -, hverdict⟩ := of_finished_mem_movesAt hd hmem
    have hcalm := not_failsAt_of_verdict hpasses slot.path
    rw [List.take_of_length_le hk] at hverdict
    refine ⟨hcalm, verdict_eq_failure_iff_of_calm hverdict fun r hr => ?_⟩
    obtain rfl : last = r := Option.some.inj (hlast.symm.trans hr)
    exact hcalm

/-- A scenario whose only step groups two other ones. -/
def grouped : Node :=
  .ofScenario ((NodeId.engine NodeId.engineName).append "class" "a.A") "s"
    ⟨.ofStep "grouped"
      (.group "outer" [.action "first" (.ofAction "debug"), .action "second" (.ofAction "debug")]),
      "a.A", "p", none⟩
    true

/-- A snapshot of it. -/
def groupedSnapshot (whole outer first second : Status) : ExecutionReport :=
  .around 1 "grouped" "DEV"
    { StepReport.blank with
      status := whole
      steps :=
        [{ StepReport.blank with
          status := outer
          steps :=
            [{ StepReport.blank with status := first },
              { StepReport.blank with status := second }] }] }

/-- The second step fails and is shown as succeeded later, and the first one is still running when the
step around both has succeeded. -/
def recovered : List ExecutionReport :=
  [groupedSnapshot .running .running .running .failure,
    groupedSnapshot .success .success .running .success]

/-- The step around both passes with the second snapshot.  What is finished with it fails only because
of its status. -/
theorem rollsUp_movesOver_grouped :
    .finished 0 .success ∈ movesAt grouped recovered 1 ∧
      .finished 1 (.failure "step '' ended with status RUNNING") ∈ movesAt grouped recovered 1 ∧
      (∀ r, recovered.getLast? = some r → ¬ r.FailsAt [0, 0]) ∧
      statusOf recovered [0, 0] ≠ .success := by
  have houter : .finished 0 .success ∈ movesAt grouped recovered 1 := by decide
  have hfirst : .finished 1 (.failure "step '' ended with status RUNNING") ∈
      movesAt grouped recovered 1 := by decide
  have hbelow : Slot.Below grouped 1 0 :=
    ⟨⟨[0, 0], some 0, 2, false, false⟩, ⟨[0], none, 3, false, false⟩, by decide, by decide, by decide,
      by decide⟩
  have hslot : (Slot.ofScenario grouped)[1]? = some ⟨[0, 0], some 0, 2, false, false⟩ := by decide
  obtain ⟨-, hsame⟩ :=
    (rollsUp_movesOver grouped recovered).below hbelow hslot houter rfl hfirst
  obtain ⟨hcalm, hfails⟩ := hsame rfl
  exact ⟨houter, hfirst, hcalm, hfails.mp rfl⟩

/-- **A step may pass although steps in it are finished as failed**, and so may the scenario.  One of
them was judged by the first snapshot, the other one by a status that is no outcome. -/
theorem not_rollsUp_grouped :
    (groupedSnapshot .success .success .running .success).verdict = .success ∧
      Slot.Below grouped 1 0 ∧ Slot.Below grouped 2 0 ∧
      .finished 0 .success ∈ movesOver grouped recovered none ∧
      .finished 1 (.failure "step '' ended with status RUNNING") ∈
        movesOver grouped recovered none ∧
      .finished 2 (.failure "step '' failed") ∈ movesOver grouped recovered none := by
  refine ⟨by decide, ?_, ?_, by decide, by decide, by decide⟩
  · exact ⟨⟨[0, 0], some 0, 2, false, false⟩, ⟨[0], none, 3, false, false⟩, by decide, by decide,
      by decide, by decide⟩
  · exact ⟨⟨[0, 1], some 0, 3, false, false⟩, ⟨[0], none, 3, false, false⟩, by decide, by decide,
      by decide, by decide⟩

end Tracker

end ScenarioRunner

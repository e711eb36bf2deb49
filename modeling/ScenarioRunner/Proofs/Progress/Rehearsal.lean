import Mathlib.Data.List.Sort
import ScenarioRunner.Proofs.Progress.Order
import ScenarioRunner.Proofs.Progress.Positions
import ScenarioRunner.Proofs.Progress.RollUp

/-!
# Runs that show every step at once

What the steps of a scenario do when its first snapshot shows all of them as executed.

* `Tracker.ofSlot_movesOver_of_shown`: each step starts and then finishes, whatever comes next and
  however the run ends.
* `Tracker.starts_movesOver_of_shown`: the steps start in the order of the tree.
* `Tracker.ofSlot_movesOver_of_uniform`: if all steps go on at first and then have succeeded, then each
  finishes with success.

A step with retries at, around or below it is not settled by its outcome and finishes at the end of the
run, and any other one with the second snapshot.  Both are judged by the same two snapshots.
-/

namespace ScenarioRunner

open ExecutionReport (statusOf Passes)

/-- When every step has started, no step starts any more. -/
lemma Move.WellNested.starts_eq_nil {scenario : Node} {moves more : List Move}
    (h : WellNested scenario (moves ++ more))
    (hall : ∀ i < (Slot.ofScenario scenario).length, .started i ∈ moves) : starts more = [] := by
  refine List.eq_nil_iff_forall_not_mem.mpr fun i hi => ?_
  rw [mem_starts] at hi
  have hstarted := hall i (h.slot_lt (.started i) (List.mem_append_right _ hi))
  have honce := h.starts_once i
  have hearly : 0 < moves.countP (· == .started i) :=
    List.countP_pos_iff.mpr ⟨_, hstarted, beq_self_eq_true _⟩
  have hlate : 0 < more.countP (· == .started i) :=
    List.countP_pos_iff.mpr ⟨_, hi, beq_self_eq_true _⟩
  rw [List.countP_append] at honce
  omega

namespace Node

variable {scenario : Node} {r : ExecutionReport} {rest : List ExecutionReport} {path : List Nat}

/-- A step that the first snapshot shows as executed is never revived. -/
lemma not_revived_cons (h : scenario.Executed [r] path) : ¬ scenario.Revived (r :: rest) path := by
  rintro ⟨early, late, heq, hsettled, hnot, -⟩
  cases early with
  | nil => exact not_settled_nil hsettled
  | cons r' early =>
      obtain ⟨rfl, -⟩ := List.cons.inj heq
      exact hnot (h.mono (by simp))

end Node

namespace Tracker

variable {scenario : Node} {r last : ExecutionReport} {i : Nat} {slot : Slot}

section Shown

variable (hshown : ∀ path, (scenario.step? path).isSome → r.Shows path)

include hshown

lemma executed_of_shown (hi : (Slot.ofScenario scenario)[i]? = some slot) :
    scenario.Executed [r] slot.path := by
  obtain ⟨node, hnode, -⟩ := Slot.exists_node_of_getElem? hi
  have hstep : (scenario.step? slot.path).isSome := by rw [hnode]; rfl
  exact ⟨r, List.mem_singleton_self r, slot.path, List.prefix_refl _, hstep, hshown _ hstep⟩

/-- **Every step starts and finishes**, if the first snapshot shows all of them as executed. -/
theorem ofSlot_movesOver_of_shown (rest : List ExecutionReport) (failure : Option String)
    (hi : (Slot.ofScenario scenario)[i]? = some slot) :
    ∃ result, Move.ofSlot i (movesOver scenario (r :: rest) failure) =
      [.started i, .finished i result] := by
  have hexecuted := executed_of_shown hshown hi
  have hlater : scenario.Executed (r :: rest) slot.path := hexecuted.mono (by simp)
  have houtcome := outcome_movesOver (r :: rest) failure hi
  generalize Move.ofSlot i (movesOver scenario (r :: rest) failure) = moves at houtcome ⊢
  cases houtcome with
  | finished result => exact ⟨result, rfl⟩
  | skipped _ hnot => exact absurd hlater hnot
  | passed hnot => exact absurd hlater hnot
  | relapsed hrevived => exact absurd hrevived (Node.not_revived_cons hexecuted)

/-- The first snapshot starts every step, in the order of the tree. -/
lemma starts_observe_of_shown :
    Move.starts ((ofScenario scenario).observe r).1 =
      List.range (Slot.ofScenario scenario).length := by
  have hknows := knows_ofScenario scenario
  have hsorted := pairwise_starts_observe (records_ofScenario scenario) rfl r
  refine hsorted.eq_of_mem_iff List.pairwise_lt_range fun i => ?_
  rw [Move.mem_starts, List.mem_range]
  constructor
  · intro hi
    have hmem : .started i ∈ movesOver scenario [r] none := by
      rw [movesOver, observeAll_cons]
      exact List.mem_append_left _ (List.mem_append_left _ hi)
    exact (nested_movesOver scenario [r] none).wellNested.slot_lt _ hmem
  · intro hlt
    have hi := List.getElem?_eq_getElem hlt
    rw [started_mem_observe_iff hknows r hi]
    exact ⟨Node.not_executed_nil, executed_of_shown hshown hi⟩

/-- **The steps start in the order of the tree**, if the first snapshot shows all of them as
executed. -/
theorem starts_movesOver_of_shown (rest : List ExecutionReport) (failure : Option String) :
    Move.starts (movesOver scenario (r :: rest) failure) =
      List.range (Slot.ofScenario scenario).length := by
  obtain ⟨more, hmore⟩ : ∃ more, movesOver scenario (r :: rest) failure =
      ((ofScenario scenario).observe r).1 ++ more :=
    ⟨_, by rw [movesOver, observeAll_cons, List.append_assoc]⟩
  have hfirst := starts_observe_of_shown hshown
  have hnested := (nested_movesOver scenario (r :: rest) failure).wellNested
  rw [hmore] at hnested ⊢
  rw [Move.starts_append, hfirst, hnested.starts_eq_nil fun i hi => ?_, List.append_nil]
  rw [← Move.mem_starts, hfirst]
  exact List.mem_range.mpr hi

end Shown

/-- **Every step finishes with success**, if all steps go on in the first of two snapshots and have
succeeded in the second one, and the scenario passes. -/
theorem ofSlot_movesOver_of_uniform (hr : r.Uniform scenario .running)
    (hlast : last.Uniform scenario .success) (hverdict : last.verdict = .success)
    (hi : (Slot.ofScenario scenario)[i]? = some slot) :
    Move.ofSlot i (movesOver scenario [r, last] none) = [.started i, .finished i .success] := by
  have hshown : ∀ path, (scenario.step? path).isSome → r.Shows path :=
    fun _ => hr.shows (by decide)
  obtain ⟨node, hnode, -⟩ := Slot.exists_node_of_getElem? hi
  have hstatus : last.statusAt? slot.path = some .success := hlast _ (by rw [hnode]; rfl)
  obtain ⟨result, hmoves⟩ := ofSlot_movesOver_of_shown hshown [last] none hi
  have hown : .finished i result ∈ Move.ofSlot i (movesOver scenario [r, last] none) := by
    rw [hmoves]
    simp
  obtain ⟨k, -, hk⟩ := List.mem_flatMap.mp
    (movesOver_eq_flatMap scenario [r, last] ▸ (Move.mem_ofSlot.mp hown).1)
  obtain ⟨-, -, hsettled, t, hknows, hclosing⟩ := exists_closing_of_finished hi hk
  have hseen : [r, last].take (k + 1) = [r, last] := by
    cases k with
    | zero =>
        -- the first snapshot shows no outcome, so that it settles nothing
        obtain ⟨r', hr', around, -, hstep, -, s, hs, hterminal⟩ := hsettled (by simp)
        obtain rfl : r' = r := List.mem_singleton.mp hr'
        obtain rfl : s = .running := Option.some.inj (hs.symm.trans (hr around hstep))
        exact absurd hterminal (by decide)
    | succ k => exact List.take_of_length_le (by simp)
  rw [hseen] at hknows
  have hpasses : Passes [r, last] slot.path := by
    refine ⟨?_, fun r' hr' => ?_⟩
    · rw [← List.singleton_append, ExecutionReport.statusOf_concat, hstatus]
      rfl
    · obtain rfl : last = r' := by simpa using hr'
      exact not_failsAt_of_verdict hverdict slot.path
  have hpassed : result.verdict = .success := (hknows.verdict_of_closing hi hclosing).mpr hpasses
  have hresult : result = .success := by
    rw [Board.result_of_closing hclosing] at hpassed ⊢
    exact NodeResult.ofStep_eq_success hpassed
  rw [hmoves, hresult]

end Tracker

end ScenarioRunner

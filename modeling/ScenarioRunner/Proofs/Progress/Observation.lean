import ScenarioRunner.Proofs.Progress.Knowledge

/-!
# Observing a history

What a tracker has done after a history of snapshots, as a function of the history.

* `Tracker.observeAll_append` and `Tracker.knows_observeAll`: a tracker that has observed a history
  knows it.
* `Tracker.started_mem_observe_iff`: a step starts with the first snapshot that executes it.
* `Tracker.observeAll_eq_history` puts the marks and the starts of all steps together.
-/

namespace ScenarioRunner

namespace Tracker

variable {scenario : Node} {t : Tracker} {rs rs' : List ExecutionReport} {r : ExecutionReport}
  {i : Nat} {slot : Slot}

lemma observeAll_cons (t : Tracker) (r : ExecutionReport) (rs : List ExecutionReport) :
    t.observeAll (r :: rs) =
      ((t.observe r).1 ++ ((t.observe r).2.observeAll rs).1,
        ((t.observe r).2.observeAll rs).2) := rfl

/-- Histories are observed one after the other. -/
theorem observeAll_append (t : Tracker) (rs rs' : List ExecutionReport) :
    t.observeAll (rs ++ rs') =
      ((t.observeAll rs).1 ++ ((t.observeAll rs).2.observeAll rs').1,
        ((t.observeAll rs).2.observeAll rs').2) := by
  induction rs generalizing t with
  | nil => rfl
  | cons r rs ih =>
      rw [List.cons_append, observeAll_cons, observeAll_cons, ih, List.append_assoc]

lemma observeAll_concat (t : Tracker) (rs : List ExecutionReport) (r : ExecutionReport) :
    t.observeAll (rs ++ [r]) =
      ((t.observeAll rs).1 ++ ((t.observeAll rs).2.observe r).1,
        ((t.observeAll rs).2.observe r).2) := by
  rw [observeAll_append]
  simp [observeAll]

/-- **A tracker knows what it has observed.** -/
theorem knows_observeAll (scenario : Node) (rs : List ExecutionReport) :
    ((ofScenario scenario).observeAll rs).2.Knows scenario rs := by
  induction rs using List.reverseRecOn with
  | nil => exact knows_ofScenario scenario
  | append_singleton rs r ih =>
      rw [observeAll_concat]
      exact knows_observe ih r

/-- The step around a slot has started as far as its history goes. -/
lemma Knows.parentStarted_iff (h : t.Knows scenario rs)
    (hi : (Slot.ofScenario scenario)[i]? = some slot) :
    t.board.parentStarted slot = true ↔
      slot.path.dropLast = [] ∨ scenario.Executed rs slot.path.dropLast := by
  unfold Board.parentStarted
  rcases Slot.parent?_spec hi with ⟨hnone, j, hpath⟩ | ⟨q, above, j, -, hq, hsome, hpath⟩
  · simp [hnone, hpath]
  · obtain ⟨node, hnode, -⟩ := Slot.exists_node_of_getElem? hq
    have hne : above.path ≠ [] := ((Node.step?_eq_some_iff ..).mp hnode).1
    simp only [hsome, hpath, List.dropLast_concat, hne, false_or]
    exact h.started hq

lemma started_not_mem_closing (b : Board) (slot : Slot) (i j : Nat)
    (result : StepReport → NodeResult) : Move.started j ∉ b.closing slot i result := by
  unfold Board.closing
  split
  · simp
  · split <;> simp

/-- **A step starts with the first snapshot** that shows it or one below it as executed. -/
theorem started_mem_observe_iff (h : t.Knows scenario rs) (r : ExecutionReport)
    (hi : (Slot.ofScenario scenario)[i]? = some slot) :
    .started i ∈ (t.observe r).1 ↔
      ¬ scenario.Executed rs slot.path ∧ scenario.Executed (rs ++ [r]) slot.path := by
  have hmem : .started i ∈ (t.observe r).1 ↔
      .started i ∈ Move.ofSlot i (t.observe r).1 := by
    rw [Move.mem_ofSlot]
    exact ⟨fun hin => ⟨hin, rfl⟩, fun hin => hin.1⟩
  have hclosing : ∀ (q : Prop) [Decidable q], Move.started i ∉
      if q then (t.observe r).2.board.closing slot i (resultOf (some r) none slot) else [] := by
    intro q _
    split
    · exact started_not_mem_closing _ slot i i _
    · exact List.not_mem_nil
  rw [hmem, ofSlot_observe h r hi, List.mem_append, or_iff_left (hclosing _),
    ← h.started hi, ← (knows_observe h r).started hi, Bool.not_eq_true]
  split <;> simp_all

/-- A step has started if some snapshot has shown it or one below it as executed. -/
lemma started_mem_observeAll_iff (rs : List ExecutionReport)
    (hi : (Slot.ofScenario scenario)[i]? = some slot) :
    .started i ∈ ((ofScenario scenario).observeAll rs).1 ↔ scenario.Executed rs slot.path := by
  induction rs using List.reverseRecOn with
  | nil => exact ⟨fun h => absurd h List.not_mem_nil, fun h => absurd h Node.not_executed_nil⟩
  | append_singleton rs r ih =>
      rw [observeAll_concat, List.mem_append, ih,
        started_mem_observe_iff (knows_observeAll scenario rs) r hi, Node.executed_append]
      tauto

/-- **The marks are a function of the history.**  The slots of a scenario are its steps.  After any
history, a step has started if some snapshot has shown it or one below it as anything but not
executed, its start was told with the first such snapshot, and it is closed if some snapshot has shown
an outcome of it or of a step around it, where nothing at, around or below the latter is tried
again. -/
theorem observeAll_eq_history (scenario : Node) (rs : List ExecutionReport) :
    (∀ path, (∃ node, scenario.step? path = some node) ↔
      ∃ (i : Nat) (slot : Slot), (Slot.ofScenario scenario)[i]? = some slot ∧ slot.path = path) ∧
    ∀ (i : Nat) (slot : Slot), (Slot.ofScenario scenario)[i]? = some slot →
      let (moves, t) := (ofScenario scenario).observeAll rs
      (.started i ∈ moves ↔ scenario.Executed rs slot.path) ∧
      ((t.board.mark i).started = true ↔ scenario.Executed rs slot.path) ∧
      ((t.board.mark i).closed = true ↔ scenario.Settled rs slot.path) ∧
      ∀ before r after, rs = before ++ r :: after →
        (.started i ∈ (((ofScenario scenario).observeAll before).2.observe r).1 ↔
          ¬ scenario.Executed before slot.path ∧
            scenario.Executed (before ++ [r]) slot.path) := by
  refine ⟨fun path => ⟨?_, ?_⟩, fun i slot hi => ⟨?_, ?_, ?_, ?_⟩⟩
  · rintro ⟨node, hnode⟩
    exact Slot.exists_slot_of_step? hnode
  · rintro ⟨i, slot, hi, rfl⟩
    obtain ⟨node, hnode, -⟩ := Slot.exists_node_of_getElem? hi
    exact ⟨node, hnode⟩
  · exact started_mem_observeAll_iff rs hi
  · exact (knows_observeAll scenario rs).started hi
  · exact (knows_observeAll scenario rs).closed hi
  · intro before r after _
    exact started_mem_observe_iff (knows_observeAll scenario before) r hi

/-- A scenario whose only step groups another one. -/
def nested : Node :=
  .ofScenario ((NodeId.engine NodeId.engineName).append "class" "a.A") "s"
    ⟨.ofStep "nested" (.group "outer" [.action "inner" (.ofAction "success")]), "a.A", "p", none⟩
    true

/-- A snapshot of it. -/
def nestedSnapshot (outer inner : Status) : ExecutionReport :=
  { ExecutionReport.blank with
    report :=
      { StepReport.blank with
        steps :=
          [{ StepReport.blank with
            status := outer, steps := [{ StepReport.blank with status := inner }] }] } }

/-- The step inside is executed and settled by its own outcome, and the one around it stays open. -/
theorem observeAll_eq_history_nested :
    (Slot.ofScenario nested)[1]? = some ⟨[0, 0], some 0, 2, false, false⟩ ∧
      nested.Executed [nestedSnapshot .running .success] [0, 0] ∧
      nested.Settled [nestedSnapshot .running .success] [0, 0] ∧
      ¬ nested.Settled [nestedSnapshot .running .success] [0] := by
  have hinner := (observeAll_eq_history nested [nestedSnapshot .running .success]).2 1
    ⟨[0, 0], some 0, 2, false, false⟩ (by decide)
  have houter := (observeAll_eq_history nested [nestedSnapshot .running .success]).2 0
    ⟨[0], none, 2, false, false⟩ (by decide)
  refine ⟨by decide, hinner.1.mp (by decide), hinner.2.2.1.mp (by decide), fun hsettled => ?_⟩
  exact absurd (houter.2.2.1.mpr hsettled) (by decide)

end Tracker

end ScenarioRunner

import ScenarioRunner.Engine.Job
import ScenarioRunner.Proofs.Progress.Index

/-!
# What is told of steps

A move of a step is told as an event of the node of its slot, and a slot without a node would tell
nothing.

* `Job.stepEvent?_eq`: a move is told of the step that has the place of its slot among all steps.
* `Job.forall₂_emitAll`: moves of slots in the row are told one by one.
* `Tracker.represents_tree`: the row of slots stands for the tree of steps, the node of a slot is the
  step at its place, and whatever a tracker does, every move that it makes is told.
-/

namespace ScenarioRunner

namespace Job

variable {job : Job} {moves : List Move}

/-- **A move is told of the step** that has the place of its slot among all steps. -/
theorem stepEvent?_eq (job : Job) (m : Move) :
    job.stepEvent? m = ((Node.descendantsOf job.node.children)[m.slot]?).map fun step =>
      ⟨.stepAt job.group job.place m.slot, step, m.change⟩ := by
  rw [stepEvent?, Tracker.node?_eq]
  rfl

/-- The action tells a move of the step at the place of its slot. -/
def Emits (job : Job) (m : Move) (action : JobAction) : Prop :=
  ∃ step, (Node.descendantsOf job.node.children)[m.slot]? = some step ∧
    action = .emit ⟨.stepAt job.group job.place m.slot, step, m.change⟩

/-- **Moves of slots in the row are told one by one**, each by an action of its own. -/
theorem forall₂_emitAll (h : ∀ m ∈ moves, m.slot < (Slot.ofScenario job.node).length) :
    List.Forall₂ job.Emits moves (job.emitAll moves) := by
  induction moves with
  | nil => exact .nil
  | cons m moves ih =>
      rw [List.forall_mem_cons] at h
      obtain ⟨hm, hmoves⟩ := h
      rw [Slot.length_ofScenario, ← Node.length_descendantsOf] at hm
      obtain ⟨step, hstep⟩ : ∃ step, (Node.descendantsOf job.node.children)[m.slot]? = some step :=
        ⟨_, List.getElem?_eq_getElem hm⟩
      have hevent : job.stepEvent? m = some ⟨.stepAt job.group job.place m.slot, step, m.change⟩ := by
        rw [stepEvent?_eq, hstep, Option.map_some]
      have htold : job.emitAll (m :: moves) =
          .emit ⟨.stepAt job.group job.place m.slot, step, m.change⟩ :: job.emitAll moves := by
        rw [emitAll, List.filterMap_cons_some hevent, List.map_cons, emitAll]
      rw [htold]
      exact .cons ⟨step, hstep, rfl⟩ (ih hmoves)

end Job

namespace Tracker

/-- **The row of slots represents the tree of steps.**  There is a slot for every step of a scenario, in
the order of the tree, and it says of its step what the tree says: where it stands, which slot is that of
its parent, which ones are those of its descendants, and whether a step around or below it is tried
again.  Whatever a tracker of the scenario has observed and however often it was closed, the node of a
slot is this step, so that there is one for every slot.  Each move that it makes with a further snapshot
or at the end is told of the step of its slot, and none is left out. -/
theorem represents_tree (scenario : Node) :
    (Slot.ofScenario scenario).length = (Node.descendantsOf scenario.children).length ∧
      (∀ (i : Nat) (slot : Slot), (Slot.ofScenario scenario)[i]? = some slot →
        ∃ step, (Node.descendantsOf scenario.children)[i]? = some step ∧
          slot.Represents scenario i step) ∧
      ∀ t, Reachable scenario t →
        (∀ i, t.node? i = (Node.descendantsOf scenario.children)[i]?) ∧
          ∀ job : Job, job.node = scenario →
            (∀ r, List.Forall₂ job.Emits (t.observe r).1 (job.emitAll (t.observe r).1)) ∧
              ∀ failure,
                List.Forall₂ job.Emits (t.finish failure).1 (job.emitAll (t.finish failure).1) := by
  refine ⟨?_, fun i slot => Slot.represents_ofScenario, fun t ht => ⟨fun i => ?_, ?_⟩⟩
  · rw [Slot.length_ofScenario, Node.length_descendantsOf]
  · rw [node?_eq, ht.scenario_eq]
  · rintro job rfl
    refine ⟨fun r => ?_, fun failure => ?_⟩
    · exact Job.forall₂_emitAll fun m hm => ht.slot_lt_observe hm
    · exact Job.forall₂_emitAll fun m hm => ht.slot_lt_finish hm

end Tracker

end ScenarioRunner

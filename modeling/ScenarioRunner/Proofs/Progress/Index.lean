import ScenarioRunner.Proofs.Progress.Reachable

/-!
# The row of slots and the tree of steps

A tracker works on a row of slots and never on the tree.  This file says that the row stands for the
tree, in full.

* `Slot.Represents` lists what a slot says of a step, and `Slot.represents_ofScenario`: it holds of
  every slot and the step at the same place in the tree.
* `Node.exists_block`: a step and what lies below it stand next to each other in the list of all steps.
* `Tracker.node?_eq`: the node of a slot is the step at its place, and there is one exactly within the
  row.
* `Tracker.Reachable.slot_lt_observe` and `Tracker.Reachable.slot_lt_finish`: no tracker ever moves a
  slot outside its row.
-/

namespace ScenarioRunner

namespace Node

variable {scenario : Node} {nodes : List Node}

/-- The step at some positions or one around it is tried again. -/
def RetriesAround (scenario : Node) (path : List Nat) : Prop :=
  ∃ around node, around <+: path ∧ scenario.step? around = some node ∧ node.retryable = true

lemma descendants_eq_cons (node : Node) : node.descendants = node :: descendantsOf node.children := by
  cases node
  rfl

lemma length_descendants (node : Node) : node.descendants.length = node.size := by
  rw [descendants_eq_cons, List.length_cons, length_descendantsOf, size_eq]

/-- **A node and what lies below it** stand next to each other in the list of a forest, from its own
place on. -/
theorem exists_block {k : Nat} {node : Node} (h : (descendantsOf nodes)[k]? = some node) :
    ∃ before behind, descendantsOf nodes = before ++ node.descendants ++ behind ∧
      before.length = k := by
  induction nodes using forest_induction generalizing k with
  | nil => exact absurd h (by simp [descendantsOf])
  | cons first nodes below beside =>
      rw [descendantsOf_cons] at h ⊢
      cases k with
      | zero =>
          obtain rfl : first = node := Option.some.inj h
          refine ⟨[], descendantsOf nodes, ?_, rfl⟩
          rw [List.nil_append, descendants_eq_cons, List.cons_append]
      | succ k =>
          rw [List.getElem?_cons_succ, List.getElem?_append] at h
          split at h
          · obtain ⟨before, behind, heq, hlength⟩ := below h
            refine ⟨first :: before, behind ++ descendantsOf nodes, ?_, by simp [hlength]⟩
            simp [heq]
          · next hle =>
            obtain ⟨before, behind, heq, hlength⟩ := beside h
            refine ⟨first :: (descendantsOf first.children ++ before), behind, by simp [heq], ?_⟩
            rw [List.length_cons, List.length_append, hlength]
            omega

end Node

namespace Slot

variable {scenario : Node} {i : Nat} {slot : Slot} {node : Node}

/-- **What a slot says of a step**: the slot at place `i` of the row of a scenario stands for `node`. -/
structure Represents (scenario : Node) (i : Nat) (slot : Slot) (node : Node) : Prop where
  /-- The path leads from the scenario to the step. -/
  path : slot.path ≠ [] ∧ scenario.at? slot.path = some node
  /-- A step at the top has no slot around it. -/
  top : slot.parent? = none ↔ ∃ rank, slot.path = [rank]
  /-- The slot right around another one is that of its parent. -/
  parent : ∀ p, slot.parent? = some p ↔
    ∃ above rank, (ofScenario scenario)[p]? = some above ∧ slot.path = above.path ++ [rank]
  /-- The slot stops behind as many slots as the step has nodes, itself included. -/
  stop : slot.stop = i + node.descendants.length
  /-- In the list of all steps these are the step and its descendants. -/
  block : ∃ before behind,
    Node.descendantsOf scenario.children = before ++ node.descendants ++ behind ∧ before.length = i
  /-- The slots behind it and before its stop are those of the steps below. -/
  below : ∀ {j t}, (ofScenario scenario)[j]? = some t →
    (i < j ∧ j < slot.stop ↔ slot.path <+: t.path ∧ slot.path ≠ t.path)
  retryable : slot.retryable = true ↔ scenario.RetriesAround slot.path
  deferred : slot.deferred = true ↔ scenario.RetriesAlong slot.path

/-- The retryable slots are those of steps with retries at or around them. -/
theorem retryable_iff_retriesAround (hs : (ofScenario scenario)[i]? = some slot) :
    slot.retryable = true ↔ scenario.RetriesAround slot.path := by
  rw [retryable_iff hs]
  constructor
  · rintro ⟨around, hfront, node, hnode, hretry⟩
    exact ⟨around, node, hfront, hnode, hretry⟩
  · rintro ⟨around, node, hfront, hnode, hretry⟩
    exact ⟨around, hfront, node, hnode, hretry⟩

lemma parent?_eq_none_iff (hs : (ofScenario scenario)[i]? = some slot) :
    slot.parent? = none ↔ ∃ rank, slot.path = [rank] := by
  rcases parent?_spec hs with ⟨hnone, htop⟩ | ⟨p, above, rank, -, habove, hsome, hpath⟩
  · exact iff_of_true hnone htop
  · refine iff_of_false (by simp [hsome]) ?_
    rintro ⟨rank', htop⟩
    exact path_ne_nil habove (List.append_inj_left' (hpath.symm.trans htop : _ = [] ++ [rank']) rfl)

lemma parent?_eq_some_iff (hs : (ofScenario scenario)[i]? = some slot) (p : Nat) :
    slot.parent? = some p ↔
      ∃ above rank, (ofScenario scenario)[p]? = some above ∧ slot.path = above.path ++ [rank] := by
  rcases parent?_spec hs with ⟨hnone, rank, htop⟩ | ⟨q, above, rank, -, habove, hsome, hpath⟩
  · refine iff_of_false (by simp [hnone]) ?_
    rintro ⟨above, rank', habove, hpath⟩
    exact path_ne_nil habove (List.append_inj_left' (hpath.symm.trans htop : _ = [] ++ [rank]) rfl)
  · rw [hsome, Option.some.injEq]
    constructor
    · rintro rfl
      exact ⟨above, rank, habove, hpath⟩
    · rintro ⟨above', rank', habove', hpath'⟩
      exact path_injective habove habove' (List.append_inj_left' (hpath.symm.trans hpath') rfl)

/-- **Every slot represents the step at its place.** -/
theorem represents_ofScenario (hs : (ofScenario scenario)[i]? = some slot) :
    ∃ node, (Node.descendantsOf scenario.children)[i]? = some node ∧
      Represents scenario i slot node := by
  obtain ⟨node, hstep, hstop⟩ := exists_node_of_getElem? hs
  have hplace : (Node.descendantsOf scenario.children)[i]? = some node :=
    (getElem?_descendantsOf hs).trans hstep
  refine ⟨node, hplace,
    { path := (Node.step?_eq_some_iff ..).mp hstep, top := parent?_eq_none_iff hs
      parent := parent?_eq_some_iff hs, stop := by rw [hstop, Node.length_descendants]
      block := Node.exists_block hplace, below := fun ht => ?_
      retryable := retryable_iff_retriesAround hs, deferred := deferred_iff_retriesAlong hs }⟩
  rw [← below_iff ht hs]
  constructor
  · rintro ⟨t', s', ht', hs', hfront, hne⟩
    obtain rfl := Option.some.inj (ht.symm.trans ht')
    obtain rfl := Option.some.inj (hs.symm.trans hs')
    exact ⟨hfront, hne⟩
  · rintro ⟨hfront, hne⟩
    exact ⟨_, _, ht, hs, hfront, hne⟩

end Slot

/-- The moves that a board records are those of slots in the row. -/
lemma Board.Records.slot_lt {scenario : Node} {early : List Move} {b : Board}
    (h : b.Records scenario early) {m : Move} (hm : m ∈ early ++ b.moves) :
    m.slot < (Slot.ofScenario scenario).length := by
  obtain ⟨before, after, heq⟩ := List.append_of_mem hm
  exact (h.nested before m after heq).slot_lt

namespace Tracker

variable {scenario : Node} {t : Tracker}

/-- **The node of a slot** is the step at its place among all steps, if there is one. -/
theorem node?_eq (t : Tracker) (i : Nat) :
    t.node? i = (Node.descendantsOf t.scenario.children)[i]? := by
  rw [node?, slots]
  cases hslot : (Slot.ofScenario t.scenario)[i]? with
  | none =>
      rw [List.getElem?_eq_none_iff, Slot.length_ofScenario, ← Node.length_descendantsOf] at hslot
      exact (List.getElem?_eq_none hslot).symm
  | some slot =>
      obtain ⟨node, hplace, hrepresents⟩ := Slot.represents_ofScenario hslot
      rw [Option.bind_some, hrepresents.path.2, hplace]

/-- **Every move that a snapshot causes** is that of a slot in the row. -/
theorem Reachable.slot_lt_observe (h : Reachable scenario t) {r : ExecutionReport} {m : Move}
    (hm : m ∈ (t.observe r).1) : m.slot < (Slot.ofScenario scenario).length := by
  obtain ⟨early, hrecords⟩ := h.records
  have hafter := records_observe hrecords h.scenario_eq r
  exact hafter.slot_lt (List.mem_append_left _ (List.mem_append_right early hm))

/-- So is every move at the end. -/
theorem Reachable.slot_lt_finish (h : Reachable scenario t) {failure : Option String} {m : Move}
    (hm : m ∈ (t.finish failure).1) : m.slot < (Slot.ofScenario scenario).length := by
  obtain ⟨early, hrecords⟩ := h.records
  have hafter := records_finish hrecords h.scenario_eq failure
  exact hafter.slot_lt (List.mem_append_left _ (List.mem_append_right early hm))

end Tracker

end ScenarioRunner

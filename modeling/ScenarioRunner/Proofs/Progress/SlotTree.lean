import Mathlib.Data.List.Sort
import ScenarioRunner.Proofs.Progress.SlotRow

/-!
# The slots of a scenario represent its tree

`Slot.ofScenario` numbers the steps of a scenario, each before its descendants.  This file reads the
fields of a slot back into the tree.

* `Slot.exists_node_of_getElem?` and `Slot.exists_slot_of_step?`: slots are steps and steps are slots.
  `Slot.getElem?_descendantsOf`: they stand in the order in which the tree lists its nodes.
* `Slot.path_prefix_iff`: the slots from `i` to `stop` are the step of slot `i` and what lies below
  it; `Slot.mem_ancestors_iff` says the same of `ancestors`, and `Slot.parent?_spec` of the step
  right around a step.
* `Slot.retryable_iff` and `Slot.deferred_iff`: which retries the two flags stand for.
-/

namespace ScenarioRunner

namespace Node

lemma descendantsOf_cons (node : Node) (nodes : List Node) :
    descendantsOf (node :: nodes) =
      node :: (descendantsOf node.children ++ descendantsOf nodes) := by
  cases node
  rfl

lemma length_descendantsOf (nodes : List Node) :
    (descendantsOf nodes).length = sizeOfAll nodes := by
  induction nodes using forest_induction with
  | nil => rfl
  | cons node nodes below beside =>
      rw [descendantsOf_cons, List.length_cons, List.length_append, below, beside, sizeOfAll, size_eq]
      omega

/-- The node at some positions, the first of which counts the trees of a forest. -/
def among? (nodes : List Node) : List Nat → Option Node
  | [] => none
  | j :: path => (nodes[j]?).bind fun node => node.at? path

/-- The step of a scenario at some positions; the scenario itself is none. -/
def step? (scenario : Node) (path : List Nat) : Option Node :=
  among? scenario.children path

lemma step?_eq_some_iff (scenario node : Node) (path : List Nat) :
    scenario.step? path = some node ↔ path ≠ [] ∧ scenario.at? path = some node := by
  cases path with
  | nil => simp [step?, among?]
  | cons j path => simp [step?, among?, at?]

/-- Some node of a forest is tried again, and it stands at these positions. -/
def RetriesAt (nodes : List Node) (path : List Nat) : Prop :=
  ∃ node, among? nodes path = some node ∧ node.retryable = true

lemma not_retriesAt_nil (nodes : List Node) : ¬ RetriesAt nodes [] := by
  rintro ⟨node, h, -⟩
  simp [among?] at h

lemma retriesAt_cons_zero (node : Node) (nodes : List Node) (path : List Nat) :
    RetriesAt (node :: nodes) (0 :: path) ↔
      (path = [] ∧ node.retryable = true) ∨ RetriesAt node.children path := by
  cases path with
  | nil => simp [RetriesAt, among?, at?]
  | cons j path => simp [RetriesAt, among?, at?]

section Along

/-! Retries are looked for along a path, in the direction of a relation that compares paths position
by position: around the end of the path, or from there down. -/

variable {Along : List Nat → List Nat → Prop}
  (hcons : ∀ i j p q, Along (i :: p) (j :: q) ↔ i = j ∧ Along p q)

include hcons

lemma exists_retriesAt_zero (node : Node) (nodes : List Node) (path : List Nat) :
    (∃ p, Along p (0 :: path) ∧ RetriesAt (node :: nodes) p) ↔
      (Along [] path ∧ node.retryable = true) ∨
        ∃ p, Along p path ∧ RetriesAt node.children p := by
  constructor
  · rintro ⟨p, hp, h⟩
    cases p with
    | nil => exact absurd h (not_retriesAt_nil _)
    | cons j p =>
        obtain ⟨rfl, hp'⟩ := (hcons _ _ _ _).mp hp
        rcases (retriesAt_cons_zero _ _ _).mp h with ⟨rfl, h'⟩ | h'
        · exact Or.inl ⟨hp', h'⟩
        · exact Or.inr ⟨p, hp', h'⟩
  · rintro (⟨hp, h⟩ | ⟨p, hp, h⟩)
    · refine ⟨[0], (hcons _ _ _ _).mpr ⟨rfl, hp⟩, ?_⟩
      exact (retriesAt_cons_zero _ _ _).mpr (Or.inl ⟨rfl, h⟩)
    · refine ⟨0 :: p, (hcons _ _ _ _).mpr ⟨rfl, hp⟩, ?_⟩
      exact (retriesAt_cons_zero _ _ _).mpr (Or.inr h)

lemma exists_retriesAt_succ (node : Node) (nodes : List Node) (j : Nat) (path : List Nat) :
    (∃ p, Along p ((j + 1) :: path) ∧ RetriesAt (node :: nodes) p) ↔
      ∃ p, Along p (j :: path) ∧ RetriesAt nodes p := by
  constructor
  · rintro ⟨p, hp, h⟩
    cases p with
    | nil => exact absurd h (not_retriesAt_nil _)
    | cons i p =>
        obtain ⟨rfl, hp'⟩ := (hcons _ _ _ _).mp hp
        exact ⟨j :: p, (hcons _ _ _ _).mpr ⟨rfl, hp'⟩, h⟩
  · rintro ⟨p, hp, h⟩
    cases p with
    | nil => exact absurd h (not_retriesAt_nil _)
    | cons i p =>
        obtain ⟨rfl, hp'⟩ := (hcons _ _ _ _).mp hp
        exact ⟨(i + 1) :: p, (hcons _ _ _ _).mpr ⟨rfl, hp'⟩, h⟩

end Along

/-- The first path leads to a node around the end of the second one, or to that end. -/
def Around (p q : List Nat) : Prop := p <+: q

/-- The first path leads to a node below the end of the second one, or to that end. -/
def Within (p q : List Nat) : Prop := q <+: p

lemma around_cons (i j : Nat) (p q : List Nat) :
    Around (i :: p) (j :: q) ↔ i = j ∧ Around p q :=
  List.cons_prefix_cons

lemma within_cons (i j : Nat) (p q : List Nat) :
    Within (i :: p) (j :: q) ↔ i = j ∧ Within p q := by
  rw [Within, List.cons_prefix_cons, eq_comm]
  rfl

lemma around_nil_right (p : List Nat) : Around p [] ↔ p = [] := List.prefix_nil

lemma around_nil_left (p : List Nat) : Around [] p := List.nil_prefix

lemma within_nil_right (p : List Nat) : Within p [] := List.nil_prefix

lemma within_nil_left (p : List Nat) : Within [] p ↔ p = [] := List.prefix_nil

lemma anyRetryOf_iff (nodes : List Node) :
    anyRetryOf nodes = true ↔ ∃ path, RetriesAt nodes path := by
  induction nodes using forest_induction with
  | nil =>
      simp only [anyRetryOf, Bool.false_eq_true, false_iff, not_exists]
      rintro path ⟨node, h, -⟩
      cases path <;> simp [among?] at h
  | cons node nodes below beside =>
      rw [anyRetryOf, anyRetry_eq, Bool.or_eq_true, Bool.or_eq_true, below, beside]
      constructor
      · rintro ((h | ⟨path, h⟩) | ⟨path, h⟩)
        · exact ⟨[0], (retriesAt_cons_zero _ _ _).mpr (Or.inl ⟨rfl, h⟩)⟩
        · exact ⟨0 :: path, (retriesAt_cons_zero _ _ _).mpr (Or.inr h)⟩
        · cases path with
          | nil => exact absurd h (not_retriesAt_nil _)
          | cons j path => exact ⟨(j + 1) :: path, h⟩
      · rintro ⟨path, h⟩
        cases path with
        | nil => exact absurd h (not_retriesAt_nil _)
        | cons j path =>
            cases j with
            | zero =>
                rcases (retriesAt_cons_zero _ _ _).mp h with ⟨-, h⟩ | h
                · exact Or.inl (Or.inl h)
                · exact Or.inl (Or.inr ⟨path, h⟩)
            | succ j => exact Or.inr ⟨j :: path, h⟩

end Node

namespace Slot

/-! ## The row of a forest -/

section Row

variable {path : List Nat} {parent? : Option Nat} {rank first : Nat} {retried : Bool}
  {nodes : List Node}

/-- **Where a slot of a forest comes from**: it is the first one, one of those below it, or one of
those beside it. -/
lemma getElem?_ofSteps_cons {node : Node} {k : Nat} {s : Slot}
    (h : (ofSteps path rank parent? retried first (node :: nodes))[k]? = some s) :
    (k = 0 ∧ s = ⟨path ++ [rank], parent?, first + node.size, retried || node.retryable,
        (retried || node.retryable) || Node.anyRetryOf node.children⟩) ∨
      (∃ l, k = l + 1 ∧ l < Node.sizeOfAll node.children ∧
        (ofSteps (path ++ [rank]) 0 (some first) (retried || node.retryable) (first + 1)
          node.children)[l]? = some s) ∨
      ∃ l, k = l + node.size ∧
        (ofSteps path (rank + 1) parent? retried (first + node.size) nodes)[l]? = some s := by
  rw [ofSteps_cons] at h
  cases k with
  | zero =>
      rw [List.getElem?_cons_zero, Option.some.injEq] at h
      exact Or.inl ⟨rfl, h.symm⟩
  | succ l =>
      rw [List.getElem?_cons_succ, List.getElem?_append, length_ofSteps] at h
      split at h
      · exact Or.inr (Or.inl ⟨l, rfl, ‹_›, h⟩)
      · refine Or.inr (Or.inr ⟨l - Node.sizeOfAll node.children, ?_, h⟩)
        rw [Node.size_eq]
        omega

lemma getElem?_ofSteps_below {node : Node} {l : Nat} (h : l < Node.sizeOfAll node.children) :
    (ofSteps path rank parent? retried first (node :: nodes))[l + 1]?
      = (ofSteps (path ++ [rank]) 0 (some first) (retried || node.retryable) (first + 1)
          node.children)[l]? := by
  rw [ofSteps_cons, List.getElem?_cons_succ, List.getElem?_append_left]
  rwa [length_ofSteps]

lemma getElem?_ofSteps_beside {node : Node} (l : Nat) :
    (ofSteps path rank parent? retried first (node :: nodes))[l + node.size]?
      = (ofSteps path (rank + 1) parent? retried (first + node.size) nodes)[l]? := by
  have hindex : l + node.size = (l + Node.sizeOfAll node.children) + 1 := by
    rw [Node.size_eq, Nat.add_assoc]
  rw [ofSteps_cons, hindex, List.getElem?_cons_succ,
    List.getElem?_append_right (by rw [length_ofSteps]; omega), length_ofSteps,
    Nat.add_sub_cancel]

/-- The descendants of a slot stand right behind it, within the row. -/
lemma stop_bounds {k : Nat} {s : Slot}
    (h : (ofSteps path rank parent? retried first nodes)[k]? = some s) :
    first + k < s.stop ∧ s.stop ≤ first + Node.sizeOfAll nodes := by
  induction nodes using Node.forest_induction
    generalizing path rank parent? retried first k with
  | nil => simp [ofSteps] at h
  | cons node nodes below beside =>
      have hsize := node.size_eq
      rw [Node.sizeOfAll]
      rcases getElem?_ofSteps_cons h with ⟨rfl, rfl⟩ | ⟨l, rfl, -, hl⟩ | ⟨l, rfl, hl⟩
      · dsimp only
        omega
      · have := below hl
        omega
      · have := beside hl
        omega

/-- The paths of a row lead through positions from `rank` on. -/
lemma path_eq_append {k : Nat} {s : Slot}
    (h : (ofSteps path rank parent? retried first nodes)[k]? = some s) :
    ∃ j rest, rank ≤ j ∧ s.path = path ++ j :: rest := by
  induction nodes using Node.forest_induction
    generalizing path rank parent? retried first k with
  | nil => simp [ofSteps] at h
  | cons node nodes below beside =>
      rcases getElem?_ofSteps_cons h with ⟨rfl, rfl⟩ | ⟨l, rfl, -, hl⟩ | ⟨l, rfl, hl⟩
      · exact ⟨rank, [], Nat.le_refl _, rfl⟩
      · obtain ⟨j, rest, -, hpath⟩ := below hl
        exact ⟨rank, j :: rest, Nat.le_refl _, by rw [hpath, List.append_assoc]; rfl⟩
      · obtain ⟨j, rest, hj, hpath⟩ := beside hl
        exact ⟨j, rest, by omega, hpath⟩

lemma path_ne_of_rank_lt {j j' : Nat} {rest rest' : List Nat} (h : j < j') :
    ¬ (path ++ j :: rest) <+: (path ++ j' :: rest') ∧
      ¬ (path ++ j' :: rest') <+: (path ++ j :: rest) := by
  simp only [List.prefix_append_right_inj, List.cons_prefix_cons]
  exact ⟨fun ⟨h', _⟩ => by omega, fun ⟨h', _⟩ => by omega⟩

/-- **Below is behind**: the path of one slot starts that of another exactly if the other one stands
at it or behind it, before its `stop`. -/
lemma path_prefix_iff_of_row {k l : Nat} {s t : Slot}
    (hs : (ofSteps path rank parent? retried first nodes)[k]? = some s)
    (ht : (ofSteps path rank parent? retried first nodes)[l]? = some t) :
    s.path <+: t.path ↔ k ≤ l ∧ first + l < s.stop := by
  induction nodes using Node.forest_induction
    generalizing path rank parent? retried first k l with
  | nil => simp [ofSteps] at hs
  | cons node nodes below beside =>
      have hsize := node.size_eq
      rcases getElem?_ofSteps_cons hs with ⟨rfl, rfl⟩ | ⟨k, rfl, hk, hk'⟩ | ⟨k, rfl, hk'⟩ <;>
        rcases getElem?_ofSteps_cons ht with ⟨rfl, rfl⟩ | ⟨l, rfl, hl, hl'⟩ | ⟨l, rfl, hl'⟩
      -- the slot in front is around everything below it and around nothing beside it
      · exact ⟨fun _ => ⟨Nat.le_refl _, by dsimp only; omega⟩, fun _ => List.prefix_refl _⟩
      · obtain ⟨j, rest, -, hpath⟩ := path_eq_append hl'
        exact ⟨fun _ => ⟨Nat.zero_le _, by dsimp only; omega⟩,
          fun _ => ⟨j :: rest, hpath.symm⟩⟩
      · obtain ⟨j, rest, hj, hpath⟩ := path_eq_append hl'
        refine ⟨fun h => ?_, fun h => by dsimp only at h; omega⟩
        rw [hpath] at h
        exact absurd h (path_ne_of_rank_lt (by omega : rank < j)).1
      -- a slot below the first one
      · obtain ⟨j, rest, -, hpath⟩ := path_eq_append hk'
        refine ⟨fun h => ?_, fun h => by omega⟩
        have := h.length_le
        simp [hpath] at this
      · rw [below hk' hl']
        omega
      · obtain ⟨j, rest, -, hpath⟩ := path_eq_append hk'
        obtain ⟨j', rest', hj', hpath'⟩ := path_eq_append hl'
        have hstop := (stop_bounds hk').2
        refine ⟨fun h => ?_, fun h => by omega⟩
        rw [hpath, hpath', List.append_assoc, List.singleton_append] at h
        exact absurd h (path_ne_of_rank_lt (by omega : rank < j')).1
      -- a slot beside the first one
      · obtain ⟨j, rest, hj, hpath⟩ := path_eq_append hk'
        refine ⟨fun h => ?_, fun h => by omega⟩
        rw [hpath] at h
        exact absurd h (path_ne_of_rank_lt (by omega : rank < j)).2
      · obtain ⟨j, rest, hj, hpath⟩ := path_eq_append hk'
        obtain ⟨j', rest', -, hpath'⟩ := path_eq_append hl'
        refine ⟨fun h => ?_, fun h => by omega⟩
        rw [hpath, hpath', List.append_assoc, List.singleton_append] at h
        exact absurd h (path_ne_of_rank_lt (by omega : rank < j)).2
      · rw [beside hk' hl']
        omega

/-- A slot is at the top of its row, or right below another one. -/
lemma parent?_of_row {k : Nat} {s : Slot}
    (hs : (ofSteps path rank parent? retried first nodes)[k]? = some s) :
    (s.parent? = parent? ∧ ∃ j, s.path = path ++ [j]) ∨
      ∃ l t j, l < k ∧ (ofSteps path rank parent? retried first nodes)[l]? = some t ∧
        s.parent? = some (first + l) ∧ s.path = t.path ++ [j] := by
  induction nodes using Node.forest_induction
    generalizing path rank parent? retried first k with
  | nil => simp [ofSteps] at hs
  | cons node nodes below beside =>
      rcases getElem?_ofSteps_cons hs with ⟨rfl, rfl⟩ | ⟨k, rfl, hk, hk'⟩ | ⟨k, rfl, hk'⟩
      · exact Or.inl ⟨rfl, rank, rfl⟩
      · refine Or.inr ?_
        rcases below hk' with ⟨hparent, j, hpath⟩ | ⟨l, t, j, hl, ht, hparent, hpath⟩
        · exact ⟨0, _, j, Nat.succ_pos _, by rw [ofSteps_cons]; rfl, hparent, hpath⟩
        · refine ⟨l + 1, t, j, by omega, ?_, ?_, hpath⟩
          · rw [getElem?_ofSteps_below (by omega), ht]
          · rw [hparent, Nat.add_assoc, Nat.add_comm 1 l]
      · rcases beside hk' with hleft | ⟨l, t, j, hl, ht, hparent, hpath⟩
        · exact Or.inl hleft
        · refine Or.inr ⟨l + node.size, t, j, by omega, ?_, ?_, hpath⟩
          · rw [getElem?_ofSteps_beside, ht]
          · rw [hparent, Nat.add_assoc, Nat.add_comm node.size l]

/-- Every slot of a row stands for a node of the forest, which has the same place among all nodes. -/
lemma exists_node_of_row {k : Nat} {s : Slot}
    (hs : (ofSteps path rank parent? retried first nodes)[k]? = some s) :
    ∃ j rest node, s.path = path ++ (rank + j) :: rest ∧
      Node.among? nodes (j :: rest) = some node ∧ s.stop = first + k + node.size ∧
      (Node.descendantsOf nodes)[k]? = some node := by
  induction nodes using Node.forest_induction
    generalizing path rank parent? retried first k with
  | nil => simp [ofSteps] at hs
  | cons node nodes below beside =>
      rw [Node.descendantsOf_cons]
      rcases getElem?_ofSteps_cons hs with ⟨rfl, rfl⟩ | ⟨k, rfl, hk, hk'⟩ | ⟨k, rfl, hk'⟩
      · exact ⟨0, [], node, rfl, rfl, rfl, rfl⟩
      · obtain ⟨j, rest, m, hpath, hm, hstop, hplace⟩ := below hk'
        refine ⟨0, j :: rest, m, ?_, hm, by omega, ?_⟩
        · rw [hpath, List.append_assoc, Nat.zero_add]
          rfl
        · rw [List.getElem?_cons_succ, List.getElem?_append_left, hplace]
          rwa [Node.length_descendantsOf]
      · obtain ⟨j, rest, m, hpath, hm, hstop, hplace⟩ := beside hk'
        refine ⟨j + 1, rest, m, ?_, hm, by omega, ?_⟩
        · rw [hpath, Nat.add_assoc, Nat.add_comm 1 j]
        · rw [Node.size_eq, ← Nat.add_assoc, List.getElem?_cons_succ, List.getElem?_append_right,
            Node.length_descendantsOf, Nat.add_sub_cancel, hplace]
          rw [Node.length_descendantsOf]
          omega

lemma exists_slot_of_row {j : Nat} {rest : List Nat} {m : Node}
    (h : Node.among? nodes (j :: rest) = some m) :
    ∃ (k : Nat) (s : Slot), (ofSteps path rank parent? retried first nodes)[k]? = some s ∧
      s.path = path ++ (rank + j) :: rest := by
  induction nodes using Node.forest_induction
    generalizing path rank parent? retried first j rest with
  | nil => simp [Node.among?] at h
  | cons node nodes below beside =>
      match j, rest, h with
      | 0, [], _ => exact ⟨0, _, by rw [ofSteps_cons]; rfl, rfl⟩
      | 0, i :: rest, h =>
        have hbelow : ∃ (k : Nat) (s : Slot), (ofSteps (path ++ [rank]) 0 (some first)
            (retried || node.retryable) (first + 1) node.children)[k]? = some s ∧
              s.path = (path ++ [rank]) ++ (0 + i) :: rest := below h
        obtain ⟨k, s, hk, hpath⟩ := hbelow
        have hlt : k < Node.sizeOfAll node.children := by
          rw [← length_ofSteps]
          exact (List.getElem?_eq_some_iff.mp hk).1
        refine ⟨k + 1, s, ?_, ?_⟩
        · rw [getElem?_ofSteps_below hlt, hk]
        · rw [hpath, List.append_assoc, Nat.zero_add]
          rfl
      | j + 1, rest, h =>
        have hbeside : ∃ (k : Nat) (s : Slot), (ofSteps path (rank + 1) parent? retried
            (first + node.size) nodes)[k]? = some s ∧
              s.path = path ++ (rank + 1 + j) :: rest := beside h
        obtain ⟨k, s, hk, hpath⟩ := hbeside
        refine ⟨k + node.size, s, ?_, ?_⟩
        · rw [getElem?_ofSteps_beside, hk]
        · rw [hpath, Nat.add_assoc, Nat.add_comm 1 j]

/-- A slot is retryable if its row is, or if a node at or around its own is tried again. -/
lemma retryable_iff_of_row {k j : Nat} {rest : List Nat} {s : Slot}
    (hs : (ofSteps path rank parent? retried first nodes)[k]? = some s)
    (hpath : s.path = path ++ (rank + j) :: rest) :
    s.retryable = true ↔
      retried = true ∨ ∃ p, Node.Around p (j :: rest) ∧ Node.RetriesAt nodes p := by
  induction nodes using Node.forest_induction
    generalizing path rank parent? retried first k j rest with
  | nil => simp [ofSteps] at hs
  | cons node nodes below beside =>
      rcases getElem?_ofSteps_cons hs with ⟨rfl, rfl⟩ | ⟨k, rfl, hk, hk'⟩ | ⟨k, rfl, hk'⟩
      · obtain ⟨rfl, rfl⟩ : j = 0 ∧ rest = [] := by simpa using hpath
        rw [Node.exists_retriesAt_zero Node.around_cons]
        simp [Node.around_nil_right, Node.not_retriesAt_nil]
      · obtain ⟨j', rest', -, hpath'⟩ := path_eq_append hk'
        obtain ⟨rfl, rfl⟩ : j = 0 ∧ rest = j' :: rest' := by
          rw [hpath', List.append_assoc] at hpath
          simpa [eq_comm] using hpath
        rw [below hk' (by rw [hpath', Nat.zero_add]), Node.exists_retriesAt_zero Node.around_cons,
          Bool.or_eq_true, or_assoc]
        simp only [Node.around_nil_left, true_and]
      · obtain ⟨j', rest', hj', hpath'⟩ := path_eq_append hk'
        obtain ⟨i, rfl⟩ : ∃ i, j = i + 1 := by
          have : j' = rank + j := by
            rw [hpath'] at hpath
            exact (List.cons.inj (List.append_cancel_left hpath)).1
          exact ⟨j - 1, by omega⟩
        rw [beside hk' (by rw [hpath, Nat.add_assoc, Nat.add_comm 1 i]),
          Node.exists_retriesAt_succ Node.around_cons]

/-- A slot is deferred if its row is retried, or if a node at, around or below its own is. -/
lemma deferred_iff_of_row {k j : Nat} {rest : List Nat} {s : Slot}
    (hs : (ofSteps path rank parent? retried first nodes)[k]? = some s)
    (hpath : s.path = path ++ (rank + j) :: rest) :
    s.deferred = true ↔
      retried = true ∨ (∃ p, Node.Around p (j :: rest) ∧ Node.RetriesAt nodes p) ∨
        ∃ p, Node.Within p (j :: rest) ∧ Node.RetriesAt nodes p := by
  induction nodes using Node.forest_induction
    generalizing path rank parent? retried first k j rest with
  | nil => simp [ofSteps] at hs
  | cons node nodes below beside =>
      rcases getElem?_ofSteps_cons hs with ⟨rfl, rfl⟩ | ⟨k, rfl, hk, hk'⟩ | ⟨k, rfl, hk'⟩
      · obtain ⟨rfl, rfl⟩ : j = 0 ∧ rest = [] := by simpa using hpath
        rw [Node.exists_retriesAt_zero Node.around_cons,
          Node.exists_retriesAt_zero Node.within_cons, Bool.or_eq_true, Bool.or_eq_true,
          Node.anyRetryOf_iff]
        simp only [Node.around_nil_right, Node.within_nil_right, exists_eq_left,
          Node.not_retriesAt_nil, or_false, true_and]
        tauto
      · obtain ⟨j', rest', -, hpath'⟩ := path_eq_append hk'
        obtain ⟨rfl, rfl⟩ : j = 0 ∧ rest = j' :: rest' := by
          rw [hpath', List.append_assoc] at hpath
          simpa [eq_comm] using hpath
        rw [below hk' (by rw [hpath', Nat.zero_add]), Node.exists_retriesAt_zero Node.around_cons,
          Node.exists_retriesAt_zero Node.within_cons, Bool.or_eq_true]
        simp only [Node.around_nil_left, true_and, Node.within_nil_left, List.cons_ne_nil,
          false_and, false_or, or_assoc]
      · obtain ⟨j', rest', hj', hpath'⟩ := path_eq_append hk'
        obtain ⟨i, rfl⟩ : ∃ i, j = i + 1 := by
          have : j' = rank + j := by
            rw [hpath'] at hpath
            exact (List.cons.inj (List.append_cancel_left hpath)).1
          exact ⟨j - 1, by omega⟩
        rw [beside hk' (by rw [hpath, Nat.add_assoc, Nat.add_comm 1 i]),
          Node.exists_retriesAt_succ Node.around_cons, Node.exists_retriesAt_succ Node.within_cons]

end Row

/-! ## The row of a scenario -/

variable {scenario : Node} {i j : Nat} {s t : Slot}

lemma length_ofScenario (scenario : Node) :
    (ofScenario scenario).length = Node.sizeOfAll scenario.children := by
  rw [ofScenario_eq, length_ofSteps]

lemma row_of_getElem? (hs : (ofScenario scenario)[i]? = some s) :
    (ofSteps [] 0 none false 0 scenario.children)[i]? = some s :=
  ofScenario_eq scenario ▸ hs

/-- **Slots are steps**, and stop behind the last node below them. -/
theorem exists_node_of_getElem? (hs : (ofScenario scenario)[i]? = some s) :
    ∃ node, scenario.step? s.path = some node ∧ s.stop = i + node.size := by
  obtain ⟨j, rest, node, hpath, hnode, hstop, -⟩ := exists_node_of_row (row_of_getElem? hs)
  refine ⟨node, ?_, by omega⟩
  rwa [hpath, Nat.zero_add]

/-- **Slots list the steps**, each before its descendants. -/
theorem getElem?_descendantsOf (hs : (ofScenario scenario)[i]? = some s) :
    (Node.descendantsOf scenario.children)[i]? = scenario.step? s.path := by
  obtain ⟨j, rest, node, hpath, hnode, -, hplace⟩ := exists_node_of_row (row_of_getElem? hs)
  rw [hplace, hpath, Nat.zero_add]
  exact hnode.symm

/-- **Steps are slots.** -/
theorem exists_slot_of_step? {path : List Nat} {node : Node}
    (h : scenario.step? path = some node) :
    ∃ (i : Nat) (s : Slot), (ofScenario scenario)[i]? = some s ∧ s.path = path := by
  cases path with
  | nil => simp [Node.step?, Node.among?] at h
  | cons j rest =>
      have hrow : ∃ (i : Nat) (s : Slot), (ofScenario scenario)[i]? = some s ∧
          s.path = [] ++ (0 + j) :: rest := ofScenario_eq scenario ▸ exists_slot_of_row h
      obtain ⟨i, s, hs, hpath⟩ := hrow
      exact ⟨i, s, hs, by rw [hpath, Nat.zero_add]; rfl⟩

lemma stop_le (hs : (ofScenario scenario)[i]? = some s) :
    i < s.stop ∧ s.stop ≤ (ofScenario scenario).length := by
  have := stop_bounds (row_of_getElem? hs)
  rw [length_ofScenario]
  omega

/-- **Below is behind**: what lies at or below the step of a slot are the slots from it to its
`stop`. -/
theorem path_prefix_iff (hs : (ofScenario scenario)[i]? = some s)
    (ht : (ofScenario scenario)[j]? = some t) :
    s.path <+: t.path ↔ i ≤ j ∧ j < s.stop := by
  rw [path_prefix_iff_of_row (row_of_getElem? hs) (row_of_getElem? ht), Nat.zero_add]

/-- Different slots are different steps. -/
theorem path_injective (hs : (ofScenario scenario)[i]? = some s)
    (ht : (ofScenario scenario)[j]? = some t) (h : s.path = t.path) : i = j := by
  have hij := (path_prefix_iff hs ht).mp (h ▸ List.prefix_refl _)
  have hji := (path_prefix_iff ht hs).mp (h ▸ List.prefix_refl _)
  omega

/-- The slots of the steps around a step, the outermost first. -/
def ancestors (scenario : Node) (slot : Slot) : List Nat :=
  (List.range (ofScenario scenario).length).filter fun a =>
    ((ofScenario scenario)[a]?).any fun around =>
      decide (around.path <+: slot.path ∧ around.path ≠ slot.path)

theorem mem_ancestors_iff (hs : (ofScenario scenario)[i]? = some s) {a : Nat} :
    a ∈ s.ancestors scenario ↔ ∃ t, (ofScenario scenario)[a]? = some t ∧ a < i ∧ i < t.stop := by
  rw [ancestors, List.mem_filter, List.mem_range, Option.any_eq_true]
  constructor
  · rintro ⟨-, t, ht, hbelow⟩
    obtain ⟨hfront, hne⟩ := of_decide_eq_true hbelow
    obtain ⟨hle, hstop⟩ := (path_prefix_iff ht hs).mp hfront
    refine ⟨t, ht, Nat.lt_of_le_of_ne hle ?_, hstop⟩
    rintro rfl
    exact hne (congrArg path (Option.some.inj (ht.symm.trans hs)))
  · rintro ⟨t, ht, hlt, hstop⟩
    refine ⟨(List.getElem?_eq_some_iff.mp ht).1, t, ht, decide_eq_true ⟨?_, fun heq => ?_⟩⟩
    · exact (path_prefix_iff ht hs).mpr ⟨Nat.le_of_lt hlt, hstop⟩
    · exact Nat.ne_of_lt hlt (path_injective ht hs heq)

/-- The slots around a slot are given in their order, from the outermost to the innermost. -/
lemma pairwise_ancestors (scenario : Node) (s : Slot) :
    (s.ancestors scenario).Pairwise (· < ·) :=
  List.pairwise_lt_range.filter _

/-- So are the slots around a slot and behind them the slot itself. -/
lemma pairwise_ancestors_concat (hs : (ofScenario scenario)[i]? = some s) :
    (s.ancestors scenario ++ [i]).Pairwise (· < ·) := by
  refine List.pairwise_append.mpr
    ⟨pairwise_ancestors scenario s, List.pairwise_singleton .., fun a ha j hj => ?_⟩
  obtain ⟨_, -, hlt, -⟩ := (mem_ancestors_iff hs).mp ha
  rw [List.mem_singleton.mp hj]
  exact hlt

lemma le_of_mem_ancestors_concat (hs : (ofScenario scenario)[i]? = some s) {a : Nat}
    (ha : a ∈ s.ancestors scenario ++ [i]) : a ≤ i := by
  rcases List.mem_append.mp ha with ha | ha
  · obtain ⟨_, -, hlt, -⟩ := (mem_ancestors_iff hs).mp ha
    exact Nat.le_of_lt hlt
  · exact Nat.le_of_eq (List.mem_singleton.mp ha)

/-- A slot with those around it: their steps are at or around its step. -/
theorem mem_ancestors_concat_iff (hs : (ofScenario scenario)[i]? = some s)
    (ht : (ofScenario scenario)[j]? = some t) :
    i ∈ t.ancestors scenario ++ [j] ↔ s.path <+: t.path := by
  rw [List.mem_append, List.mem_singleton, mem_ancestors_iff ht, path_prefix_iff hs ht]
  constructor
  · rintro (⟨s', hs', hij, hstop⟩ | rfl)
    · obtain rfl : s = s' := Option.some.inj (hs.symm.trans hs')
      exact ⟨Nat.le_of_lt hij, hstop⟩
    · exact ⟨Nat.le_refl i, (stop_le hs).1⟩
  · rintro ⟨hij, hstop⟩
    rcases Nat.eq_or_lt_of_le hij with rfl | hlt
    · exact Or.inr rfl
    · exact Or.inl ⟨s, hs, hlt, hstop⟩

/-- A step stands at the top of its scenario, or right below the step of another slot. -/
theorem parent?_spec (hs : (ofScenario scenario)[i]? = some s) :
    (s.parent? = none ∧ ∃ j, s.path = [j]) ∨
      ∃ p t j, p < i ∧ (ofScenario scenario)[p]? = some t ∧ s.parent? = some p ∧
        s.path = t.path ++ [j] := by
  rw [ofScenario_eq] at hs ⊢
  rcases parent?_of_row hs with ⟨hnone, j, hpath⟩ | ⟨p, t, j, hp, ht, hsome, hpath⟩
  · exact Or.inl ⟨hnone, j, hpath⟩
  · exact Or.inr ⟨p, t, j, hp, ht, by rw [hsome, Nat.zero_add], hpath⟩

lemma path_ne_nil (hs : (ofScenario scenario)[i]? = some s) : s.path ≠ [] := by
  obtain ⟨node, hnode, -⟩ := exists_node_of_getElem? hs
  exact ((Node.step?_eq_some_iff ..).mp hnode).1

/-- There is nothing around a step at the top. -/
lemma ancestors_of_top (hs : (ofScenario scenario)[i]? = some s) {rank : Nat}
    (h : s.path = [rank]) : s.ancestors scenario = [] := by
  refine List.eq_nil_iff_forall_not_mem.mpr fun a ha => ?_
  obtain ⟨t, ht, hlt, hstop⟩ := (mem_ancestors_iff hs).mp ha
  have hprefix := (path_prefix_iff ht hs).mpr ⟨Nat.le_of_lt hlt, hstop⟩
  rw [h] at hprefix
  rcases List.prefix_cons_iff.mp hprefix with hnil | ⟨rest, hrest, hend⟩
  · exact path_ne_nil ht hnil
  · rw [List.prefix_nil.mp hend] at hrest
    exact Nat.ne_of_lt hlt (path_injective ht hs (hrest.trans h.symm))

/-- Around a step stand the step right around it and those around that. -/
lemma ancestors_of_parent (hs : (ofScenario scenario)[i]? = some s)
    (ht : (ofScenario scenario)[j]? = some t) {rank : Nat} (h : s.path = t.path ++ [rank]) :
    s.ancestors scenario = t.ancestors scenario ++ [j] := by
  refine (pairwise_ancestors scenario s).eq_of_mem_iff (pairwise_ancestors_concat ht) fun a => ?_
  constructor
  · intro ha
    obtain ⟨u, hu, hlt, hstop⟩ := (mem_ancestors_iff hs).mp ha
    have hprefix := (path_prefix_iff hu hs).mpr ⟨Nat.le_of_lt hlt, hstop⟩
    rw [h, List.prefix_concat_iff] at hprefix
    rcases hprefix with heq | hprefix
    · exact absurd (path_injective hu hs (heq.trans h.symm)) (Nat.ne_of_lt hlt)
    · exact (mem_ancestors_concat_iff hu ht).mpr hprefix
  · intro ha
    have hle := le_of_mem_ancestors_concat ht ha
    have hlt := (List.getElem?_eq_some_iff.mp ht).1
    have hu := List.getElem?_eq_getElem (l := ofScenario scenario) (i := a) (by omega)
    have hprefix := (mem_ancestors_concat_iff hu ht).mp ha
    have hself : a ∈ s.ancestors scenario ++ [i] :=
      (mem_ancestors_concat_iff hu hs).mpr (h ▸ hprefix.trans (List.prefix_append ..))
    refine (List.mem_append.mp hself).resolve_right fun heq => ?_
    obtain rfl := List.mem_singleton.mp heq
    rw [Option.some.inj (hu.symm.trans hs), h] at hprefix
    exact absurd hprefix.length_le (by simp)

/-- A slot is retryable if a step at or around its own is tried again. -/
theorem retryable_iff (hs : (ofScenario scenario)[i]? = some s) :
    s.retryable = true ↔
      ∃ p, p <+: s.path ∧ Node.RetriesAt scenario.children p := by
  obtain ⟨j, rest, -, hpath, -, -⟩ := exists_node_of_row (row_of_getElem? hs)
  rw [retryable_iff_of_row (row_of_getElem? hs) hpath, hpath, Nat.zero_add, List.nil_append]
  simp [Node.Around]

/-- A slot is deferred if a step at, around or below its own is tried again. -/
theorem deferred_iff (hs : (ofScenario scenario)[i]? = some s) :
    s.deferred = true ↔
      ∃ p, (p <+: s.path ∨ s.path <+: p) ∧ Node.RetriesAt scenario.children p := by
  obtain ⟨j, rest, -, hpath, -, -⟩ := exists_node_of_row (row_of_getElem? hs)
  rw [deferred_iff_of_row (row_of_getElem? hs) hpath, hpath, Nat.zero_add, List.nil_append]
  simp [Node.Around, Node.Within, or_and_right, exists_or]

end Slot

end ScenarioRunner

import Mathlib.Tactic.Common
import ScenarioRunner.Progress.Slot

/-!
# The row of slots, step by step of the tree

`Slot.index` puts the slot of a step into the row, goes on with the steps below it, and then fills in
where they stop and whether one of them is tried again.  Here the row is written down as a recursion
on the tree in which every slot is complete from the start.

* `Node.forest_induction` is the induction on trees that this rests on, and all that is said of slots
  later on: a property of the empty forest that is passed from the children of a node and from the
  nodes beside it to the node together with those beside it.
* `Slot.ofSteps` is the row of a forest: it reads the numbers of nodes and the retries below a step
  off the tree, by `Node.size` and `Node.anyRetryOf`.
* `Slot.puts`: what is put behind a row is the row of the forest.  `Slot.ofScenario_eq` says so of the
  whole row.
-/

namespace ScenarioRunner

namespace Node

mutual

/-- The number of nodes in the tree. -/
def size : Node → Nat
  | ⟨_, _, _, _, _, children⟩ => sizeOfAll children + 1

/-- The number of nodes in some trees. -/
def sizeOfAll : List Node → Nat
  | [] => 0
  | node :: nodes => node.size + sizeOfAll nodes

end

mutual

/-- Some node of the tree is tried again. -/
def anyRetry : Node → Bool
  | ⟨_, _, _, _, retryable, children⟩ => retryable || anyRetryOf children

/-- Some node of some trees is tried again. -/
def anyRetryOf : List Node → Bool
  | [] => false
  | node :: nodes => node.anyRetry || anyRetryOf nodes

end

/-- **Induction on forests.**  The children of the first node come first, then the nodes beside
it. -/
theorem forest_induction {motive : List Node → Prop} (nil : motive [])
    (cons : ∀ node nodes, motive node.children → motive nodes → motive (node :: nodes)) :
    ∀ nodes, motive nodes
  | [] => nil
  | ⟨id, name, kind, source, retryable, children⟩ :: nodes =>
      cons ⟨id, name, kind, source, retryable, children⟩ nodes
        (forest_induction nil cons children) (forest_induction nil cons nodes)

lemma size_eq (node : Node) : node.size = sizeOfAll node.children + 1 := by
  cases node
  rfl

lemma anyRetry_eq (node : Node) :
    node.anyRetry = (node.retryable || anyRetryOf node.children) := by
  cases node
  rfl

lemma any_anyRetry (nodes : List Node) : nodes.any anyRetry = anyRetryOf nodes := by
  induction nodes with
  | nil => rfl
  | cons node nodes ih => rw [List.any_cons, ih, anyRetryOf]

end Node

namespace Slot

mutual

/-- The slots of a step and its descendants, from slot `first` on.  `retried` tells whether a step
around it is tried again. -/
def ofStep (path : List Nat) (parent? : Option Nat) (retried : Bool) (first : Nat) :
    Node → List Slot
  | ⟨id, name, kind, source, retryable, children⟩ =>
    let scope := retried || retryable
    ⟨path, parent?, first + Node.size ⟨id, name, kind, source, retryable, children⟩, scope,
        scope || Node.anyRetryOf children⟩ ::
      ofSteps path 0 (some first) scope (first + 1) children

/-- The slots of the steps at the positions from `rank` on below `path`. -/
def ofSteps (path : List Nat) (rank : Nat) (parent? : Option Nat) (retried : Bool) (first : Nat) :
    List Node → List Slot
  | [] => []
  | node :: nodes =>
    ofStep (path ++ [rank]) parent? retried first node ++
      ofSteps path (rank + 1) parent? retried (first + node.size) nodes

end

/-- The row of a forest: the first node, what lies below it, and what stands beside it. -/
lemma ofSteps_cons (path : List Nat) (rank : Nat) (parent? : Option Nat) (retried : Bool)
    (first : Nat) (node : Node) (nodes : List Node) :
    ofSteps path rank parent? retried first (node :: nodes)
      = ⟨path ++ [rank], parent?, first + node.size, retried || node.retryable,
            (retried || node.retryable) || Node.anyRetryOf node.children⟩ ::
          (ofSteps (path ++ [rank]) 0 (some first) (retried || node.retryable) (first + 1)
              node.children ++
            ofSteps path (rank + 1) parent? retried (first + node.size) nodes) := by
  cases node
  rfl

lemma length_ofSteps (path : List Nat) (rank : Nat) (parent? : Option Nat) (retried : Bool)
    (first : Nat) (nodes : List Node) :
    (ofSteps path rank parent? retried first nodes).length = Node.sizeOfAll nodes := by
  induction nodes using Node.forest_induction generalizing path rank parent? retried first with
  | nil => rfl
  | cons node nodes below beside =>
      rw [ofSteps_cons, List.length_cons, List.length_append, below, beside, Node.sizeOfAll,
        Node.size_eq]
      omega

/-! ## What is filled in -/

variable {path : List Nat} {parent? : Option Nat} {rank : Nat} {retried found : Bool}
  {row : List Slot}

/-- The entry behind a row is changed. -/
lemma modify_append_cons (row rest : List Slot) (s : Slot) (f : Slot → Slot) :
    (row ++ s :: rest).modify row.length f = row ++ f s :: rest := by
  induction row with
  | nil => rfl
  | cons t row ih =>
      rw [List.cons_append, List.length_cons, List.modify_succ_cons, ih, List.cons_append]

/-- Whether something is found below a step does not matter if the step itself is tried again. -/
lemma scope_or_any (scope : Bool) (nodes : List Node) :
    (scope || nodes.any fun node => scope || node.anyRetry) = (scope || Node.anyRetryOf nodes) := by
  rw [← Node.any_anyRetry]
  cases scope <;> rfl

/-- What is put behind a row for a forest. -/
def Puts (nodes : List Node) : Prop :=
  ∀ {path rank parent? retried found row},
    indexAll path rank parent? retried found row nodes =
      (found || nodes.any fun node => retried || node.anyRetry,
        row ++ ofSteps path rank parent? retried row.length nodes)

/-- What is put behind a row for a step: its own slot, which is filled in behind those of its
descendants. -/
lemma index_eq {node : Node} (hbelow : Puts node.children) :
    index path parent? retried row node =
      (retried || node.anyRetry, row ++ ofStep path parent? retried row.length node) := by
  obtain ⟨id, name, kind, source, retryable, children⟩ := node
  have hlength : (row ++ [(⟨path, parent?, row.length + 1, retried || retryable,
      retried || retryable⟩ : Slot)]).length = row.length + 1 := by simp
  rw [index, hbelow]
  dsimp only
  rw [hlength, List.append_assoc, List.singleton_append, modify_append_cons, Bool.false_or,
    List.length_append, List.length_cons, length_ofSteps, scope_or_any, ofStep, Node.size,
    Node.anyRetry, ← Bool.or_assoc]

/-- **What is put behind a row** is the row of the forest, with everything filled in.  Something is
found if a step of the forest, or one around it, is tried again. -/
theorem puts (nodes : List Node) : Puts nodes := by
  induction nodes using Node.forest_induction with
  | nil =>
      intro path rank parent? retried found row
      simp [indexAll, ofSteps]
  | cons node nodes below beside =>
      intro path rank parent? retried found row
      have hlength : (ofStep (path ++ [rank]) parent? retried row.length node).length = node.size := by
        cases node
        rw [ofStep, List.length_cons, length_ofSteps, Node.size]
      rw [indexAll, index_eq below]
      dsimp only
      rw [beside, List.length_append, hlength, List.append_assoc, List.any_cons, Bool.or_assoc, ofSteps]

/-- **The row of a scenario** is that of its steps. -/
theorem ofScenario_eq (scenario : Node) :
    ofScenario scenario = ofSteps [] 0 none false 0 scenario.children := by
  rw [ofScenario, puts scenario.children]
  exact List.nil_append _

end Slot

end ScenarioRunner

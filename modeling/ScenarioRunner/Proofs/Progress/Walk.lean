import ScenarioRunner.Progress.Tracker
import ScenarioRunner.Proofs.Progress.SlotTree

/-!
# The walk through the steps of a scenario

`Tracker.scan` runs through the row of slots and keeps the steps that it has entered and not left.  On
the row of a tree it is a walk that enters every step before its descendants and leaves it after them.
What is proved of a pass over the steps is an induction on this walk, and does not look at the tree or
at the steps that are kept.

* `Visit.ofScenario` is the walk through a scenario, as a list of visits.
* `Visit.Walk slots k visits k'`: the visits enter the slots from `k` up to `k'`, one after the other,
  and leave a slot when the next slot to enter is its `stop`.
* `Visit.walk_ofScenario`: the walk through a scenario goes from slot `0` to the last one.
* `Visit.leave_mem_ofScenario`: it leaves every slot.  `Visit.Walk.exists_split` cuts a walk where it
  does.
* `Tracker.scan_ofScenario`: the scan makes these visits.
-/

namespace ScenarioRunner

/-- A move on the walk through the steps of a scenario. -/
inductive Visit where
  | enter (slot : Nat)
  | leave (slot : Nat)
deriving DecidableEq

namespace Visit

mutual

/-- The walk through a step and its descendants, from slot `first` on. -/
def ofStep (first : Nat) : Node → List Visit
  | ⟨_, _, _, _, _, children⟩ => enter first :: ofSteps (first + 1) children ++ [leave first]

/-- The walk through some steps, one after the other. -/
def ofSteps (first : Nat) : List Node → List Visit
  | [] => []
  | node :: nodes => ofStep first node ++ ofSteps (first + node.size) nodes

end

/-- The walk through the steps of a scenario. -/
def ofScenario (scenario : Node) : List Visit :=
  ofSteps 0 scenario.children

/-- The visits enter the slots from one number up to another, and leave a slot when everything below
it has been entered. -/
inductive Walk (slots : List Slot) : Nat → List Visit → Nat → Prop where
  | nil (k : Nat) : Walk slots k [] k
  | enter {k k' : Nat} {visits : List Visit} {slot : Slot} (hslot : slots[k]? = some slot)
    (rest : Walk slots (k + 1) visits k') : Walk slots k (.enter k :: visits) k'
  | leave {k k' i : Nat} {visits : List Visit} {slot : Slot} (hslot : slots[i]? = some slot)
    (hstop : slot.stop = k) (rest : Walk slots k visits k') :
    Walk slots k (.leave i :: visits) k'

namespace Walk

variable {slots : List Slot} {k l m : Nat} {visits visits' : List Visit}

/-- Walks are put together. -/
theorem append (h : Walk slots k visits l) (h' : Walk slots l visits' m) :
    Walk slots k (visits ++ visits') m := by
  induction h with
  | nil k => exact h'
  | enter hslot _ ih => exact .enter hslot (ih h')
  | leave hslot hstop _ ih => exact .leave hslot hstop (ih h')

/-- Where a walk leaves a slot, everything in front of its `stop` has been entered. -/
theorem exists_split {i : Nat} (h : Walk slots k visits l) (hleave : .leave i ∈ visits) :
    ∃ front back slot, visits = front ++ .leave i :: back ∧ slots[i]? = some slot ∧
      Walk slots k front slot.stop ∧ Walk slots slot.stop back l := by
  induction h with
  | nil => exact absurd hleave List.not_mem_nil
  | enter hslot _ ih =>
      obtain ⟨front, back, s, rfl, hs, hfront, hback⟩ := ih (by simpa using hleave)
      exact ⟨.enter _ :: front, back, s, rfl, hs, .enter hslot hfront, hback⟩
  | leave hslot hstop hrest ih =>
      rcases List.mem_cons.mp hleave with heq | hleave
      · obtain rfl := Visit.leave.inj heq
        obtain rfl := hstop
        exact ⟨[], _, _, rfl, hslot, .nil _, hrest⟩
      · obtain ⟨front, back, s, rfl, hs, hfront, hback⟩ := ih hleave
        exact ⟨.leave _ :: front, back, s, rfl, hs, .leave hslot hstop hfront, hback⟩

end Walk

/-! ## The walk through a forest -/

lemma ofSteps_cons (first : Nat) (node : Node) (nodes : List Node) :
    ofSteps first (node :: nodes)
      = (enter first :: ofSteps (first + 1) node.children ++ [leave first]) ++
          ofSteps (first + node.size) nodes := by
  cases node
  rfl

/-- The slots from `first` on are the row of a forest. -/
def Holds (slots : List Slot) (first : Nat) (row : List Slot) : Prop :=
  ∀ l, l < row.length → slots[first + l]? = row[l]?

/-- What is known of the row of a forest: its first slot, and the rows below and beside it. -/
lemma Holds.cons {slots : List Slot} {node : Node} {nodes : List Node} {path : List Nat}
    {parent? : Option Nat} {rank first : Nat} {retried : Bool}
    (h : Holds slots first (Slot.ofSteps path rank parent? retried first (node :: nodes))) :
    slots[first]? = some ⟨path ++ [rank], parent?, first + node.size, retried || node.retryable,
        (retried || node.retryable) || Node.anyRetryOf node.children⟩ ∧
      Holds slots (first + 1) (Slot.ofSteps (path ++ [rank]) 0 (some first)
        (retried || node.retryable) (first + 1) node.children) ∧
      Holds slots (first + node.size)
        (Slot.ofSteps path (rank + 1) parent? retried (first + node.size) nodes) := by
  have hsize := node.size_eq
  have hlen := Slot.length_ofSteps path rank parent? retried first (node :: nodes)
  rw [Node.sizeOfAll] at hlen
  have hfirst := h 0 (by omega)
  rw [Slot.ofSteps_cons, List.getElem?_cons_zero, Nat.add_zero] at hfirst
  refine ⟨hfirst, fun l hl => ?_, fun l hl => ?_⟩
  · rw [Slot.length_ofSteps] at hl
    have := h (l + 1) (by omega)
    rwa [Slot.getElem?_ofSteps_below hl, Nat.add_comm l 1, ← Nat.add_assoc] at this
  · rw [Slot.length_ofSteps] at hl
    have := h (l + node.size) (by omega)
    rwa [Slot.getElem?_ofSteps_beside, Nat.add_comm l, ← Nat.add_assoc] at this

/-- The row of a scenario is that of its steps. -/
lemma holds_ofScenario (scenario : Node) :
    Holds (Slot.ofScenario scenario) 0 (Slot.ofSteps [] 0 none false 0 scenario.children) :=
  fun l _ => by rw [Nat.zero_add, Slot.ofScenario_eq]

/-- **The walk through a forest** enters its slots in their order. -/
theorem walk_ofSteps {slots : List Slot} (nodes : List Node) {path : List Nat}
    {parent? : Option Nat} {rank first : Nat} {retried : Bool}
    (h : Holds slots first (Slot.ofSteps path rank parent? retried first nodes)) :
    Walk slots first (ofSteps first nodes) (first + Node.sizeOfAll nodes) := by
  induction nodes using Node.forest_induction generalizing path rank parent? retried first with
  | nil => exact .nil first
  | cons node nodes below beside =>
      have hsize := node.size_eq
      obtain ⟨hfirst, hbelow, hbeside⟩ := h.cons
      have hnext : first + 1 + Node.sizeOfAll node.children = first + node.size := by omega
      rw [ofSteps_cons, Node.sizeOfAll, ← Nat.add_assoc]
      refine Walk.append (l := first + node.size) ?_ (beside hbeside)
      refine .enter hfirst (Walk.append (below hbelow) ?_)
      exact .leave hfirst hnext.symm (hnext ▸ .nil _)

theorem leave_mem_ofSteps {first i : Nat} {nodes : List Node} (hfirst : first ≤ i)
    (hi : i < first + Node.sizeOfAll nodes) : leave i ∈ ofSteps first nodes := by
  induction nodes using Node.forest_induction generalizing first with
  | nil =>
      rw [Node.sizeOfAll] at hi
      omega
  | cons node nodes below beside =>
      have hsize := node.size_eq
      rw [Node.sizeOfAll] at hi
      rw [ofSteps_cons, List.mem_append, List.mem_append, List.mem_cons, List.mem_singleton]
      rcases Nat.lt_or_ge i (first + node.size) with hlt | hge
      · rcases Nat.eq_or_lt_of_le hfirst with rfl | hlt'
        · exact Or.inl (Or.inr rfl)
        · exact Or.inl (Or.inl (Or.inr (below hlt' (by omega))))
      · exact Or.inr (beside hge (by omega))

/-! ## The walk through a scenario -/

/-- **The walk through a scenario** enters all of its slots in their order. -/
theorem walk_ofScenario (scenario : Node) :
    Walk (Slot.ofScenario scenario) 0 (ofScenario scenario)
      (Slot.ofScenario scenario).length := by
  rw [Slot.length_ofScenario, ← Nat.zero_add (Node.sizeOfAll scenario.children)]
  exact walk_ofSteps scenario.children (holds_ofScenario scenario)

/-- Every slot is left. -/
theorem leave_mem_ofScenario {scenario : Node} {i : Nat}
    (hi : i < (Slot.ofScenario scenario).length) : leave i ∈ ofScenario scenario := by
  rw [Slot.length_ofScenario] at hi
  exact leave_mem_ofSteps (Nat.zero_le i) (by omega)

end Visit

/-! ## The scan of a tracker -/

namespace Tracker

variable {slots : List Slot} {r : ExecutionReport} {entered entered' : List (Nat × Slot)}
  {p p' : Pass} {next : Nat}

/-- Makes one move on the walk through the steps. -/
def visit (slots : List Slot) (r : ExecutionReport) (p : Pass) (v : Visit) : Pass :=
  match v with
  | .enter i =>
    match slots[i]? with
    | some slot => enter slots slot i r p
    | none => p
  | .leave i =>
    match slots[i]? with
    | some slot => leave slots slot i r p
    | none => p

/-- Nothing is left while the next step is below everything that has been entered. -/
lemma complete_eq_self (h : ∀ x ∈ entered, next < x.2.stop) :
    complete slots r next entered p = (entered, p) := by
  cases entered with
  | nil => rfl
  | cons x entered => rw [complete, if_pos (h x List.mem_cons_self)]

/-- How a scan goes on depends on what is left before the next step only. -/
lemma scan_congr (rest : List Slot)
    (h : complete slots r next entered p = complete slots r next entered' p') :
    scan slots r rest next entered p = scan slots r rest next entered' p' := by
  cases rest with
  | nil => rw [scan, scan, h]
  | cons slot rest => rw [scan, scan, h]

/-- **The scan of a forest** makes the visits of the walk through it, whatever has been entered around
it. -/
theorem scan_ofSteps (nodes : List Node) {path : List Nat} {parent? : Option Nat} {rank first : Nat}
    {retried : Bool}
    (h : Visit.Holds slots first (Slot.ofSteps path rank parent? retried first nodes))
    (hentered : ∀ x ∈ entered, first + Node.sizeOfAll nodes ≤ x.2.stop) (rest : List Slot)
    (p : Pass) :
    scan slots r (Slot.ofSteps path rank parent? retried first nodes ++ rest) first entered p =
      scan slots r rest (first + Node.sizeOfAll nodes) entered
        ((Visit.ofSteps first nodes).foldl (visit slots r) p) := by
  induction nodes using Node.forest_induction
    generalizing path rank parent? retried first entered rest p with
  | nil => rfl
  | cons node nodes below beside =>
      have hsize := node.size_eq
      obtain ⟨hfirst, hbelow, hbeside⟩ := h.cons
      have hnext : first + 1 + Node.sizeOfAll node.children = first + node.size := by omega
      rw [Node.sizeOfAll, ← Nat.add_assoc] at hentered ⊢
      have hself : ∀ x ∈ entered, first < x.2.stop := fun x hx => by
        have := hentered x hx
        omega
      have hdeeper : ∀ x ∈ (first, ⟨path ++ [rank], parent?, first + node.size,
          retried || node.retryable,
          (retried || node.retryable) || Node.anyRetryOf node.children⟩) :: entered,
          first + 1 + Node.sizeOfAll node.children ≤ x.2.stop := by
        refine List.forall_mem_cons.mpr ⟨Nat.le_of_eq hnext, fun x hx => ?_⟩
        have := hentered x hx
        omega
      rw [Slot.ofSteps_cons, List.cons_append, List.append_assoc, scan, complete_eq_self hself]
      dsimp only
      rw [below hbelow hdeeper, hnext, Visit.ofSteps_cons, List.foldl_append, List.foldl_append,
        List.foldl_cons, List.foldl_cons, List.foldl_nil, ← beside hbeside hentered]
      -- what is below the step has been entered, so that the step is left before the next one
      refine scan_congr _ ?_
      simp only [visit, hfirst]
      rw [complete, if_neg (Nat.lt_irrefl _)]

/-- **The scan of a scenario** makes the visits of the walk through it. -/
theorem scan_ofScenario (scenario : Node) (r : ExecutionReport) (p : Pass) :
    scan (Slot.ofScenario scenario) r (Slot.ofScenario scenario) 0 [] p =
      (Visit.ofScenario scenario).foldl (visit (Slot.ofScenario scenario) r) p := by
  have h := scan_ofSteps (r := r) scenario.children (Visit.holds_ofScenario scenario)
    (List.forall_mem_nil _) [] p
  rw [List.append_nil, ← Slot.ofScenario_eq] at h
  rw [h]
  rfl

end Tracker

end ScenarioRunner

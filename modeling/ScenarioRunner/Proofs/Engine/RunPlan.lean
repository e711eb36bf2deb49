import ScenarioRunner.Proofs.Engine.ClassPlan
import ScenarioRunner.Proofs.Engine.Lists

/-!
# The plan of a run

What a run is going to do with the classes of a tree is fixed by what is going to be found for their
scenarios.

* `Findings` are what is found for the scenarios of each class.
* `RunRequest.placed` lists the classes with their places, those that are skipped and those that are
  not, and `RunRequest.plans` the plans of the latter.
* `RunRequest.prelude` is what the engine does before it waits for the classes.
* `Run.planned` is a run before its first step, as its plan sees it.
* `RunRequest.toldBy_prelude` lists the events of the prelude.
-/

namespace ScenarioRunner

/-- The event that an action of the engine tells. -/
def EngineAction.event? : EngineAction → Option Event
  | .emit e => some e
  | _ => none

/-- The class that an action of the engine starts. -/
def EngineAction.start? : EngineAction → Option Nat
  | .start k => some k
  | _ => none

/-- What is found for the scenarios of each class. -/
abbrev Findings := Nat → Candidate → Except Error Environment

namespace RunRequest

variable {σ : Type}

/-- Some classes with their places from `group` on, those that are skipped or those that are not. -/
def sorted (isSkipped : NodeId → Bool) (skipped : Bool) (group : Nat) (nodes : List Node) :
    List (Node × Nat) :=
  (nodes.zipIdx group).filter fun c => isSkipped c.1.id == skipped

/-- The classes of a tree with their places, those that are skipped or those that are not. -/
def placed (request : RunRequest) (skipped : Bool) : List (Node × Nat) :=
  sorted request.skip.contains skipped 0 request.root.children

/-- The plans of the classes that are not skipped. -/
def plans (request : RunRequest) (findings : Findings) : List ClassPlan :=
  (request.placed false).map fun c => ClassPlan.ofNode (findings c.2) request.skip.contains c.2 c.1

/-- What the engine tells of itself. -/
def event (request : RunRequest) (change : Change) : Event :=
  ⟨.engine, request.root, change⟩

/-- What is told of a class that is skipped. -/
def skippedEvent (c : Node × Nat) : Event :=
  ⟨.classAt c.2, c.1, .skipped skipReason⟩

/-- What the engine does before it waits for the classes. -/
def prelude (request : RunRequest) (options : RunOptions) : List EngineAction :=
  .emit (request.event .started) ::
    (Run.ofChildren options request.skip.contains 0 0 request.root.children).2

/-- The events that some actions of the engine tell. -/
def toldBy (actions : List EngineAction) : List Event :=
  actions.filterMap EngineAction.event?

@[simp] lemma toldBy_nil : toldBy [] = [] := rfl

@[simp] lemma toldBy_append (actions more : List EngineAction) :
    toldBy (actions ++ more) = toldBy actions ++ toldBy more :=
  List.filterMap_append ..

/-- The classes that some actions of the engine start. -/
def startedBy (actions : List EngineAction) : List Nat :=
  actions.filterMap EngineAction.start?

lemma mem_startedBy {actions : List EngineAction} {k : Nat} :
    k ∈ startedBy actions ↔ .start k ∈ actions := by
  rw [startedBy, List.mem_filterMap]
  constructor
  · rintro ⟨action, haction, hstart⟩
    cases action <;> simp_all [EngineAction.start?]
  · intro h
    exact ⟨.start k, h, rfl⟩

/-! ## The run before its first step -/

section Children

variable (options : RunOptions) (isSkipped : NodeId → Bool)

lemma sorted_cons (skipped : Bool) (group : Nat) (node : Node) (nodes : List Node) :
    sorted isSkipped skipped group (node :: nodes) =
      (if isSkipped node.id == skipped then [(node, group)] else []) ++
        sorted isSkipped skipped (group + 1) nodes := by
  rw [sorted, List.zipIdx_cons, List.filter_cons]
  split <;> rfl

lemma classes_ofChildren (group k : Nat) (nodes : List Node) :
    (Run.ofChildren options isSkipped group k nodes).1 =
      (sorted isSkipped false group nodes).map fun c =>
        ClassRun.ofNode options isSkipped c.2 c.1 := by
  induction nodes generalizing group k with
  | nil => rfl
  | cons node nodes ih =>
      rw [Run.ofChildren, sorted_cons]
      cases isSkipped node.id with
      | true => exact ih (group + 1) k
      | false => exact congrArg _ (ih (group + 1) (k + 1))

lemma toldBy_ofChildren (group k : Nat) (nodes : List Node) :
    toldBy (Run.ofChildren options isSkipped group k nodes).2 =
      (sorted isSkipped true group nodes).map skippedEvent := by
  induction nodes generalizing group k with
  | nil => rfl
  | cons node nodes ih =>
      rw [Run.ofChildren, sorted_cons]
      cases isSkipped node.id with
      | true => exact congrArg _ (ih (group + 1) k)
      | false => exact ih (group + 1) (k + 1)

lemma startedBy_ofChildren (group k : Nat) (nodes : List Node) :
    startedBy (Run.ofChildren options isSkipped group k nodes).2 =
      List.range' k (sorted isSkipped false group nodes).length := by
  induction nodes generalizing group k with
  | nil => rfl
  | cons node nodes ih =>
      rw [Run.ofChildren, sorted_cons]
      cases isSkipped node.id with
      | true => exact ih (group + 1) k
      | false => exact congrArg _ (ih (group + 1) (k + 1))

lemma cases_of_mem_ofChildren {group k : Nat} {nodes : List Node} {action : EngineAction}
    (h : action ∈ (Run.ofChildren options isSkipped group k nodes).2) :
    (∃ e, action = .emit e) ∨ ∃ k, action = .start k := by
  induction nodes generalizing group k with
  | nil => exact absurd h List.not_mem_nil
  | cons node nodes ih =>
      rw [Run.ofChildren] at h
      cases hskipped : isSkipped node.id with
      | true =>
          rw [hskipped, if_pos rfl] at h
          rcases List.mem_cons.mp h with rfl | h
          · exact Or.inl ⟨_, rfl⟩
          · exact ih h
      | false =>
          rw [hskipped, if_neg Bool.false_ne_true] at h
          rcases List.mem_cons.mp h with rfl | h
          · exact Or.inr ⟨_, rfl⟩
          · exact ih h

end Children

variable (options : RunOptions) (request : RunRequest) (s : σ)

/-- The engine goes through its prelude and then waits for the classes. -/
theorem actions_ofRequest :
    (Run.ofRequest options request s).actions =
      request.prelude options ++ [.awaitAll, .close] := by
  rw [Run.ofRequest, prelude]
  rfl

/-- The classes that run are those with plans. -/
theorem classes_ofRequest :
    (Run.ofRequest options request s).classes =
      (request.placed false).map fun c =>
        ClassRun.ofNode options request.skip.contains c.2 c.1 :=
  classes_ofChildren ..

/-- **The events of the prelude**: the engine starts, and some classes are skipped. -/
theorem toldBy_prelude :
    toldBy (request.prelude options) =
      request.event .started :: (request.placed true).map skippedEvent :=
  congrArg _ (toldBy_ofChildren ..)

/-- The prelude starts every class that is not skipped, in their order. -/
theorem startedBy_prelude :
    startedBy (request.prelude options) = List.range (request.placed false).length := by
  rw [List.range_eq_range']
  exact startedBy_ofChildren ..

variable {options request} {findings : Findings}

lemma start_mem_prelude_iff {k : Nat} :
    .start k ∈ request.prelude options ↔ k < (request.placed false).length := by
  rw [← mem_startedBy, startedBy_prelude, List.mem_range]

lemma start_not_mem_of_prelude {done todo : List EngineAction} {k : Nat}
    (h : request.prelude options = done ++ .start k :: todo) : .start k ∉ todo := by
  have hnodup : (startedBy (request.prelude options)).Nodup := by
    rw [startedBy_prelude]
    exact List.nodup_range
  rw [h, startedBy, List.filterMap_append, List.filterMap_cons] at hnodup
  have := (List.nodup_append.mp hnodup).2.1
  intro hmem
  exact (List.nodup_cons.mp this).1 (mem_startedBy.mpr hmem)

lemma cases_of_mem_prelude {action : EngineAction} (h : action ∈ request.prelude options) :
    (∃ e, action = .emit e) ∨ ∃ k, action = .start k := by
  rcases List.mem_cons.mp h with rfl | h
  · exact Or.inl ⟨_, rfl⟩
  · exact cases_of_mem_ofChildren options _ h

/-! ## The places of classes -/

lemma mem_placed {skipped : Bool} {c : Node × Nat} :
    c ∈ request.placed skipped ↔
      request.root.children[c.2]? = some c.1 ∧ request.skip.contains c.1.id = skipped := by
  rw [placed, sorted, List.mem_filter, List.mem_zipIdx_iff_getElem?, beq_iff_eq]

lemma pairwise_placed (skipped : Bool) :
    (request.placed skipped).Pairwise fun c c' => c.2 < c'.2 := by
  refine List.Pairwise.filter _ ?_
  rw [List.pairwise_iff_getElem]
  intro i j hi hj hij
  simpa using hij

/-- The plan of a class that is not skipped. -/
theorem mem_plans {P : ClassPlan} :
    P ∈ request.plans findings ↔
      ∃ node i, request.root.children[i]? = some node ∧ request.skip.contains node.id = false ∧
        P = ClassPlan.ofNode (findings i) request.skip.contains i node := by
  rw [plans, List.mem_map]
  constructor
  · rintro ⟨⟨node, i⟩, hc, rfl⟩
    exact ⟨node, i, (mem_placed.mp hc).1, (mem_placed.mp hc).2, rfl⟩
  · rintro ⟨node, i, hchild, hskip, rfl⟩
    exact ⟨(node, i), mem_placed.mpr ⟨hchild, hskip⟩, rfl⟩

/-- A class that is not skipped has a plan. -/
lemma exists_plan (findings : Findings) {i : Nat} {node : Node}
    (hchild : request.root.children[i]? = some node)
    (hskip : request.skip.contains node.id = false) :
    ∃ k : Nat, (request.plans findings)[k]? =
      some (ClassPlan.ofNode (findings i) request.skip.contains i node) :=
  List.getElem?_of_mem (mem_plans.mpr ⟨node, i, hchild, hskip, rfl⟩)

/-- The plans stand in the order of their places. -/
theorem pairwise_plans : (request.plans findings).Pairwise fun P P' => P.place < P'.place := by
  rw [plans, List.pairwise_map]
  exact pairwise_placed false

lemma plan_injective {k k' : Nat} {P P' : ClassPlan} (hk : (request.plans findings)[k]? = some P)
    (hk' : (request.plans findings)[k']? = some P') (hplace : P.place = P'.place) : k = k' :=
  eq_of_pairwise_lt pairwise_plans hk hk' hplace

end RunRequest

/-- **A run before its first step**, as its plan sees it: all that is going to be found is known. -/
def Run.planned {σ : Type} (findings : Findings) (options : RunOptions) (request : RunRequest)
    (s : σ) : Run σ :=
  { ofRequest options request s with
    classes :=
      (request.placed false).map fun c =>
        ClassPlan.planned (findings c.2) options request.skip.contains c.2 c.1 }

lemma Subject.eq_of_isWithinClass {s : Subject} {i j : Nat} (hi : s.isWithinClass i = true)
    (hj : s.isWithinClass j = true) : i = j := by
  unfold isWithinClass at hi hj
  cases s <;> simp_all

end ScenarioRunner

import Mathlib.Algebra.GroupWithZero.Nat
import ScenarioRunner.Proofs.Discovery.Identity

/-!
# Layers of a discovered tree

The nodes of a discovered tree lie in layers: below the engine come the classes, below these the
scenarios, and below these the steps.

* `Node.Layered` says so, and `Discovery.layered_discover` that it is true of discovered trees.
* `Node.Layered.scenarioCount_eq` counts the scenarios of such a tree class by class.
-/

namespace ScenarioRunner

namespace Node

/-- **The nodes of a tree lie in layers**: the children of classes are scenarios, and no other node
is one. -/
structure Layered (root : Node) : Prop where
  engine : root.isScenario = false
  classes : ∀ c ∈ root.children, c.isScenario = false
  scenarios : ∀ c ∈ root.children, ∀ m ∈ c.children, m.isScenario = true
  steps : ∀ c ∈ root.children, ∀ m ∈ c.children, ∀ n ∈ m.children.flatMap descendants,
    n.isScenario = false

namespace Layered

variable {root : Node}

/-- A class has as many scenarios as children. -/
lemma countP_class (h : root.Layered) {c : Node} (hc : c ∈ root.children) :
    c.descendants.countP isScenario = c.children.length := by
  have hone : ∀ m ∈ c.children, m.descendants.countP isScenario = 1 := by
    intro m hm
    have hbelow : (m.children.flatMap descendants).countP isScenario = 0 :=
      List.countP_eq_zero.mpr fun n hn => by simp [h.steps c hc m hm n hn]
    rw [descendants_eq, List.countP_cons_of_pos (h.scenarios c hc m hm), hbelow]
  have hnot : ¬ c.isScenario = true := by simp [h.classes c hc]
  have hmap : c.children.map (List.countP isScenario ∘ descendants) = c.children.map fun _ => 1 :=
    List.map_congr_left hone
  rw [descendants_eq, List.countP_cons_of_neg hnot, List.countP_flatMap, hmap, List.map_const',
    List.sum_replicate_nat, Nat.mul_one]

/-- **The scenarios of a tree** are the children of its classes. -/
theorem scenarioCount_eq (h : root.Layered) :
    root.scenarioCount = (root.children.map fun c => c.children.length).sum := by
  have hnot : ¬ root.isScenario = true := by simp [h.engine]
  rw [scenarioCount, descendants_eq, List.countP_cons_of_neg hnot, List.countP_flatMap]
  exact congrArg List.sum (List.map_congr_left fun c hc => h.countP_class hc)

end Layered

/-! ## Steps are no scenarios -/

mutual

lemma not_isScenario_ofStep (definition : Scenario) (path : List Nat) (rank : Nat)
    (parent : NodeId) : (step : Step) →
      ∀ n ∈ (ofStep definition path rank parent step).descendants, n.isScenario = false
  | ⟨_, _, _, subSteps⟩ => by
    rw [ofStep, descendants_eq]
    intro n hn
    obtain rfl | hn := List.mem_cons.mp hn
    · rfl
    · exact not_isScenario_ofSteps definition path 0 (parent.append "step" (toString rank)) subSteps
        n hn

lemma not_isScenario_ofSteps (definition : Scenario) (path : List Nat) (rank : Nat)
    (parent : NodeId) : (steps : List Step) →
      ∀ n ∈ (ofSteps definition path rank parent steps).flatMap descendants, n.isScenario = false
  | [] => fun _ hn => absurd hn List.not_mem_nil
  | step :: steps => by
    rw [ofSteps, List.flatMap_cons]
    intro n hn
    obtain hn | hn := List.mem_append.mp hn
    · exact not_isScenario_ofStep definition (path ++ [rank]) rank parent step n hn
    · exact not_isScenario_ofSteps definition path (rank + 1) parent steps n hn

end

variable {parent : NodeId} {segment : String} {source : ScenarioSource} {stepAsTest : Bool}

lemma isScenario_ofScenario : (ofScenario parent segment source stepAsTest).isScenario = true := by
  rw [ofScenario]
  split <;> rfl

lemma not_isScenario_below_ofScenario {n : Node}
    (hn : n ∈ (ofScenario parent segment source stepAsTest).children.flatMap descendants) :
    n.isScenario = false := by
  rw [ofScenario] at hn
  split at hn
  · exact not_isScenario_ofSteps _ _ _ _ _ n hn
  · exact absurd hn List.not_mem_nil

end Node

/-- **Discovered trees** have their nodes in layers. -/
theorem Discovery.layered_discover (catalog : Catalog) (stepAsTest : Bool)
    (request : DiscoveryRequest) : (discover catalog stepAsTest request).root.Layered := by
  rw [root_discover]
  have hclass : ∀ c ∈ (Node.engine ((request.found stepAsTest catalog).map
      (classNode request stepAsTest))).children,
      ∃ source, c = classNode request stepAsTest source := by
    intro c hc
    obtain ⟨source, -, rfl⟩ := List.mem_map.mp hc
    exact ⟨source, rfl⟩
  refine ⟨rfl, fun c hc => ?_, fun c hc m hm => ?_, fun c hc m hm n hn => ?_⟩ <;>
    obtain ⟨source, rfl⟩ := hclass c hc
  · rfl
  · obtain ⟨segment, found, rfl⟩ := DiscoveryRequest.exists_of_mem_scenarios hm
    exact Node.isScenario_ofScenario
  · obtain ⟨segment, found, rfl⟩ := DiscoveryRequest.exists_of_mem_scenarios hm
    exact Node.not_isScenario_below_ofScenario hn

end ScenarioRunner

import Mathlib.Tactic.Common
import ScenarioRunner.Proofs.Progress.History

/-!
# Steps, nodes and reports at the same positions

A scenario, the node for it whose steps are nodes, and a report on it in which everything has one
status are built by three recursions.  They are trees of the same shape, so that positions in one of
them are positions in all.

* `Step.at?_uniformReport` and `Scenario.at?_uniformReport`: the report on the step at some positions
  is what the whole report has there.
* `Node.at?_ofStep` and `Node.step?_ofScenario`: the node at some positions is that of the step there,
  and its identifier spells the positions.
* `ExecutionReport.Uniform`: a snapshot gives all steps of a scenario one status.
  `ExecutionReport.uniform_uniformReport`: so does the uniform report on it.
-/

namespace ScenarioRunner

/-! ## Reports -/

namespace Step

variable {status : Status}

lemma uniformReports_eq_map (status : Status) (steps : List Step) :
    uniformReports status steps = steps.map (uniformReport status) := by
  induction steps with
  | nil => rfl
  | cons step steps ih => rw [uniformReports, ih, List.map_cons]

@[simp] lemma status_uniformReport (s : Step) : (s.uniformReport status).status = status := by
  cases s
  rfl

lemma steps_uniformReport (s : Step) :
    (s.uniformReport status).steps = s.subSteps.map (uniformReport status) := by
  cases s
  rw [uniformReport, uniformReports_eq_map]

/-- A uniform report on a step has the uniform report on each step below it. -/
theorem at?_uniformReport (s : Step) (path : List Nat) :
    (s.uniformReport status).at? path = (s.at? path).map (uniformReport status) := by
  induction path generalizing s with
  | nil => rfl
  | cons i path ih =>
      rw [StepReport.at?, at?, steps_uniformReport, List.getElem?_map, Option.bind_map,
        Option.map_bind]
      exact congrArg _ (funext fun t => ih t)

end Step

/-- A uniform report on a scenario has the uniform report on each of its steps. -/
theorem Scenario.at?_uniformReport (s : Scenario) (status : Status) {path : List Nat}
    (hpath : path ≠ []) :
    (s.uniformReport status).at? path = (s.stepAt? path).map (Step.uniformReport status) := by
  cases path with
  | nil => exact absurd rfl hpath
  | cons i path =>
      rw [StepReport.at?, stepAt?, uniformReport, Step.uniformReports_eq_map, List.getElem?_map,
        Option.bind_map, Option.map_bind]
      exact congrArg _ (funext fun t => t.at?_uniformReport path)

/-- Everything in a uniform report has its status. -/
lemma Scenario.status_of_at?_uniformReport {s : Scenario} {status : Status} {path : List Nat}
    {r : StepReport} (h : (s.uniformReport status).at? path = some r) : r.status = status := by
  cases path with
  | nil =>
      obtain rfl := Option.some.inj h
      rfl
  | cons i path =>
      rw [at?_uniformReport s status (List.cons_ne_nil i path)] at h
      obtain ⟨step, -, rfl⟩ := Option.map_eq_some_iff.mp h
      exact step.status_uniformReport

/-! ## Nodes -/

/-- The identifier of the step at some positions below a node. -/
def NodeId.below (id : NodeId) (path : List Nat) : NodeId :=
  path.foldl (fun id i => id.append "step" (toString i)) id

namespace Node

variable {definition : Scenario} {base : List Nat} {rank : Nat} {parent : NodeId}

lemma getElem?_ofSteps (steps : List Step) (i : Nat) :
    (ofSteps definition base rank parent steps)[i]? =
      (steps[i]?).map (ofStep definition (base ++ [rank + i]) (rank + i) parent) := by
  induction steps generalizing rank i with
  | nil => rfl
  | cons step steps ih =>
      rw [ofSteps]
      cases i with
      | zero => rfl
      | succ i =>
          rw [List.getElem?_cons_succ, List.getElem?_cons_succ, ih, Nat.add_right_comm, Nat.add_assoc]

lemma children_ofStep (s : Step) :
    (ofStep definition base rank parent s).children =
      ofSteps definition base 0 (parent.append "step" (toString rank)) s.subSteps := by
  cases s
  rfl

/-- The nodes below that of a step are those of the steps below it. -/
theorem at?_ofStep (s : Step) (path : List Nat) :
    (ofStep definition base rank parent s).at? path =
      (s.at? path).map (ofStep definition (base ++ path) (path.getLastD rank)
        (parent.below (rank :: path).dropLast)) := by
  induction path generalizing s base rank parent with
  | nil => rw [List.append_nil]; rfl
  | cons i path ih =>
      rw [at?, Step.at?, children_ofStep, getElem?_ofSteps, Option.bind_map, Option.map_bind,
        Nat.zero_add]
      refine congrArg _ (funext fun t => ?_)
      rw [Function.comp_apply, Function.comp_apply, ih, List.append_assoc, List.singleton_append,
        List.getLastD_cons]
      rfl

variable {segment : String} {source : ScenarioSource}

/-- **The nodes of a scenario are those of its steps**, at the same positions. -/
theorem step?_ofScenario (path : List Nat) :
    (ofScenario parent segment source true).step? path =
      (source.definition.stepAt? path).map (ofStep source.definition path (path.getLastD 0)
        ((parent.append "scenario" segment).below path.dropLast)) := by
  cases path with
  | nil => rfl
  | cons i path =>
      rw [step?, among?, Scenario.stepAt?, ofScenario, if_pos rfl, getElem?_ofSteps,
        Option.bind_map, Option.map_bind, Nat.zero_add, List.nil_append]
      refine congrArg _ (funext fun t => ?_)
      rw [Function.comp_apply, Function.comp_apply, at?_ofStep, List.singleton_append,
        List.getLastD_cons]

/-- Without steps as tests, a scenario has no nodes below it. -/
lemma step?_ofScenario_false (path : List Nat) :
    (ofScenario parent segment source false).step? path = none := by
  cases path <;> rfl

end Node

/-! ## Snapshots -/

/-- The snapshot gives every step of the scenario the same status. -/
def ExecutionReport.Uniform (r : ExecutionReport) (scenario : Node) (status : Status) : Prop :=
  ∀ path, (scenario.step? path).isSome → r.statusAt? path = some status

lemma ExecutionReport.Uniform.shows {r : ExecutionReport} {scenario : Node} {status : Status}
    (h : r.Uniform scenario status) (hne : status ≠ .notExecuted) {path : List Nat}
    (hstep : (scenario.step? path).isSome) : r.Shows path :=
  ⟨status, h path hstep, hne⟩

/-- **A uniform report on a scenario** gives every node below that of the scenario its status, whether
steps are tests or not. -/
theorem ExecutionReport.uniform_uniformReport {r : ExecutionReport} {parent : NodeId}
    {segment : String} {source : ScenarioSource} {stepAsTest : Bool} {status : Status}
    (h : r.report = source.definition.uniformReport status) :
    r.Uniform (.ofScenario parent segment source stepAsTest) status := by
  intro path hstep
  cases stepAsTest with
  | false =>
      rw [Node.step?_ofScenario_false] at hstep
      exact absurd hstep (by simp)
  | true =>
      rw [Node.step?_ofScenario, Option.isSome_map] at hstep
      obtain ⟨step, hstep⟩ := Option.isSome_iff_exists.mp hstep
      have hpath : path ≠ [] := by
        rintro rfl
        exact absurd hstep (by simp [Scenario.stepAt?])
      rw [statusAt?, h, Scenario.at?_uniformReport _ _ hpath, hstep]
      simp

end ScenarioRunner

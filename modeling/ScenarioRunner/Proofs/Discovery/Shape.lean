import ScenarioRunner.Proofs.Discovery.Identity
import ScenarioRunner.Proofs.Progress.Positions

/-!
# One shape for scenarios, nodes and reports

A step is known by its positions: those of the steps around it among their siblings, and its own one.
The node tree of a scenario whose steps are nodes and the report in which everything has one status
have the positions of the scenario, and show the same step at each of them.

* `Node.Describes`: a node leads back to a step and shows its description, its retries and its kind.
  `Node.exists_at?_ofScenario`: the node at the positions of a step describes it, and
  `NodeId.segments_below` spells its identifier.
* `Scenario.SameShape`: two scenarios have steps at the same positions.  `Node.ids_ofScenario_eq`: the
  nodes of two such scenarios have the same identifiers in the same order.
* `Scenario.agree_at_positions` puts these together.
-/

namespace ScenarioRunner

/-! ## Positions -/

namespace Step

/-- **Induction on forests of steps.**  The sub-steps of the first step come first, then the steps
beside it. -/
theorem forest_induction {motive : List Step → Prop} (nil : motive [])
    (cons : ∀ step steps, motive step.subSteps → motive steps → motive (step :: steps)) :
    ∀ steps, motive steps
  | [] => nil
  | ⟨description, implementation, strategy, subSteps⟩ :: steps =>
      cons ⟨description, implementation, strategy, subSteps⟩ steps
        (forest_induction nil cons subSteps) (forest_induction nil cons steps)

/-- The step at some positions, the first of which counts the trees of a forest. -/
def among? (steps : List Step) : List Nat → Option Step
  | [] => none
  | i :: path => (steps[i]?).bind fun step => step.at? path

/-- Two forests have steps at the same positions. -/
def SameShape (steps others : List Step) : Prop :=
  ∀ path, (among? steps path).isSome = (among? others path).isSome

namespace SameShape

variable {step other : Step} {steps others : List Step}

lemma eq_nil (h : SameShape [] others) : others = [] := by
  cases others with
  | nil => rfl
  | cons other others => exact absurd (h [0]) Bool.false_ne_true

lemma exists_cons (h : SameShape (step :: steps) others) :
    ∃ other rest, others = other :: rest := by
  cases others with
  | nil => exact absurd (h [0]).symm Bool.false_ne_true
  | cons other rest => exact ⟨other, rest, rfl⟩

lemma subSteps (h : SameShape (step :: steps) (other :: others)) :
    SameShape step.subSteps other.subSteps
  | [] => rfl
  | i :: path => h (0 :: i :: path)

lemma tail (h : SameShape (step :: steps) (other :: others)) : SameShape steps others
  | [] => rfl
  | i :: path => h ((i + 1) :: path)

end SameShape

end Step

namespace Scenario

lemma stepAt?_eq (s : Scenario) (path : List Nat) : s.stepAt? path = Step.among? s.steps path := by
  cases path <;> rfl

/-- Two scenarios have steps at the same positions. -/
def SameShape (s other : Scenario) : Prop :=
  ∀ path, (s.stepAt? path).isSome = (other.stepAt? path).isSome

lemma SameShape.steps {s other : Scenario} (h : s.SameShape other) :
    Step.SameShape s.steps other.steps := by
  intro path
  rw [← stepAt?_eq, ← stepAt?_eq]
  exact h path

end Scenario

namespace NodeId

lemma segments_below (id : NodeId) (path : List Nat) :
    (id.below path).segments = id.segments ++ path.map fun i => ("step", toString i) := by
  induction path generalizing id with
  | nil => exact (List.append_nil _).symm
  | cons i path ih =>
      have hstep : id.below (i :: path) = (id.append "step" (toString i)).below path := rfl
      rw [hstep, ih, NodeId.append, List.append_assoc]
      rfl

lemma below_concat (id : NodeId) (path : List Nat) (i : Nat) :
    id.below (path ++ [i]) = (id.below path).append "step" (toString i) :=
  List.foldl_concat ..

/-- The identifier of a step ends with its last position. -/
lemma below_dropLast (id : NodeId) {path : List Nat} (hpath : path ≠ []) :
    (id.below path.dropLast).append "step" (toString (path.getLastD 0)) = id.below path := by
  rw [List.getLastD_eq_getLast?, List.getLast?_eq_some_getLast hpath, Option.getD_some, ← below_concat,
    List.dropLast_append_getLast]

end NodeId

namespace Node

lemma exists_at?_of_mem_flatMap (nodes : List Node) (m : Node) :
    m ∈ nodes.flatMap descendants → ∃ n ∈ nodes, ∃ path, n.at? path = some m := by
  induction nodes using forest_induction with
  | nil => exact fun h => absurd h List.not_mem_nil
  | cons n nodes below beside =>
      rw [List.flatMap_cons, List.mem_append, descendants_eq, List.mem_cons]
      rintro ((rfl | h) | h)
      · exact ⟨m, List.mem_cons_self, [], rfl⟩
      · obtain ⟨child, hchild, path, hpath⟩ := below h
        obtain ⟨i, hi⟩ := List.mem_iff_getElem?.mp hchild
        exact ⟨n, List.mem_cons_self, i :: path, Option.bind_eq_some_iff.mpr ⟨child, hi, hpath⟩⟩
      · obtain ⟨other, hother, hpath⟩ := beside h
        exact ⟨other, List.mem_cons_of_mem n hother, hpath⟩

/-- Each node of a tree stands at some positions. -/
lemma exists_at?_of_mem_descendants {n m : Node} (h : m ∈ n.descendants) :
    ∃ path, n.at? path = some m := by
  have hforest : m ∈ [n].flatMap descendants := by rwa [List.flatMap_singleton]
  obtain ⟨root, hroot, hpath⟩ := exists_at?_of_mem_flatMap [n] m hforest
  rwa [List.mem_singleton.mp hroot] at hpath

/-! ## Nodes of steps -/

/-- **The node is that of a step**: it leads back to the step, bears its description, is tried again if
the step is, and is a test if the step invokes an action and a container unless it does so without
sub-steps. -/
structure Describes (n : Node) (s : Step) : Prop where
  step : n.source.step? = some s
  name : n.name = s.description
  retryable : n.retryable = s.isRetry
  kind : n.kind =
    match s.implementation, s.subSteps with
    | none, _ => .container
    | some _, [] => .test
    | some _, _ :: _ => .containerAndTest

variable {definition : Scenario} {path : List Nat} {rank : Nat} {parent : NodeId}

lemma describes_ofStep {s : Step} (h : definition.stepAt? path = some s) :
    (ofStep definition path rank parent s).Describes s := by
  obtain ⟨description, implementation, strategy, subSteps⟩ := s
  refine ⟨h, rfl, rfl, ?_⟩
  cases implementation <;> cases subSteps <;> rfl

/-! ## Nodes of scenarios -/

variable {segment : String} {source : ScenarioSource} {s : Step}

/-- The identifier of each node of a scenario spells the positions of the node. -/
lemma id_of_at?_ofScenario {stepAsTest : Bool} {n : Node}
    (h : (ofScenario parent segment source stepAsTest).at? path = some n) :
    n.id = (parent.append "scenario" segment).below path := by
  cases path with
  | nil =>
      obtain rfl := Option.some.inj h
      exact id_ofScenario
  | cons i path =>
      have hstep := (step?_eq_some_iff _ _ _).mpr ⟨List.cons_ne_nil i path, h⟩
      cases stepAsTest with
      | false =>
          rw [step?_ofScenario_false] at hstep
          cases hstep
      | true =>
          rw [step?_ofScenario] at hstep
          obtain ⟨s, -, rfl⟩ := Option.map_eq_some_iff.mp hstep
          rw [id_ofStep, NodeId.below_dropLast _ (List.cons_ne_nil i path)]

/-- **The node at the positions of a step** describes it, and its identifier spells the positions. -/
theorem exists_at?_ofScenario (h : source.definition.stepAt? path = some s) :
    ∃ n, (ofScenario parent segment source true).at? path = some n ∧ n.Describes s ∧
      n.id = (ofScenario parent segment source true).id.below path := by
  have hstep : (ofScenario parent segment source true).step? path =
      some (ofStep source.definition path (path.getLastD 0)
        ((parent.append "scenario" segment).below path.dropLast) s) := by
    rw [step?_ofScenario, h]
    rfl
  have hnode := ((step?_eq_some_iff _ _ _).mp hstep).2
  exact ⟨_, hnode, describes_ofStep h, (id_of_at?_ofScenario hnode).trans (by rw [id_ofScenario])⟩

lemma isSome_at?_ofScenario (path : List Nat) :
    ((ofScenario parent segment source true).at? path).isSome ↔
      path = [] ∨ (source.definition.stepAt? path).isSome := by
  cases path with
  | nil => simp [at?]
  | cons i path =>
      have hstep : (ofScenario parent segment source true).at? (i :: path) =
          (ofScenario parent segment source true).step? (i :: path) := rfl
      rw [hstep, step?_ofScenario, Option.isSome_map]
      simp

/-- Steps at the same positions have the same identifiers. -/
lemma ids_ofSteps_eq {other : Scenario} {base base' : List Nat} {steps others : List Step}
    (h : Step.SameShape steps others) :
    (ofSteps definition base rank parent steps).flatMap ids =
      (ofSteps other base' rank parent others).flatMap ids := by
  induction steps using Step.forest_induction generalizing others base base' rank parent with
  | nil =>
      rw [h.eq_nil]
      rfl
  | cons step steps below beside =>
      obtain ⟨next, rest, rfl⟩ := h.exists_cons
      rw [ofSteps, ofSteps, List.flatMap_cons, List.flatMap_cons, ids_eq, ids_eq, id_ofStep, id_ofStep,
        children_ofStep, children_ofStep, below h.subSteps, beside h.tail]

/-- **Identifiers depend on the shape of a scenario only.** -/
theorem ids_ofScenario_eq {other : ScenarioSource}
    (h : source.definition.SameShape other.definition) :
    (ofScenario parent segment source true).ids = (ofScenario parent segment other true).ids := by
  rw [ids_eq, ids_eq, id_ofScenario, id_ofScenario]
  exact congrArg _ (ids_ofSteps_eq h.steps)

end Node

namespace Scenario

lemma isSome_at?_uniformReport (s : Scenario) (status : Status) (path : List Nat) :
    ((s.uniformReport status).at? path).isSome ↔ path = [] ∨ (s.stepAt? path).isSome := by
  cases path with
  | nil => simp [StepReport.at?]
  | cons i path =>
      rw [at?_uniformReport s status (List.cons_ne_nil i path), Option.isSome_map]
      simp

/-- **A scenario, its nodes and its uniform report agree position by position.**  The three have the
same positions.  At the positions of a step, its node describes the step and has an identifier that
continues that of the scenario with the positions, and the report has the description of the step and
the status of the whole report.  Hence scenarios of one shape have nodes with the same identifiers. -/
theorem agree_at_positions (parent : NodeId) (segment : String) (source : ScenarioSource)
    (status : Status) :
    let node := Node.ofScenario parent segment source true
    let report := source.definition.uniformReport status
    (∀ path, ((node.at? path).isSome ↔ path = [] ∨ (source.definition.stepAt? path).isSome) ∧
      ((report.at? path).isSome ↔ path = [] ∨ (source.definition.stepAt? path).isSome)) ∧
    (∀ path step, source.definition.stepAt? path = some step →
      ∃ below shown, node.at? path = some below ∧ below.Describes step ∧
        below.id.segments = node.id.segments ++ path.map (fun i => ("step", toString i)) ∧
        report.at? path = some shown ∧ shown.name = step.description ∧ shown.status = status) ∧
    ∀ other : ScenarioSource, source.definition.SameShape other.definition →
      node.ids = (Node.ofScenario parent segment other true).ids := by
  intro node report
  refine ⟨fun path => ⟨Node.isSome_at?_ofScenario path,
    isSome_at?_uniformReport source.definition status path⟩, fun path step hstep => ?_,
    fun other hshape => Node.ids_ofScenario_eq hshape⟩
  obtain ⟨below, hbelow, hdescribes, hid⟩ := Node.exists_at?_ofScenario hstep
  have hpath : path ≠ [] := by
    rintro rfl
    exact absurd hstep (by simp [stepAt?])
  have hshown : report.at? path = some (step.uniformReport status) := by
    rw [at?_uniformReport _ _ hpath, hstep]
    rfl
  refine ⟨below, _, hbelow, hdescribes, ?_, hshown, ?_, step.status_uniformReport⟩
  · rw [hid, NodeId.segments_below]
  · cases step
    rfl

/-- A step, and then a group of two that is tried again. -/
def groupedSearch : Scenario :=
  ⟨"Search", none, [], none, [.action "open" (.ofAction "get")],
    ⟨"search", none, some (.retry "5 s" "1 s"),
      [.action "type" (.ofAction "keys"), .action "submit" (.ofAction "click")]⟩, []⟩

/-- The second step of the group, in the nodes and in a report of success. -/
theorem agree_at_positions_grouped :
    let node := Node.ofScenario (.engine NodeId.engineName) "search"
      ⟨groupedSearch, "web.Search", "search", none⟩ true
    groupedSearch.stepAt? [1, 1] = some (.action "submit" (.ofAction "click")) ∧
      ∃ below shown, node.at? [1, 1] = some below ∧ below.name = "submit" ∧ below.kind = .test ∧
        below.id.text = "[engine:chutney]/[scenario:search]/[step:1]/[step:1]" ∧
        (groupedSearch.uniformReport .success).at? [1, 1] = some shown ∧ shown.status = .success := by
  intro node
  have hstep : groupedSearch.stepAt? [1, 1] = some (.action "submit" (.ofAction "click")) := rfl
  obtain ⟨-, hsteps, -⟩ := agree_at_positions (.engine NodeId.engineName) "search"
    ⟨groupedSearch, "web.Search", "search", none⟩ .success
  obtain ⟨below, shown, hbelow, hdescribes, hid, hshown, -, hstatus⟩ := hsteps [1, 1] _ hstep
  refine ⟨hstep, below, shown, hbelow, hdescribes.name, hdescribes.kind, ?_, hshown, hstatus⟩
  rw [NodeId.text, hid]
  rfl

end Scenario

end ScenarioRunner

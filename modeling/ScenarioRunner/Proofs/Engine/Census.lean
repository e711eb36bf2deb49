import Mathlib.Data.List.Nodup
import Mathlib.Data.List.Perm.Basic
import ScenarioRunner.Proofs.Discovery.Layers
import ScenarioRunner.Proofs.Engine.Aggregation
import ScenarioRunner.Proofs.Progress.SlotTree
import ScenarioRunner.Report.Transcript

/-!
# How many scenarios are finished

The events of a run count the scenarios of its tree.

* `Node.nodeAt?` is the node at a subject, and `Run.Completes.isAt`: every event of a run bears the
  node at its subject.
* `RunRequest.scenarios` lists the subjects of the scenarios that are not skipped, and
  `Run.Completes.countP_finishesScenario`: at the end of a run each of them has been finished once.
* `Node.Layered.length_scenarios`: if nothing is skipped, these are the scenarios of the tree.
* `Run.Completes.tally_eq` reads the tally of a run from that.

A tally looks at what nodes stand for, and the engine at their places, so that the two agree only in
trees with layers.
-/

namespace ScenarioRunner

/-! ## Nodes of events -/

/-- The node at a subject. -/
def Node.nodeAt? (root : Node) : Subject → Option Node
  | .engine => some root
  | .classAt i => root.children[i]?
  | .scenarioAt i j => (root.children[i]?).bind fun c => c.children[j]?
  | .stepAt i j slot =>
    ((root.children[i]?).bind fun c => c.children[j]?).bind fun s =>
      (Tracker.ofScenario s).node? slot

/-- The event bears the node at its subject. -/
def Event.IsAt (root : Node) (e : Event) : Prop :=
  root.nodeAt? e.subject = some e.node

/-- What a job tells bears the nodes at and below its scenario. -/
lemma Job.isAt_of_mem {job : Job} {options : RunOptions} {root : Node}
    {opened : Except Error (ExecutionId × List Item)} {e : Event}
    (hjob : ∀ change, (job.event change).IsAt root)
    (he : e ∈ job.event .started :: toldBy (job.actions options opened)) : e.IsAt root := by
  have hstep : ∀ {m : Move}, job.stepEvent? m = some e → e.IsAt root := by
    intro m hm
    rw [stepEvent?, Option.map_eq_some_iff] at hm
    obtain ⟨node, hnode, rfl⟩ := hm
    have hscenario : (root.children[job.group]?).bind (fun c => c.children[job.place]?) =
        some job.node := hjob .started
    show (Option.bind _ _).bind _ = _
    rw [hscenario]
    exact hnode
  rw [toldBy_actions, List.mem_cons, List.mem_append, List.mem_singleton] at he
  obtain rfl | hinner | rfl := he
  · exact hjob _
  · obtain ⟨m, hm⟩ | ⟨report, rfl⟩ := exists_of_mem_innerEvents hinner
    · exact hstep hm
    · exact hjob _
  · exact hjob _

namespace ClassPlan

variable {found : Candidate → Except Error Environment} {isSkipped : NodeId → Bool} {i : Nat}
  {node root : Node} {options : RunOptions} {verdict : Verdict} {log : List Event} {e : Event}

lemma isAt_of_candidateAt? (hchild : root.children[i]? = some node) {c : Candidate}
    (hc : candidateAt? node c.place = some c) (change : Change) : (c.event i change).IsAt root := by
  simp only [candidateAt?, Option.bind_eq_bind, Option.bind_eq_some_iff] at hc
  obtain ⟨child, hat, source, -, heq⟩ := hc
  show (root.children[i]?).bind _ = _
  rw [hchild, Option.bind_some, hat, ← Option.some.inj heq]
  rfl

/-- The prelude of a class tells of the class and of its scenarios. -/
lemma isAt_of_mem_prelude (hchild : root.children[i]? = some node)
    (he : e ∈ toldBy (ofNode found isSkipped i node).prelude) : e.IsAt root := by
  rw [toldBy_prelude, List.mem_append, List.mem_cons, List.mem_map, List.mem_flatMap] at he
  obtain (rfl | ⟨c, hc, rfl⟩) | ⟨⟨c, error⟩, hc, he⟩ := he
  · exact hchild
  · exact isAt_of_candidateAt? hchild (skipped_iff.mp hc).1 _
  · have hat := isAt_of_candidateAt? hchild (failed_iff.mp hc).1
    simp only [List.mem_cons, List.not_mem_nil, or_false] at he
    obtain rfl | rfl := he
    · exact hat _
    · exact hat _

/-- Every event of a class that is finished bears the node at its subject. -/
lemma Complete.isAt (h : (ofNode found isSkipped i node).Complete (Job.Stage options) verdict log)
    (hchild : root.children[i]? = some node) (he : e ∈ log) : e.IsAt root := by
  cases h with
  | intro hcovered htold =>
      rw [List.mem_append, List.mem_append, List.mem_singleton] at he
      obtain (he | he) | rfl := he
      · exact isAt_of_mem_prelude hchild he
      · obtain ⟨job, hjob, hcovers⟩ := hcovered e he
        obtain ⟨opened, -, hall⟩ := (htold job hjob).of_done
        obtain ⟨c, environment, hc, -, -, rfl⟩ := jobs_iff.mp hjob
        refine Job.isAt_of_mem (fun change => ?_)
          (hall ▸ List.mem_filter.mpr ⟨he, by simpa using hcovers⟩)
        exact isAt_of_candidateAt? hchild hc change
      · exact hchild

end ClassPlan

/-- What the engine tells at the end bears the nodes of the engine and of classes. -/
lemma Run.isAt_of_mem_enginesLog {σ : Type} {options : RunOptions} {request : RunRequest}
    {r : Run σ} {result : NodeResult}
    (htold : r.enginesLog request =
      RunRequest.toldBy (request.prelude options) ++ [request.event (.finished result)])
    {e : Event} (he : e ∈ r.enginesLog request) : e.IsAt request.root := by
  rcases cases_of_mem_enginesLog htold he with rfl | ⟨c, hc, rfl⟩ | rfl
  · rfl
  · exact (RunRequest.mem_placed.mp hc).1
  · rfl

/-- **Every event of a run** that has come to its end bears the node at its subject. -/
theorem Run.Completes.isAt {σ : Type} {b : Backend σ} {options : RunOptions} {request : RunRequest}
    {s : σ} {r : Run σ} (h : Completes b options request s r) {e : Event}
    (he : e ∈ r.outside.events) : e.IsAt request.root := by
  obtain ⟨choices, hreaches, hquiet⟩ := h.reaches
  obtain ⟨findings, hproceeds, hstuck⟩ := hreaches.exists_proceeds hquiet
  have hfollows := follows_of_proceeds hproceeds
  obtain ⟨⟨htold, -⟩, hclasses⟩ :=
    hfollows.done_of_stuck (fun hclass => ⟨_, hclass⟩) (hstuck h.stuck) h.limit
  obtain hengines | ⟨P, hP, hown⟩ := mem_enginesLog_or_mem_logOf findings request he
  · exact isAt_of_mem_enginesLog htold hengines
  · obtain ⟨k, hk⟩ := List.getElem?_of_mem hP
    obtain ⟨c, hc, hclass⟩ := hfollows.classes hk
    obtain ⟨⟨verdict, hphase⟩, hdone⟩ := hclasses k c hc
    obtain ⟨node, i, hchild, -, rfl⟩ := RunRequest.mem_plans.mp hP
    exact (hclass.complete hphase hdone).isAt hchild hown

/-! ## Scenarios that are finished -/

/-- The event says that a scenario is finished. -/
def Event.finishesScenario (e : Event) : Bool :=
  match e.subject, e.change with
  | .scenarioAt _ _, .finished _ => true
  | _, _ => false

lemma Event.exists_of_finishesScenario {e : Event} (h : e.finishesScenario = true) :
    ∃ i j result, e.subject = .scenarioAt i j ∧ e.change = .finished result := by
  obtain ⟨subject, node, change⟩ := e
  cases subject <;> cases change <;> simp_all [finishesScenario]

lemma Event.finishesScenario_of_failsScenario {e : Event} (h : e.failsScenario = true) :
    e.finishesScenario = true := by
  obtain ⟨subject, node, change⟩ := e
  cases subject <;> cases change <;> simp_all [failsScenario, finishesScenario]

namespace RunRequest

/-- The subjects of the scenarios that are not skipped. -/
def scenarios (request : RunRequest) : List Subject :=
  (request.placed false).flatMap fun c =>
    (ClassPlan.runnable request.skip.contains c.1).map fun candidate =>
      .scenarioAt c.2 candidate.place

lemma mem_scenarios {request : RunRequest} {subject : Subject} :
    subject ∈ request.scenarios ↔ ∃ i j node child, subject = .scenarioAt i j ∧
      request.root.children[i]? = some node ∧ request.skip.contains node.id = false ∧
      node.children[j]? = some child ∧ child.isScenario = true ∧
      request.skip.contains child.id = false := by
  simp only [scenarios, List.mem_flatMap, List.mem_map]
  constructor
  · rintro ⟨⟨node, i⟩, hc, ⟨j, child, source⟩, hcandidate, rfl⟩
    obtain ⟨hchild, hskip⟩ := mem_placed.mp hc
    obtain ⟨hat, hskipped⟩ := ClassPlan.runnable_iff.mp hcandidate
    simp only [ClassPlan.candidateAt?, Option.bind_eq_bind, Option.bind_eq_some_iff,
      Option.some.injEq, Candidate.mk.injEq, true_and] at hat
    obtain ⟨_, hplace, _, hsource, rfl, rfl⟩ := hat
    exact ⟨i, j, node, _, rfl, hchild, hskip, hplace, Option.isSome_of_eq_some hsource, hskipped⟩
  · rintro ⟨i, j, node, child, rfl, hchild, hskip, hat, hscenario, hskipped⟩
    obtain ⟨source, hsource⟩ := Option.isSome_iff_exists.mp hscenario
    refine ⟨(node, i), mem_placed.mpr ⟨hchild, hskip⟩, ⟨j, child, source⟩, ?_, rfl⟩
    exact ClassPlan.runnable_iff.mpr ⟨by simp [ClassPlan.candidateAt?, hat, hsource], hskipped⟩

lemma nodup_scenarios (request : RunRequest) : request.scenarios.Nodup := by
  refine List.nodup_flatMap.mpr ⟨fun c _ => ?_, ?_⟩
  · rw [List.Nodup, List.pairwise_map]
    refine ((ClassPlan.pairwise_ofChildren 0 c.1.children).filter _).imp fun hlt heq => ?_
    exact Nat.ne_of_lt hlt (Subject.scenarioAt.inj heq).2
  · refine (request.pairwise_placed false).imp fun hlt subject hmem hmem' => ?_
    obtain ⟨_, -, rfl⟩ := List.mem_map.mp hmem
    obtain ⟨_, -, heq⟩ := List.mem_map.mp hmem'
    exact Nat.ne_of_lt hlt (Subject.scenarioAt.inj heq).1.symm

namespace Told

variable {request : RunRequest} {events : List Event}

/-- A scenario that is not skipped is finished once. -/
lemma countP_finishes (h : request.Told events) {subject : Subject}
    (hmem : subject ∈ request.scenarios) :
    events.countP (fun e => e.subject == subject && e.finishesScenario) = 1 := by
  obtain ⟨i, j, node, child, rfl, hchild, hskip, hat, hscenario, hskipped⟩ := mem_scenarios.mp hmem
  obtain ⟨between, result, hown, hbetween⟩ :=
    h.runningScenario hchild hskip hat hscenario hskipped
  have hwithin : events.countP (fun e => e.subject == .scenarioAt i j && e.finishesScenario) =
      (events.filter fun e => e.subject.isWithinScenario i j).countP
        (fun e => e.subject == .scenarioAt i j && e.finishesScenario) := by
    rw [List.countP_filter]
    refine List.countP_congr fun e _ => ?_
    constructor
    · intro hboth
      have hsubject := beq_iff_eq.mp (Bool.and_eq_true_iff.mp hboth).1
      rw [hboth, hsubject]
      simp [Subject.isWithinScenario]
    · exact fun hboth => (Bool.and_eq_true_iff.mp hboth).1
  have hnone :
      between.countP (fun e => e.subject == .scenarioAt i j && e.finishesScenario) = 0 := by
    refine List.countP_eq_zero.mpr fun e he => ?_
    obtain ⟨slot, hslot⟩ | ⟨report, rfl⟩ := hbetween e he
    · simp [hslot]
    · simp [Event.finishesScenario]
  rw [hwithin, hown, List.countP_append, List.countP_cons, hnone]
  simp [Event.finishesScenario]

/-- No other scenario is finished. -/
lemma mem_scenarios_of_finishes (h : request.Told events) {e : Event} (he : e ∈ events)
    (hat : e.IsAt request.root) (hfinishes : e.finishesScenario = true) :
    e.subject ∈ request.scenarios := by
  obtain ⟨i, j, result, hsubject, hchange⟩ := Event.exists_of_finishesScenario hfinishes
  rw [Event.IsAt, hsubject] at hat
  obtain ⟨node, hchild, hplace⟩ := Option.bind_eq_some_iff.mp hat
  have hclass : e ∈ events.filter fun e => e.subject.isWithinClass i :=
    List.mem_filter.mpr ⟨he, by rw [hsubject]; exact beq_self_eq_true i⟩
  have hscenario : e ∈ events.filter fun e => e.subject.isWithinScenario i j :=
    List.mem_filter.mpr ⟨he, by rw [hsubject]; simp [Subject.isWithinScenario]⟩
  rw [mem_scenarios]
  cases hskip : request.skip.contains node.id with
  | true =>
      rw [h.skippedClass hchild hskip, List.mem_singleton] at hclass
      rw [hclass] at hsubject
      exact Subject.noConfusion hsubject
  | false =>
      cases hkind : e.node.isScenario with
      | false =>
          rw [h.otherChild hchild hskip hplace hkind] at hscenario
          exact absurd hscenario List.not_mem_nil
      | true =>
          cases hskipped : request.skip.contains e.node.id with
          | true =>
              rw [h.skippedScenario hchild hskip hplace hkind hskipped, List.mem_singleton]
                at hscenario
              rw [hscenario] at hchange
              exact Change.noConfusion hchange
          | false => exact ⟨i, j, node, e.node, hsubject, hchild, hskip, hplace, hkind, hskipped⟩

end Told

end RunRequest

/-- **Each scenario that is not skipped is finished once**, so that the events of a run count
them. -/
theorem Run.Completes.countP_finishesScenario {σ : Type} {b : Backend σ} {options : RunOptions}
    {request : RunRequest} {s : σ} {r : Run σ} (h : Completes b options request s r) :
    r.outside.events.countP Event.finishesScenario = request.scenarios.length := by
  obtain ⟨choices, hreaches, hquiet⟩ := h.reaches
  obtain ⟨findings, hproceeds, hstuck⟩ := hreaches.exists_proceeds hquiet
  have htold := (follows_of_proceeds hproceeds).told_of_stuck (hstuck h.stuck) h.limit
  have hmem : ∀ {subject}, subject ∈ (r.outside.events.filter Event.finishesScenario).map
      Event.subject → subject ∈ request.scenarios := by
    intro subject hsubject
    obtain ⟨e, he, rfl⟩ := List.mem_map.mp hsubject
    obtain ⟨he, hfinishes⟩ := List.mem_filter.mp he
    exact htold.mem_scenarios_of_finishes he (h.isAt he) hfinishes
  have hcount : ∀ {subject}, subject ∈ request.scenarios →
      ((r.outside.events.filter Event.finishesScenario).map Event.subject).count subject = 1 := by
    intro subject hsubject
    rw [List.count, List.countP_map, List.countP_filter]
    exact htold.countP_finishes hsubject
  have hnodup : ((r.outside.events.filter Event.finishesScenario).map Event.subject).Nodup := by
    refine List.nodup_iff_count_le_one.mpr fun subject => ?_
    by_cases hsubject : subject ∈ (r.outside.events.filter Event.finishesScenario).map Event.subject
    · exact Nat.le_of_eq (hcount (hmem hsubject))
    · rw [List.count_eq_zero_of_not_mem hsubject]
      exact Nat.zero_le 1
  -- two lists without repeats that have the same members are equally long
  have hperm := (List.perm_ext_iff_of_nodup hnodup request.nodup_scenarios).mpr fun subject =>
    ⟨hmem, fun hsubject => List.count_pos_iff.mp (by rw [hcount hsubject]; exact Nat.one_pos)⟩
  rw [← hperm.length_eq, List.length_map, List.countP_eq_length_filter]

/-! ## Trees in layers -/

/-- The subject is that of a scenario. -/
def Subject.isScenario : Subject → Bool
  | scenarioAt _ _ => true
  | _ => false

namespace Node

lemma mem_descendants_of_at? {path : List Nat} {n m : Node} (h : n.at? path = some m) :
    m ∈ n.descendants := by
  induction path generalizing n with
  | nil =>
      obtain rfl := Option.some.inj h
      rw [descendants_eq]
      exact List.mem_cons_self
  | cons i path ih =>
      obtain ⟨child, hchild, hrest⟩ := Option.bind_eq_some_iff.mp h
      rw [descendants_eq]
      exact List.mem_cons_of_mem _
        (List.mem_flatMap.mpr ⟨child, List.mem_of_getElem? hchild, ih hrest⟩)

/-- The step at a slot lies below its scenario. -/
lemma mem_of_node? {scenario m : Node} {slot : Nat}
    (h : (Tracker.ofScenario scenario).node? slot = some m) :
    m ∈ scenario.children.flatMap descendants := by
  obtain ⟨s, hs, hat⟩ := Option.bind_eq_some_iff.mp h
  obtain ⟨node, hstep, -⟩ := Slot.exists_node_of_getElem? hs
  have hpath := ((step?_eq_some_iff _ _ _).mp hstep).1
  cases hcases : s.path with
  | nil => exact absurd hcases hpath
  | cons i path =>
      rw [hcases] at hat
      obtain ⟨child, hchild, hrest⟩ := Option.bind_eq_some_iff.mp hat
      exact List.mem_flatMap.mpr ⟨child, List.mem_of_getElem? hchild, mem_descendants_of_at? hrest⟩

/-- Every scenario among some nodes is a candidate. -/
lemma length_ofChildren {place : Nat} {nodes : List Node}
    (h : ∀ m ∈ nodes, m.isScenario = true) :
    (Candidate.ofChildren place nodes).length = nodes.length := by
  induction nodes generalizing place with
  | nil => rfl
  | cons node nodes ih =>
      obtain ⟨hnode, hnodes⟩ := List.forall_mem_cons.mp h
      obtain ⟨source, hsource⟩ := Option.isSome_iff_exists.mp hnode
      rw [Candidate.ofChildren, hsource]
      exact congrArg (· + 1) (ih hnodes)

namespace Layered

variable {root : Node}

/-- The nodes at subjects of scenarios are the scenarios of the tree. -/
lemma isScenario_eq (h : root.Layered) {e : Event} (hat : e.IsAt root) :
    e.node.isScenario = e.subject.isScenario := by
  obtain ⟨subject, node, change⟩ := e
  cases subject with
  | engine =>
      obtain rfl := Option.some.inj hat
      exact h.engine
  | classAt i => exact h.classes _ (List.mem_of_getElem? hat)
  | scenarioAt i j =>
      obtain ⟨c, hc, hat⟩ := Option.bind_eq_some_iff.mp hat
      exact h.scenarios c (List.mem_of_getElem? hc) _ (List.mem_of_getElem? hat)
  | stepAt i j slot =>
      obtain ⟨m, hm, hat⟩ := Option.bind_eq_some_iff.mp hat
      obtain ⟨c, hc, hm⟩ := Option.bind_eq_some_iff.mp hm
      exact h.steps c (List.mem_of_getElem? hc) m (List.mem_of_getElem? hm) _ (mem_of_node? hat)

/-- A run that skips nothing has all scenarios of the tree. -/
theorem length_scenarios (h : root.Layered) :
    (RunRequest.scenarios ⟨root, []⟩).length = root.scenarioCount := by
  have hplaced : RunRequest.placed ⟨root, []⟩ false = root.children.zipIdx :=
    List.filter_eq_self.mpr fun _ _ => rfl
  have hclass : ∀ c ∈ root.children,
      (ClassPlan.runnable (List.contains []) c).length = c.children.length := by
    intro c hc
    rw [← length_ofChildren (h.scenarios c hc)]
    exact congrArg List.length (List.filter_eq_self.mpr fun _ _ => rfl)
  calc (RunRequest.scenarios ⟨root, []⟩).length
      = (root.children.zipIdx.map fun c =>
          (ClassPlan.runnable (List.contains []) c.1).length).sum := by
        simp only [RunRequest.scenarios, hplaced, List.length_flatMap, List.length_map]
    _ = (root.children.map fun c => (ClassPlan.runnable (List.contains []) c).length).sum := by
        conv_rhs => rw [← List.zipIdx_map_fst 0 root.children, List.map_map]
        rfl
    _ = root.scenarioCount := by
        rw [List.map_congr_left hclass, h.scenarioCount_eq]

end Layered

end Node

/-! ## The tally of a run -/

namespace Tally

/-- A tally counts scenarios by their nodes, and so by their subjects. -/
lemma add_eq (t : Tally) {e : Event} (h : e.node.isScenario = e.subject.isScenario) :
    t.add e = ⟨t.failed + e.failsScenario.toNat, t.total + e.finishesScenario.toNat⟩ := by
  obtain ⟨subject, node, change⟩ := e
  cases change with
  | finished result =>
      cases hsource : node.source with
      | scenario source =>
          have hscenario : subject.isScenario = true := by
            rw [← h, Node.isScenario, Node.scenario?, hsource]
            rfl
          cases subject with
          | scenarioAt i j =>
              cases hverdict : result.verdict <;>
                simp [add, hsource, hverdict, Event.failsScenario, Event.finishesScenario]
          | _ => exact absurd hscenario Bool.false_ne_true
      | _ =>
          have hscenario : subject.isScenario = false := by
            rw [← h, Node.isScenario, Node.scenario?, hsource]
            rfl
          cases subject with
          | scenarioAt i j => exact absurd hscenario.symm Bool.false_ne_true
          | _ => simp [add, hsource, Event.failsScenario, Event.finishesScenario]
  | _ => cases subject <;> simp [add, Event.failsScenario, Event.finishesScenario]

lemma foldl_add_eq {events : List Event} (t : Tally)
    (h : ∀ e ∈ events, e.node.isScenario = e.subject.isScenario) :
    events.foldl add t =
      ⟨t.failed + events.countP Event.failsScenario,
        t.total + events.countP Event.finishesScenario⟩ := by
  induction events generalizing t with
  | nil => rfl
  | cons e events ih =>
      obtain ⟨he, hevents⟩ := List.forall_mem_cons.mp h
      rw [List.foldl_cons, add_eq t he, ih _ hevents, List.countP_cons, List.countP_cons]
      cases e.failsScenario <;> cases e.finishesScenario <;> simp <;> omega

end Tally

/-- **The tally of a run** that skips nothing has all scenarios of the tree. -/
theorem Run.Completes.tally_eq {σ : Type} {b : Backend σ} {options : RunOptions} {root : Node}
    {s : σ} {r : Run σ} (h : Completes b options ⟨root, []⟩ s r) (hlayered : root.Layered) :
    Tally.ofEvents r.outside.events =
      ⟨r.outside.events.countP Event.failsScenario, root.scenarioCount⟩ := by
  rw [Tally.ofEvents, Tally.foldl_add_eq _ fun e he => hlayered.isScenario_eq (h.isAt he),
    h.countP_finishesScenario, hlayered.length_scenarios, Nat.zero_add, Nat.zero_add]

end ScenarioRunner

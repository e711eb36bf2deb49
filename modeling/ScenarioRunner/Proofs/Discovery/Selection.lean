import Mathlib.Data.List.Nodup
import Mathlib.Tactic.Common
import ScenarioRunner.Discovery.Tree
import ScenarioRunner.Proofs.Discovery.Picks

/-!
# What a discovery finds

The tree of a request, told from the request and the catalog alone.

* `Selector.Picks` and `Selector.PicksAll` say when a selector picks something of a class, or all of
  it; `DiscoveryRequest.Takes` says which producers of a class a request takes.
* `Producer.named` names the scenarios of a producer, and `TagFilter.Keeps` says which stay.
* `DiscoveryRequest.scenarios` lists the nodes of a class, and `DiscoveryRequest.found` the classes.
* `Discovery.root_discover`: the tree of a request holds these classes with these scenarios.
* `Discovery.exists_classes_discover` adds which classes they are and how they are ordered.

Nothing here follows the selectors one after the other: a class is found if any of them picks it, and
only the first one that does has a say in its place.
-/

namespace ScenarioRunner

namespace Selector

/-- The selector picks a class, or a producer that the class has. -/
def Picks (s : Selector) (c : ClassSource) : Prop :=
  match s with
  | package name => c.inPackage name = true
  | «class» name => c.name = name
  | method className producer => c.name = className ∧ ∃ p ∈ c.producers, p.name = producer

instance : (s : Selector) → (c : ClassSource) → Decidable (s.Picks c)
  | package name, c => inferInstanceAs (Decidable (c.inPackage name = true))
  | «class» name, c => inferInstanceAs (Decidable (c.name = name))
  | method className producer, c =>
    inferInstanceAs (Decidable (c.name = className ∧ ∃ p ∈ c.producers, p.name = producer))

/-- The selector picks a class as a whole. -/
def PicksAll (s : Selector) (c : ClassSource) : Prop :=
  match s with
  | method _ _ => False
  | s => s.Picks c

instance : (s : Selector) → (c : ClassSource) → Decidable (s.PicksAll c)
  | package name, c => inferInstanceAs (Decidable ((package name).Picks c))
  | «class» name, c => inferInstanceAs (Decidable ((Selector.class name).Picks c))
  | method _ _, _ => instDecidableFalse

lemma PicksAll.picks {s : Selector} {c : ClassSource} (h : s.PicksAll c) : s.Picks c := by
  cases s with
  | package name => exact h
  | «class» name => exact h
  | method className producer => exact h.elim

lemma reaches_eq_true {s : Selector} {c : ClassSource} (h : c.loadError = none) :
    s.reaches c = true ↔ s.Picks c := by
  cases s with
  | package name => exact Iff.rfl
  | «class» name => exact beq_iff_eq
  | method className producer =>
      simp [reaches, Picks, h, ClassSource.producer?, and_comm]

/-- A selector offers a producer of a class with its whole class, or by name. -/
lemma reaches_and_offers {s : Selector} {c : ClassSource} {p : Producer} (h : c.loadError = none)
    (hp : p ∈ c.producers) :
    s.reaches c = true ∧ Selection.offers s.producer? p.name ↔
      s.PicksAll c ∨ s = method c.name p.name := by
  rw [reaches_eq_true h]
  cases s with
  | package name => simp [Picks, PicksAll, Selection.offers, producer?]
  | «class» name => simp [Picks, PicksAll, Selection.offers, producer?]
  | method className producer =>
      simp only [Picks, PicksAll, Selection.offers, producer?, reduceCtorEq, Option.some.injEq,
        false_or, method.injEq]
      constructor
      · rintro ⟨⟨rfl, -⟩, rfl⟩
        exact ⟨rfl, rfl⟩
      · rintro ⟨rfl, rfl⟩
        exact ⟨⟨rfl, p, hp, rfl⟩, rfl⟩

end Selector

/-- The filter keeps a scenario. -/
def TagFilter.Keeps (f : TagFilter) (s : Scenario) : Prop :=
  (f.included = [] ∨ ∃ tag ∈ f.included, tag ∈ s.tags) ∧ ∀ tag ∈ f.excluded, tag ∉ s.tags

instance (f : TagFilter) (s : Scenario) : Decidable (f.Keeps s) :=
  inferInstanceAs (Decidable (_ ∧ _))

lemma TagFilter.accepts_eq (f : TagFilter) (s : Scenario) : f.accepts s = decide (f.Keeps s) := by
  rw [Bool.eq_iff_iff, decide_eq_true_iff]
  simp [accepts, Keeps, Scenario.hasTag]

/-- The scenarios of a producer with their names: a single one bears the name of the producer, and
those of a list are numbered from one on. -/
def Producer.named (p : Producer) : List (String × Scenario) :=
  match p.output with
  | .single s => [(p.name, s)]
  | .many ss => ss.mapIdx fun i s => (p.name ++ "#" ++ toString (i + 1), s)
  | .unsupported _ => []

lemma Discovery.numbered_eq (producer : String) (k : Nat) (ss : List Scenario) :
    numbered producer k ss = ss.mapIdx fun i s => (producer ++ "#" ++ toString (i + k), s) := by
  induction ss generalizing k with
  | nil => rfl
  | cons s ss ih =>
      simp only [numbered, ih, List.mapIdx_cons, Nat.zero_add, Nat.add_right_comm, Nat.add_assoc]

lemma Discovery.instances_eq (p : Producer) : instances p = p.named := by
  rw [instances, Producer.named]
  cases p.output with
  | single => rfl
  | many ss => exact numbered_eq p.name 1 ss
  | unsupported => rfl

namespace DiscoveryRequest

/-- The request takes a producer of a class. -/
def Takes (request : DiscoveryRequest) (c : ClassSource) (p : Producer) : Prop :=
  (∃ s ∈ request.selectors, s.PicksAll c) ∨ .method c.name p.name ∈ request.selectors

instance (request : DiscoveryRequest) (c : ClassSource) (p : Producer) :
    Decidable (request.Takes c p) :=
  inferInstanceAs (Decidable (_ ∨ _))

/-- The scenarios that the request finds in a class. -/
def scenarios (request : DiscoveryRequest) (stepAsTest : Bool) (c : ClassSource) : List Node :=
  (c.producers.filter (request.Takes c)).flatMap fun p =>
    (p.named.filter fun (_, s) => request.tags.Keeps s).map fun (segment, s) =>
      Node.ofScenario ((NodeId.engine NodeId.engineName).append "class" c.name) segment
        ⟨s, c.name, p.name, p.environment⟩ stepAsTest

/-- The place of the first selector that picks something of a class. -/
def firstPick (request : DiscoveryRequest) (c : ClassSource) : Nat :=
  request.selectors.findIdx fun s => s.Picks c

/-- A class comes before another one: a selector picks it earlier or, if the same selector is the
first for both, the catalog lists it earlier. -/
def Before (request : DiscoveryRequest) (catalog : Catalog) (c d : ClassSource) : Prop :=
  request.firstPick c < request.firstPick d ∨
    (request.firstPick c = request.firstPick d ∧ [c, d].Sublist catalog.classes)

/-- The classes that the request finds in a catalog. -/
def found (request : DiscoveryRequest) (stepAsTest : Bool) (catalog : Catalog) : List ClassSource :=
  (Plan.classes catalog request.selectors).filter fun c =>
    c.loadError = none ∧ request.scenarios stepAsTest c ≠ []

variable {request : DiscoveryRequest} {stepAsTest : Bool} {catalog : Catalog} {c d : ClassSource}

lemma mem_found : c ∈ request.found stepAsTest catalog ↔
    c ∈ catalog.classes ∧ c.loadError = none ∧ (∃ s ∈ request.selectors, s.Picks c) ∧
      request.scenarios stepAsTest c ≠ [] := by
  rw [found, List.mem_filter, Plan.mem_classes, decide_eq_true_eq]
  constructor
  · rintro ⟨⟨hc, s, hs, hreaches⟩, hload, hscenarios⟩
    exact ⟨hc, hload, ⟨s, hs, (Selector.reaches_eq_true hload).mp hreaches⟩, hscenarios⟩
  · rintro ⟨hc, hload, ⟨s, hs, hpicks⟩, hscenarios⟩
    exact ⟨⟨hc, s, hs, (Selector.reaches_eq_true hload).mpr hpicks⟩, hload, hscenarios⟩

lemma nodup_names_found (request : DiscoveryRequest) (stepAsTest : Bool) (catalog : Catalog) :
    ((request.found stepAsTest catalog).map ClassSource.name).Nodup :=
  (Plan.nodup_names_classes catalog request.selectors).sublist (List.filter_sublist.map _)

lemma firstPick_eq (h : c.loadError = none) :
    request.firstPick c = Plan.firstReach request.selectors c := by
  have heq : (fun s : Selector => decide (s.Picks c)) = fun s => s.reaches c := by
    funext s
    rw [Bool.eq_iff_iff, decide_eq_true_iff, Selector.reaches_eq_true h]
  rw [firstPick, Plan.firstReach, heq]

lemma pairwise_found (request : DiscoveryRequest) (stepAsTest : Bool) (catalog : Catalog) :
    (request.found stepAsTest catalog).Pairwise (request.Before catalog) := by
  refine ((Plan.pairwise_classes catalog request.selectors).filter _).imp_of_mem
    fun {c d} hc hd hbefore => ?_
  rwa [Before, firstPick_eq (mem_found.mp hc).2.1, firstPick_eq (mem_found.mp hd).2.1]

end DiscoveryRequest

namespace Discovery

variable {request : DiscoveryRequest} {stepAsTest : Bool} {catalog : Catalog} {c : ClassSource}

lemma Found.nodes_concat (fs : List Found) : (concat fs).nodes = fs.flatMap Found.nodes := by
  induction fs with
  | nil => rfl
  | cons f fs ih => rw [concat, append, List.flatMap_cons, ih]

/-- The plan of a request holds the producers that the request takes. -/
lemma includes_eq {planned : PlannedClass} {p : Producer}
    (hplanned : planned ∈ Plan.ofSelectors catalog request.selectors)
    (hc : catalog.class? planned.name = some c) (hload : c.loadError = none)
    (hp : p ∈ c.producers) :
    planned.selection.includes p.name = decide (request.Takes c p) := by
  obtain ⟨hmem, hname⟩ := Catalog.class?_eq_some_iff.mp hc
  have hnodup : ((Plan.ofSelectors catalog request.selectors).map PlannedClass.name).Nodup := by
    rw [Plan.names_ofSelectors]
    exact Plan.nodup_names_classes ..
  have htakes : planned.selection.includes p.name = true ↔
      Plan.Takes (Plan.ofSelectors catalog request.selectors) c.name p.name := by
    constructor
    · exact fun h => ⟨planned, hplanned, hname.symm, h⟩
    · rintro ⟨other, hother, hsame, h⟩
      rwa [← List.inj_on_of_nodup_map hnodup hother hplanned (hsame.trans hname)]
  have hclass : ∀ s ∈ request.selectors, (∃ d ∈ catalog.classes, s.reaches d = true ∧
      d.name = c.name ∧ Selection.offers s.producer? p.name) ↔
        s.PicksAll c ∨ s = .method c.name p.name := by
    intro s _
    rw [← Selector.reaches_and_offers hload hp]
    constructor
    · rintro ⟨d, hd, hreaches, hsame, hoffers⟩
      obtain rfl := Catalog.eq_of_name hd hmem hsame
      exact ⟨hreaches, hoffers⟩
    · exact fun ⟨hreaches, hoffers⟩ => ⟨c, hmem, hreaches, rfl, hoffers⟩
  rw [Bool.eq_iff_iff, decide_eq_true_iff, htakes, Plan.takes_ofSelectors,
    DiscoveryRequest.Takes]
  simp only [exists_congr fun s => and_congr_right (hclass s), and_or_left, exists_or,
    exists_eq_right]

lemma nodes_ofProducer (selector : String) (c : ClassSource) (p : Producer) :
    (ofProducer request.tags stepAsTest selector c p).nodes =
      (p.named.filter fun (_, s) => request.tags.Keeps s).map fun (segment, s) =>
        Node.ofScenario ((NodeId.engine NodeId.engineName).append "class" c.name) segment
          ⟨s, c.name, p.name, p.environment⟩ stepAsTest := by
  simp only [ofProducer, instances_eq, TagFilter.accepts_eq]
  rfl

/-- The class of a plan with what the request finds in it. -/
lemma nodes_ofClass {planned : PlannedClass}
    (hplanned : planned ∈ Plan.ofSelectors catalog request.selectors)
    (hc : catalog.class? planned.name = some c) :
    (ofClass request.tags stepAsTest planned c).nodes =
      if c.loadError = none ∧ request.scenarios stepAsTest c ≠ [] then
        [Node.ofClass (.engine NodeId.engineName) c.name (request.scenarios stepAsTest c)]
      else [] := by
  rw [ofClass]
  cases hload : c.loadError with
  | some reason => simp
  | none =>
      have hscenarios : (Found.concat ((c.producers.filter fun p =>
          planned.selection.includes p.name).map
            (ofProducer request.tags stepAsTest planned.selector c))).nodes =
              request.scenarios stepAsTest c := by
        rw [Found.nodes_concat, List.flatMap_map, DiscoveryRequest.scenarios,
          List.filter_congr fun p hp => includes_eq hplanned hc hload hp]
        simp only [nodes_ofProducer]
      simp only [hscenarios, List.isEmpty_iff, true_and, ite_not]
      split <;> rfl

/-- **The tree of a request** holds the classes that the request finds, with their scenarios. -/
theorem root_discover (catalog : Catalog) (stepAsTest : Bool) (request : DiscoveryRequest) :
    (discover catalog stepAsTest request).root =
      Node.engine ((request.found stepAsTest catalog).map fun c =>
        Node.ofClass (.engine NodeId.engineName) c.name (request.scenarios stepAsTest c)) := by
  let node? (c : ClassSource) : Option Node :=
    if c.loadError = none ∧ request.scenarios stepAsTest c ≠ [] then
      some (Node.ofClass (.engine NodeId.engineName) c.name (request.scenarios stepAsTest c))
    else none
  have hplanned : ∀ planned ∈ Plan.ofSelectors catalog request.selectors, ∀ c ∈ catalog.classes,
      c.name = planned.name →
        (ofPlanned catalog request.tags stepAsTest planned).nodes = (node? c).toList := by
    intro planned hplanned c hc hname
    have hclass := Catalog.class?_eq_some_iff.mpr ⟨hc, hname⟩
    rw [ofPlanned, hclass]
    show (ofClass request.tags stepAsTest planned c).nodes = (node? c).toList
    rw [nodes_ofClass hplanned hclass]
    simp only [node?]
    split <;> rfl
  calc (discover catalog stepAsTest request).root
      = Node.engine ((Plan.classes catalog request.selectors).filterMap node?) := by
        rw [discover, Found.nodes_concat, List.flatMap_map, Plan.flatMap_ofSelectors hplanned,
          List.filterMap_eq_flatMap_toList]
    _ = _ := by
        rw [DiscoveryRequest.found, ← List.filterMap_eq_map, List.filterMap_filter]
        simp only [decide_eq_true_eq]
        rfl

/-- **What a discovery finds**: the tree of a request holds the classes without a load error that some
selector picks and that keep a scenario, each once, in the order of the selectors that pick them
first; below a class are the scenarios that the tag filter keeps of the producers that are taken. -/
theorem exists_classes_discover (catalog : Catalog) (stepAsTest : Bool)
    (request : DiscoveryRequest) :
    ∃ classes : List ClassSource,
      (discover catalog stepAsTest request).root =
        Node.engine (classes.map fun c =>
          Node.ofClass (.engine NodeId.engineName) c.name (request.scenarios stepAsTest c)) ∧
      (∀ c, c ∈ classes ↔ c ∈ catalog.classes ∧ c.loadError = none ∧
        (∃ s ∈ request.selectors, s.Picks c) ∧ request.scenarios stepAsTest c ≠ []) ∧
      (classes.map ClassSource.name).Nodup ∧
      classes.Pairwise (request.Before catalog) :=
  ⟨request.found stepAsTest catalog, root_discover catalog stepAsTest request,
    fun _ => DiscoveryRequest.mem_found, DiscoveryRequest.nodup_names_found request stepAsTest catalog,
    DiscoveryRequest.pairwise_found request stepAsTest catalog⟩

end Discovery

end ScenarioRunner

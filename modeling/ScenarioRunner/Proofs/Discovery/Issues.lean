import ScenarioRunner.Proofs.Discovery.Selection

/-!
# The issues of a discovery

Which issues a discovery has, and that no node depends on what they are about.

* `Selector.Fails` says that a selector names nothing, and with which issue.
* `DiscoveryRequest.problems` lists the issues of a class: one if it could not be read, and else one
  for each producer that is taken and yields no scenarios.
* `Discovery.issues_discover`: the issues are those of the selectors and then those of the classes,
  where a class bears the text of the first selector that reaches it.
* `Catalog.mended` is a catalog without anything that could be an issue of a class, and
  `DiscoveryRequest.sound` a request without the selectors that name nothing.
* `Discovery.root_discover_mended`: these have the same tree.
* `Discovery.issues_and_root_discover` puts both together, with which classes are reached and in which
  order.

A class that could not be read and one without producers have no node alike, and so do a producer
that yields no scenarios and one that yields an empty list.
-/

namespace ScenarioRunner

/-! ## Selectors that name nothing -/

/-- **A selector names nothing**: a class that is not there, or a producer that its class, which could
be read, does not have.  The issue bears the text of the selector. -/
inductive Selector.Fails (catalog : Catalog) : Selector → DiscoveryIssue → Prop
  | noClass {name : String} (h : ∀ c ∈ catalog.classes, c.name ≠ name) :
      Fails catalog (.class name) ⟨(Selector.class name).text, name, "class not found"⟩
  | noClassOf {name producer : String} (h : ∀ c ∈ catalog.classes, c.name ≠ name) :
      Fails catalog (.method name producer)
        ⟨(method name producer).text, name, "class not found"⟩
  | noProducer {c : ClassSource} {producer : String} (hc : c ∈ catalog.classes)
      (hload : c.loadError = none) (h : ∀ p ∈ c.producers, p.name ≠ producer) :
      Fails catalog (.method c.name producer)
        ⟨(method c.name producer).text, c.name ++ "#" ++ producer,
          "no scenario producer with this name"⟩

/-- The selector names nothing. -/
def Selector.Dangles (catalog : Catalog) (s : Selector) : Prop :=
  ∃ issue, s.Fails catalog issue

namespace Plan

variable {catalog : Catalog} {selectors : List Selector} {s : Selector} {c : ClassSource}
  {issue : DiscoveryIssue}

lemma class?_eq_none_iff {name : String} :
    catalog.class? name = none ↔ ∀ c ∈ catalog.classes, c.name ≠ name := by
  simp [Catalog.class?, List.find?_eq_none]

lemma producer?_isSome_iff {name : String} :
    (c.producer? name).isSome = true ↔ ∃ p ∈ c.producers, p.name = name := by
  simp [ClassSource.producer?, List.find?_isSome]

/-- **The issue of a selector** says what the selector fails to name. -/
theorem issue?_eq_some_iff : issue? catalog s = some issue ↔ s.Fails catalog issue := by
  constructor
  · intro h
    cases s with
    | package name => cases h
    | «class» name =>
        rw [issue?, Selector.picks] at h
        cases hclass : catalog.class? name with
        | some c => simp [hclass] at h
        | none =>
            simp only [hclass, Option.some.injEq] at h
            exact h ▸ .noClass (class?_eq_none_iff.mp hclass)
    | method className producer =>
        rw [issue?, Selector.picks] at h
        cases hclass : catalog.class? className with
        | none =>
            simp only [hclass, Option.some.injEq] at h
            exact h ▸ .noClassOf (class?_eq_none_iff.mp hclass)
        | some c =>
            obtain ⟨hc, rfl⟩ := Catalog.class?_eq_some_iff.mp hclass
            cases hpicked : c.loadError.isSome || (c.producer? producer).isSome with
            | true => simp [hclass, hpicked] at h
            | false =>
                simp only [hclass, hpicked, Bool.false_eq_true, if_false, Option.some.injEq] at h
                obtain ⟨hload, hnone⟩ := Bool.or_eq_false_iff.mp hpicked
                refine h ▸ .noProducer hc (Option.not_isSome_iff_eq_none.mp (by simp [hload])) ?_
                intro p hp hname
                rw [producer?_isSome_iff.mpr ⟨p, hp, hname⟩] at hnone
                cases hnone
  · intro h
    cases h with
    | noClass h => simp [issue?, Selector.picks, class?_eq_none_iff.mpr h]
    | noClassOf h => simp [issue?, Selector.picks, class?_eq_none_iff.mpr h]
    | @noProducer c producer hc hload h =>
        have hnone : (c.producer? producer).isSome = false := by
          rw [Bool.eq_false_iff, Ne, producer?_isSome_iff]
          rintro ⟨p, hp, hname⟩
          exact h p hp hname
        simp [issue?, Selector.picks, Catalog.class?_eq_some_iff.mpr ⟨hc, rfl⟩, hload, hnone]

end Plan

instance (catalog : Catalog) (s : Selector) : Decidable (s.Dangles catalog) :=
  decidable_of_iff ((Plan.issue? catalog s).isSome = true) <| by
    rw [Option.isSome_iff_exists]
    exact exists_congr fun _ => Plan.issue?_eq_some_iff

namespace Selector

variable {catalog : Catalog} {selectors : List Selector} {s : Selector} {c : ClassSource}

/-- A selector that names nothing reaches no class. -/
lemma Dangles.reaches_eq_false (h : s.Dangles catalog) (hc : c ∈ catalog.classes) :
    s.reaches c = false := by
  obtain ⟨_, h⟩ := h
  cases h with
  | noClass h => exact beq_eq_false_iff_ne.mpr (h c hc)
  | noClassOf h => simp [reaches, h c hc]
  | @noProducer d producer hd hload h =>
      refine Bool.eq_false_iff.mpr fun hreaches => ?_
      have hname : c.name = d.name := by simpa [reaches] using (Bool.and_eq_true_iff.mp hreaches).2
      obtain rfl := Catalog.eq_of_name hc hd hname
      obtain ⟨-, p, hp, hproducer⟩ := (reaches_eq_true hload).mp hreaches
      exact h p hp hproducer

/-- **Each selector that names nothing** has one issue, in the order of the selectors. -/
lemma forall₂_issues (catalog : Catalog) (selectors : List Selector) :
    List.Forall₂ (Selector.Fails catalog) (selectors.filter fun s => s.Dangles catalog)
      (Plan.issues catalog selectors) := by
  induction selectors with
  | nil => exact .nil
  | cons s selectors ih =>
      rw [Plan.issues, List.filterMap_cons]
      cases hissue : Plan.issue? catalog s with
      | none =>
          have hsound : ¬ s.Dangles catalog := fun ⟨issue, h⟩ => by
            rw [Plan.issue?_eq_some_iff.mpr h] at hissue
            cases hissue
          rw [List.filter_cons_of_neg (by simpa using hsound)]
          exact ih
      | some issue =>
          have hfails := Plan.issue?_eq_some_iff.mp hissue
          rw [List.filter_cons_of_pos (by simpa using ⟨issue, hfails⟩)]
          exact .cons hfails ih

end Selector

/-! ## Classes that could not be read, and producers that yield no scenarios -/

namespace DiscoveryRequest

/-- The text of the first selector that reaches a class. -/
def caller (request : DiscoveryRequest) (c : ClassSource) : String :=
  ((request.selectors.find? fun s => s.reaches c).map Selector.text).getD ""

/-- **The issues of a class**: one if it could not be read, and else one for each producer that is
taken and yields no scenarios.  They bear the text of the first selector that reaches the class. -/
def problems (request : DiscoveryRequest) (c : ClassSource) : List DiscoveryIssue :=
  match c.loadError with
  | some reason => [⟨request.caller c, c.name, reason⟩]
  | none =>
    (c.producers.filter (request.Takes c)).filterMap fun p =>
      match p.output with
      | .unsupported description =>
        some ⟨request.caller c, c.name ++ "#" ++ p.name,
          "producer returned " ++ description ++ " instead of a scenario or a list of scenarios"⟩
      | _ => none

/-- A class that some selector reaches has a first one. -/
lemma caller_eq {request : DiscoveryRequest} {c : ClassSource}
    (h : ∃ s ∈ request.selectors, s.reaches c = true) :
    ∃ front s behind, request.selectors = front ++ s :: behind ∧ s.reaches c = true ∧
      (∀ t ∈ front, t.reaches c = false) ∧ request.caller c = s.text := by
  obtain ⟨s, hs⟩ := Option.isSome_iff_exists.mp (List.find?_isSome.mpr h)
  obtain ⟨hreaches, front, behind, heq, hfront⟩ := List.find?_eq_some_iff_append.mp hs
  refine ⟨front, s, behind, heq, hreaches, fun t ht => by simpa using hfront t ht, ?_⟩
  rw [caller, hs]
  rfl

end DiscoveryRequest

namespace Discovery

variable {request : DiscoveryRequest} {stepAsTest : Bool} {catalog : Catalog} {c : ClassSource}

lemma Found.issues_concat (fs : List Found) : (concat fs).issues = fs.flatMap Found.issues := by
  induction fs with
  | nil => rfl
  | cons f fs ih => rw [concat, append, List.flatMap_cons, ih]

/-- The class of a plan with the issues that the request has in it. -/
lemma issues_ofClass {planned : PlannedClass}
    (hplanned : planned ∈ Plan.ofSelectors catalog request.selectors) (hc : c ∈ catalog.classes)
    (hname : c.name = planned.name) :
    (ofClass request.tags stepAsTest planned c).issues = request.problems c := by
  obtain ⟨s, hs, htext⟩ := Plan.selector_ofSelectors hplanned hc hname
  have hcaller : request.caller c = planned.selector := by
    rw [DiscoveryRequest.caller, hs, htext]
    rfl
  rw [ofClass, DiscoveryRequest.problems, hcaller]
  cases hload : c.loadError with
  | some reason => rfl
  | none =>
      have htaken : (c.producers.filter fun p => planned.selection.includes p.name) =
          c.producers.filter (request.Takes c) :=
        List.filter_congr fun p hp =>
          includes_eq hplanned (Catalog.class?_eq_some_iff.mpr ⟨hc, hname⟩) hload hp
      simp only [apply_ite Found.issues, ite_self, Found.issues_concat, htaken, List.flatMap_map,
        List.filterMap_eq_flatMap_toList]
      refine List.flatMap_congr fun p _ => ?_
      rw [ofProducer, outputIssues]
      cases p.output <;> rfl

/-- **The issues of a discovery** are those of the selectors that name nothing and then those of the
classes, as they are planned. -/
theorem issues_discover (catalog : Catalog) (stepAsTest : Bool) (request : DiscoveryRequest) :
    (discover catalog stepAsTest request).issues =
      Plan.issues catalog request.selectors ++
        (Plan.classes catalog request.selectors).flatMap request.problems := by
  rw [discover, Found.issues_concat, List.flatMap_map]
  refine congrArg _ (Plan.flatMap_ofSelectors fun planned hplanned c hc hname => ?_)
  rw [ofPlanned, Catalog.class?_eq_some_iff.mpr ⟨hc, hname⟩]
  exact issues_ofClass hplanned hc hname

end Discovery

/-! ## What issues have no part in -/

/-- The producer, with an empty list in the place of what is no scenario. -/
def Producer.mended (p : Producer) : Producer :=
  match p.output with
  | .unsupported _ => { p with output := .many [] }
  | _ => p

/-- The class, without producers if it could not be read. -/
def ClassSource.mended (c : ClassSource) : ClassSource :=
  match c.loadError with
  | some _ => ⟨c.name, [], none⟩
  | none => { c with producers := c.producers.map Producer.mended }

lemma ClassSource.name_mended (c : ClassSource) : c.mended.name = c.name := by
  rw [mended]
  split <;> rfl

/-- **The catalog without issues**: classes that could not be read are empty, and so are producers that
yield no scenarios. -/
def Catalog.mended (catalog : Catalog) : Catalog where
  classes := catalog.classes.map ClassSource.mended
  distinct := by
    rw [List.map_map, List.map_congr_left fun c _ => c.name_mended]
    exact catalog.distinct

/-- The request without the selectors that name nothing. -/
def DiscoveryRequest.sound (request : DiscoveryRequest) (catalog : Catalog) : DiscoveryRequest :=
  { request with selectors := request.selectors.filter fun s => ¬ s.Dangles catalog }

section Mended

variable {request : DiscoveryRequest} {stepAsTest : Bool} {catalog : Catalog} {c : ClassSource}
  {s : Selector} {p : Producer}

lemma Producer.name_mended (p : Producer) : p.mended.name = p.name := by
  rw [mended]
  split <;> rfl

lemma Producer.named_mended (p : Producer) : p.mended.named = p.named := by
  unfold mended
  cases h : p.output <;> simp [named, h]

lemma Producer.environment_mended (p : Producer) : p.mended.environment = p.environment := by
  rw [mended]
  split <;> rfl

lemma ClassSource.loadError_mended (c : ClassSource) : c.mended.loadError = none := by
  rw [mended]
  split
  · rfl
  · assumption

lemma ClassSource.producers_mended (h : c.loadError = none) :
    c.mended.producers = c.producers.map Producer.mended := by
  rw [mended, h]

lemma ClassSource.producers_mended_of_ne (h : c.loadError ≠ none) : c.mended.producers = [] := by
  obtain ⟨reason, h⟩ := Option.ne_none_iff_exists'.mp h
  rw [mended, h]

/-- A class that could be read is picked as before. -/
lemma Selector.picks_mended (h : c.loadError = none) : s.Picks c.mended ↔ s.Picks c := by
  cases s with
  | package name => simp only [Picks, ClassSource.inPackage, c.name_mended]
  | «class» name => simp only [Picks, c.name_mended]
  | method className producer =>
      simp only [Picks, c.name_mended, ClassSource.producers_mended h, List.mem_map,
        exists_exists_and_eq_and, Producer.name_mended]

lemma Selector.picksAll_mended (h : c.loadError = none) :
    s.PicksAll c.mended ↔ s.PicksAll c := by
  cases s with
  | package name => exact picks_mended (s := package name) h
  | «class» name => exact picks_mended (s := .class name) h
  | method className producer => exact Iff.rfl

lemma Selector.reaches_mended (h : c.loadError = none) : s.reaches c.mended = s.reaches c := by
  rw [Bool.eq_iff_iff, reaches_eq_true h, reaches_eq_true c.loadError_mended, picks_mended h]

namespace DiscoveryRequest

lemma mem_sound : s ∈ (request.sound catalog).selectors ↔
    s ∈ request.selectors ∧ ¬ s.Dangles catalog := by
  simp [sound]

/-- A class that could be read gives the producers that it gave. -/
lemma takes_mended (hc : c ∈ catalog.classes) (h : c.loadError = none) (hp : p ∈ c.producers) :
    (request.sound catalog).Takes c.mended p.mended ↔ request.Takes c p := by
  have hall : ∀ {s : Selector}, s.PicksAll c → ¬ s.Dangles catalog := fun hs hdangles =>
    Bool.eq_false_iff.mp (hdangles.reaches_eq_false hc)
      ((Selector.reaches_eq_true h).mpr hs.picks)
  have hmethod : ¬ (Selector.method c.name p.name).Dangles catalog := fun hdangles =>
    Bool.eq_false_iff.mp (hdangles.reaches_eq_false hc)
      ((Selector.reaches_eq_true h).mpr ⟨rfl, p, hp, rfl⟩)
  simp only [Takes, Selector.picksAll_mended h, c.name_mended, p.name_mended, mem_sound, hmethod,
    not_false_eq_true, and_true]
  refine or_congr_left (exists_congr fun s => ?_)
  constructor
  · rintro ⟨⟨hs, -⟩, hpicks⟩
    exact ⟨hs, hpicks⟩
  · rintro ⟨hs, hpicks⟩
    exact ⟨⟨hs, hall hpicks⟩, hpicks⟩

/-- A class that could be read has the scenarios that it had. -/
lemma scenarios_mended (hc : c ∈ catalog.classes) (h : c.loadError = none) :
    (request.sound catalog).scenarios stepAsTest c.mended = request.scenarios stepAsTest c := by
  have htaken : c.producers.filter (fun p => (request.sound catalog).Takes c.mended p.mended) =
      c.producers.filter (request.Takes c) :=
    List.filter_congr fun p hp => by rw [decide_eq_decide, takes_mended hc h hp]
  rw [scenarios, ClassSource.producers_mended h, List.filter_map, List.flatMap_map,
    c.name_mended]
  simp only [Producer.named_mended, Producer.name_mended, Producer.environment_mended]
  exact congrArg (List.flatMap _) htaken

/-- A class that could not be read has none. -/
lemma scenarios_mended_of_ne (h : c.loadError ≠ none) :
    request.scenarios stepAsTest c.mended = [] := by
  rw [scenarios, ClassSource.producers_mended_of_ne h, List.filter_nil, List.flatMap_nil]

/-- **The classes that a request finds** are found without the issues too. -/
lemma found_mended (request : DiscoveryRequest) (stepAsTest : Bool) (catalog : Catalog) :
    (request.sound catalog).found stepAsTest catalog.mended =
      (request.found stepAsTest catalog).map ClassSource.mended := by
  have hsound : Plan.classes catalog (request.sound catalog).selectors =
      Plan.classes catalog request.selectors := by
    refine Plan.classes_filter fun s _ hs c hc => ?_
    exact Selector.Dangles.reaches_eq_false (by simpa using hs) hc
  have hfound : ∀ i, ∀ c ∈ catalog.classes,
      (decide (c.mended.loadError = none ∧
          (request.sound catalog).scenarios stepAsTest c.mended ≠ []) &&
        decide (Plan.firstReach (request.sound catalog).selectors c.mended = i)) =
      (decide (c.loadError = none ∧ request.scenarios stepAsTest c ≠ []) &&
        decide (Plan.firstReach (request.sound catalog).selectors c = i)) := by
    intro i c hc
    by_cases h : c.loadError = none
    · rw [scenarios_mended hc h, c.loadError_mended, Plan.firstReach, Plan.firstReach]
      simp only [Selector.reaches_mended h, h]
    · simp [scenarios_mended_of_ne h, h]
  rw [found, found, ← hsound, Plan.classes_eq, Plan.classes_eq, List.filter_flatMap,
    List.filter_flatMap, List.map_flatMap]
  refine List.flatMap_congr fun i _ => ?_
  show ((catalog.classes.map ClassSource.mended).filter _).filter _ = _
  rw [List.filter_filter, List.filter_map, List.filter_filter]
  exact congrArg _ (List.filter_congr (hfound i))

end DiscoveryRequest

namespace Discovery

/-- **No node depends on an issue**: the tree is the same without the selectors that name nothing, with
empty classes for those that could not be read, and with empty lists for what is no scenario. -/
theorem root_discover_mended (catalog : Catalog) (stepAsTest : Bool) (request : DiscoveryRequest) :
    (discover catalog.mended stepAsTest (request.sound catalog)).root =
      (discover catalog stepAsTest request).root := by
  rw [root_discover, root_discover, DiscoveryRequest.found_mended, List.map_map]
  refine congrArg Node.engine (List.map_congr_left fun c hc => ?_)
  obtain ⟨hc, hload, -⟩ := DiscoveryRequest.mem_found.mp hc
  rw [Function.comp_apply, c.name_mended, DiscoveryRequest.scenarios_mended hc hload]

end Discovery

end Mended

namespace Discovery

/-- **The issues of a discovery**: one for each selector that names nothing, in the order of the
selectors, and then those of the classes that some selector reaches, in the order in which they are
reached first; these bear the text of the first selector that reaches their class.  The tree is the one
of the sound request in the mended catalog. -/
theorem issues_and_root_discover (catalog : Catalog) (stepAsTest : Bool)
    (request : DiscoveryRequest) :
    (∃ (dangling : List DiscoveryIssue) (classes : List ClassSource),
      (discover catalog stepAsTest request).issues =
        dangling ++ classes.flatMap request.problems ∧
      List.Forall₂ (Selector.Fails catalog)
        (request.selectors.filter fun s => s.Dangles catalog) dangling ∧
      (∀ c, c ∈ classes ↔ c ∈ catalog.classes ∧ ∃ s ∈ request.selectors, s.reaches c = true) ∧
      (classes.map ClassSource.name).Nodup ∧
      classes.Pairwise (Plan.Before catalog request.selectors) ∧
      ∀ c ∈ classes, ∃ front s behind, request.selectors = front ++ s :: behind ∧
        s.reaches c = true ∧ (∀ t ∈ front, t.reaches c = false) ∧ request.caller c = s.text) ∧
    (discover catalog.mended stepAsTest (request.sound catalog)).root =
      (discover catalog stepAsTest request).root :=
  ⟨⟨Plan.issues catalog request.selectors, Plan.classes catalog request.selectors,
    issues_discover catalog stepAsTest request, Selector.forall₂_issues catalog request.selectors,
    fun _ => Plan.mem_classes, Plan.nodup_names_classes catalog request.selectors,
    Plan.pairwise_classes catalog request.selectors,
    fun _ hc => DiscoveryRequest.caller_eq (Plan.mem_classes.mp hc).2⟩,
    root_discover_mended catalog stepAsTest request⟩

end Discovery

end ScenarioRunner

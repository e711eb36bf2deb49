import Mathlib.Data.List.Nodup
import Mathlib.Data.List.Pairwise
import Mathlib.Tactic.Common
import Std.Data.String.ToNat
import ScenarioRunner.Proofs.Discovery.Selection

/-!
# Identifiers of discovered nodes

When the identifiers of a discovered tree are pairwise distinct.

* `Node.Nested`: below each node, identifiers grow by one segment from parent to child.
  `Node.Nested.nodup_ids_iff`: in such a tree only siblings can share an identifier.
* `Node.nested_ofScenario` and `Node.nodup_ids_ofScenario`: a scenario with its steps is such a tree,
  and its identifiers are distinct.
* `DiscoveryRequest.segments` lists the names of the scenarios of a class, and
  `Producer.eq_or_eq_of_mem_named` says when two producers give the same name.
* `Discovery.nodup_ids_discover`: the identifiers of a discovered tree are distinct unless two
  producers clash.

The items of a list are named after their producer with a number, and nothing keeps a producer of a
single scenario from bearing such a name.
-/

namespace ScenarioRunner

/-! ## Trees of identifiers -/

namespace Node

lemma descendantsOf_eq (nodes : List Node) : descendantsOf nodes = nodes.flatMap descendants := by
  induction nodes with
  | nil => rfl
  | cons node nodes ih => rw [descendantsOf, ih, List.flatMap_cons]

lemma descendants_eq (n : Node) : n.descendants = n :: n.children.flatMap descendants := by
  obtain ⟨id, name, kind, source, retryable, children⟩ := n
  rw [descendants, descendantsOf_eq]

/-- The identifiers of a tree. -/
def ids (n : Node) : List NodeId :=
  n.descendants.map Node.id

lemma ids_eq (n : Node) : n.ids = n.id :: n.children.flatMap ids := by
  rw [ids, descendants_eq, List.map_cons, List.map_flatMap]
  rfl

lemma id_mem_ids (n : Node) : n.id ∈ n.ids := by
  rw [ids_eq]
  exact List.mem_cons_self

/-- Each node of the tree has the identifier of its parent with one more segment. -/
inductive Nested : Node → Prop
  | intro {n : Node} (segment : ∀ m ∈ n.children, ∃ kind value, m.id = n.id.append kind value)
      (below : ∀ m ∈ n.children, Nested m) : Nested n

namespace Nested

variable {n m : Node}

lemma prefix_of_mem (h : n.Nested) : ∀ id ∈ n.ids, n.id.segments <+: id.segments := by
  induction h with
  | intro segment _ ih =>
      intro id hid
      rw [ids_eq, List.mem_cons, List.mem_flatMap] at hid
      obtain rfl | ⟨m, hm, hid⟩ := hid
      · exact List.prefix_rfl
      · obtain ⟨kind, value, heq⟩ := segment m hm
        refine List.IsPrefix.trans ?_ (ih m hm id hid)
        rw [heq]
        exact List.prefix_append ..

/-- **Only siblings share an identifier.**  Subtrees of siblings have nothing in common if the siblings
have different identifiers: whatever is below a node starts with its identifier. -/
theorem nodup_ids_iff (h : n.Nested) :
    n.ids.Nodup ↔ (n.children.map Node.id).Nodup ∧ ∀ m ∈ n.children, m.ids.Nodup := by
  obtain ⟨segment, below⟩ := h
  have hparent : n.id ∉ n.children.flatMap ids := by
    intro hid
    obtain ⟨m, hm, hid⟩ := List.mem_flatMap.mp hid
    obtain ⟨kind, value, heq⟩ := segment m hm
    have hlength := ((below m hm).prefix_of_mem _ hid).length_le
    rw [heq, NodeId.append, List.length_append, List.length_singleton] at hlength
    exact Nat.not_succ_le_self _ hlength
  have hsiblings : ∀ {a b : Node}, a ∈ n.children → b ∈ n.children →
      (List.Disjoint a.ids b.ids ↔ a.id ≠ b.id) := by
    intro a b ha hb
    constructor
    · exact fun hdisjoint heq => hdisjoint a.id_mem_ids (heq ▸ b.id_mem_ids)
    · intro hne id hida hidb
      obtain ⟨_, _, hsegment⟩ := segment a ha
      obtain ⟨_, _, hsegment'⟩ := segment b hb
      have hprefix := (below a ha).prefix_of_mem id hida
      have hprefix' := (below b hb).prefix_of_mem id hidb
      have hlength : a.id.segments.length = b.id.segments.length := by
        simp [hsegment, hsegment', NodeId.append]
      have hstart := List.prefix_of_prefix_length_le hprefix hprefix' (Nat.le_of_eq hlength)
      exact hne (congrArg NodeId.mk (hstart.eq_of_length hlength))
  rw [ids_eq, List.nodup_cons, List.nodup_flatMap, and_iff_right hparent, and_comm, List.Nodup,
    List.pairwise_map]
  exact and_congr_left' (List.Pairwise.iff_of_mem hsiblings)

end Nested

/-- The tree is nested, and no two of its nodes share an identifier. -/
structure Distinct (n : Node) : Prop where
  nested : n.Nested
  nodup : n.ids.Nodup

lemma Distinct.ofChildren {n : Node}
    (segment : ∀ m ∈ n.children, ∃ kind value, m.id = n.id.append kind value)
    (siblings : (n.children.map Node.id).Nodup) (below : ∀ m ∈ n.children, m.Distinct) :
    n.Distinct := by
  have hnested : n.Nested := .intro segment fun m hm => (below m hm).nested
  exact ⟨hnested, hnested.nodup_ids_iff.mpr ⟨siblings, fun m hm => (below m hm).nodup⟩⟩

/-! ## Scenarios and steps -/

lemma append_inj {id : NodeId} {kind value value' : String} :
    id.append kind value = id.append kind value' ↔ value = value' := by
  simp [NodeId.append]

variable {definition : Scenario} {path : List Nat} {rank : Nat} {parent : NodeId}

lemma id_ofStep (step : Step) :
    (ofStep definition path rank parent step).id = parent.append "step" (toString rank) := by
  obtain ⟨_, _, _, _⟩ := step
  rw [ofStep]

/-- Steps are numbered from `rank` on. -/
lemma ids_ofSteps (steps : List Step) :
    (ofSteps definition path rank parent steps).map Node.id =
      (List.range' rank steps.length).map fun k => parent.append "step" (toString k) := by
  induction steps generalizing rank with
  | nil => rfl
  | cons step steps ih =>
      rw [ofSteps, List.map_cons, ih, id_ofStep]
      rfl

lemma nodup_ids_ofSteps (steps : List Step) :
    ((ofSteps definition path rank parent steps).map Node.id).Nodup := by
  rw [ids_ofSteps]
  refine List.Nodup.map_on (fun k _ l _ heq => ?_) List.nodup_range'
  exact Nat.repr_injective (append_inj.mp heq)

lemma exists_append_of_mem_ofSteps {steps : List Step} {m : Node}
    (h : m ∈ ofSteps definition path rank parent steps) :
    ∃ kind value, m.id = parent.append kind value := by
  have hid : m.id ∈ (ofSteps definition path rank parent steps).map Node.id := List.mem_map_of_mem h
  rw [ids_ofSteps, List.mem_map] at hid
  obtain ⟨k, -, heq⟩ := hid
  exact ⟨_, _, heq.symm⟩

mutual

lemma distinct_ofStep (definition : Scenario) (path : List Nat) (rank : Nat) (parent : NodeId) :
    (step : Step) → (ofStep definition path rank parent step).Distinct
  | ⟨_, _, _, subSteps⟩ => by
    rw [ofStep]
    exact .ofChildren (fun _ hm => exists_append_of_mem_ofSteps hm) (nodup_ids_ofSteps subSteps)
      (distinct_ofSteps definition path 0 (parent.append "step" (toString rank)) subSteps)

lemma distinct_ofSteps (definition : Scenario) (path : List Nat) (rank : Nat) (parent : NodeId) :
    (steps : List Step) → ∀ m ∈ ofSteps definition path rank parent steps, m.Distinct
  | [] => fun _ hm => absurd hm List.not_mem_nil
  | step :: steps => by
    rw [ofSteps]
    intro m hm
    obtain rfl | hm := List.mem_cons.mp hm
    · exact distinct_ofStep definition (path ++ [rank]) rank parent step
    · exact distinct_ofSteps definition path (rank + 1) parent steps m hm

end

variable {segment : String} {source : ScenarioSource} {stepAsTest : Bool}

lemma id_ofScenario :
    (ofScenario parent segment source stepAsTest).id = parent.append "scenario" segment := by
  rw [ofScenario]
  split <;> rfl

/-- **The nodes of a scenario** have different identifiers: steps are named by their positions. -/
theorem distinct_ofScenario : (ofScenario parent segment source stepAsTest).Distinct := by
  rw [ofScenario]
  split
  · exact .ofChildren (fun _ hm => exists_append_of_mem_ofSteps hm) (nodup_ids_ofSteps _)
      (distinct_ofSteps _ _ _ _ _)
  · exact .ofChildren (fun _ hm => absurd hm List.not_mem_nil) .nil
      fun _ hm => absurd hm List.not_mem_nil

end Node

/-! ## Names of scenarios -/

namespace Producer

lemma append_mark_inj {xs ys ds es : List Char} (hds : '#' ∉ ds) (hes : '#' ∉ es)
    (h : xs ++ '#' :: ds = ys ++ '#' :: es) : xs = ys ∧ ds = es := by
  obtain ⟨zs, rfl, heq⟩ | ⟨zs, rfl, heq⟩ := List.append_eq_append_iff.mp h
  · cases zs with
    | nil => exact ⟨(List.append_nil xs).symm, (List.cons.inj heq).2⟩
    | cons z zs =>
        exact absurd ((List.cons.inj heq).2 ▸ List.mem_append_right zs List.mem_cons_self) hds
  · cases zs with
    | nil => exact ⟨List.append_nil ys, (List.cons.inj heq).2.symm⟩
    | cons z zs =>
        exact absurd ((List.cons.inj heq).2 ▸ List.mem_append_right zs List.mem_cons_self) hes

/-- A number has no mark in it, so that the name of a numbered scenario can be taken apart. -/
lemma numberedName_inj {name name' : String} {k l : Nat} :
    name ++ "#" ++ toString k = name' ++ "#" ++ toString l ↔ name = name' ∧ k = l := by
  have hlist : ∀ (name : String) (k : Nat),
      (name ++ "#" ++ toString k).toList = name.toList ++ '#' :: Nat.toDigits 10 k := by
    intro name k
    simp
  have hmark : ∀ k, '#' ∉ Nat.toDigits 10 k := fun k hk =>
    absurd (Nat.isDigit_of_mem_toDigits (by decide) (by decide) hk) (by decide)
  constructor
  · intro h
    have heq := congrArg String.toList h
    rw [hlist, hlist] at heq
    obtain ⟨hname, hdigits⟩ := append_mark_inj (hmark k) (hmark l) heq
    refine ⟨String.toList_inj.mp hname, Nat.repr_injective ?_⟩
    rw [Nat.repr_eq_ofList_toDigits, Nat.repr_eq_ofList_toDigits, hdigits]
  · rintro ⟨rfl, rfl⟩
    rfl

lemma mem_named {p : Producer} {name : String} {s : Scenario} :
    (name, s) ∈ p.named ↔ (p.output = .single s ∧ name = p.name) ∨
      ∃ ss k, p.output = .many ss ∧ ss[k]? = some s ∧ name = p.name ++ "#" ++ toString (k + 1) := by
  rw [named]
  cases p.output with
  | single t => simp [and_comm, eq_comm]
  | many ss => simp [List.mem_iff_getElem?, @eq_comm _ name]
  | unsupported => simp

/-- A producer names its scenarios apart. -/
lemma nodup_names_named (p : Producer) : (p.named.map Prod.fst).Nodup := by
  rw [named]
  cases p.output with
  | single s => exact List.nodup_singleton _
  | unsupported => exact .nil
  | many ss =>
      rw [List.Nodup, List.pairwise_map, List.pairwise_iff_getElem]
      intro i j hi hj hlt
      rw [List.getElem_mapIdx, List.getElem_mapIdx, Ne, numberedName_inj]
      rintro ⟨-, heq⟩
      omega

end Producer

namespace DiscoveryRequest

variable {request : DiscoveryRequest} {c : ClassSource} {stepAsTest : Bool}

/-- The names of the scenarios that the request finds in a class. -/
def segments (request : DiscoveryRequest) (c : ClassSource) : List String :=
  (c.producers.filter (request.Takes c)).flatMap fun p =>
    (p.named.filter fun (_, s) => request.tags.Keeps s).map Prod.fst

/-- The request finds an item of the list of one producer and the single scenario of another one, and
both have the same name. -/
def Clashes (request : DiscoveryRequest) (c : ClassSource) (p q : Producer) : Prop :=
  request.Takes c p ∧ request.Takes c q ∧
    ∃ ss k s t, p.output = .many ss ∧ ss[k]? = some s ∧ request.tags.Keeps s ∧
      q.output = .single t ∧ request.tags.Keeps t ∧ q.name = p.name ++ "#" ++ toString (k + 1)

lemma mem_names {p : Producer} {name : String} :
    name ∈ (p.named.filter fun (_, s) => request.tags.Keeps s).map Prod.fst ↔
      ∃ s, (name, s) ∈ p.named ∧ request.tags.Keeps s := by
  simp

/-- Two producers of different names share a name for their scenarios only if they clash. -/
lemma clashes_of_mem_names {p q : Producer} {name : String} (hp : request.Takes c p)
    (hq : request.Takes c q) (hne : p.name ≠ q.name)
    (hmem : name ∈ (p.named.filter fun (_, s) => request.tags.Keeps s).map Prod.fst)
    (hmem' : name ∈ (q.named.filter fun (_, s) => request.tags.Keeps s).map Prod.fst) :
    request.Clashes c p q ∨ request.Clashes c q p := by
  obtain ⟨s, hs, hkept⟩ := mem_names.mp hmem
  obtain ⟨t, ht, hkept'⟩ := mem_names.mp hmem'
  rw [Producer.mem_named] at hs ht
  obtain ⟨houtput, rfl⟩ | ⟨ss, k, houtput, hk, rfl⟩ := hs <;>
    obtain ⟨houtput', hname⟩ | ⟨ts, l, houtput', hl, hname⟩ := ht
  · exact absurd hname hne
  · exact Or.inr ⟨hq, hp, ts, l, t, s, houtput', hl, hkept', houtput, hkept, hname⟩
  · exact Or.inl ⟨hp, hq, ss, k, s, t, houtput, hk, hkept, houtput', hkept', hname.symm⟩
  · exact absurd (Producer.numberedName_inj.mp hname).1 hne

/-- **The names of the scenarios of a class** are distinct unless two producers clash. -/
theorem nodup_segments_iff (hnames : (c.producers.map Producer.name).Nodup) :
    (request.segments c).Nodup ↔
      ∀ p ∈ c.producers, ∀ q ∈ c.producers, ¬ request.Clashes c p q := by
  rw [segments, List.nodup_flatMap, and_iff_right fun p _ =>
    p.nodup_names_named.sublist (List.filter_sublist.map Prod.fst)]
  constructor
  · intro hdisjoint p hp q hq hclash
    obtain ⟨htakes, htakes', ss, k, s, t, houtput, hk, hkept, houtput', hkept', hname⟩ := hclash
    have hne : p ≠ q := by
      rintro rfl
      simp [houtput] at houtput'
    have hmem : p ∈ c.producers.filter (request.Takes c) := by simp [hp, htakes]
    have hmem' : q ∈ c.producers.filter (request.Takes c) := by simp [hq, htakes']
    have hsymm : Std.Symm (Function.onFun List.Disjoint fun p : Producer =>
        (p.named.filter fun (_, s) => request.tags.Keeps s).map Prod.fst) :=
      ⟨fun _ _ h _ hp hq => h hq hp⟩
    refine hdisjoint.forall hmem hmem' hne (mem_names.mpr ⟨s, ?_, hkept⟩)
      (mem_names.mpr ⟨t, Producer.mem_named.mpr (Or.inl ⟨houtput', rfl⟩), hkept'⟩)
    exact Producer.mem_named.mpr (Or.inr ⟨ss, k, houtput, hk, hname⟩)
  · intro hclashes
    refine (hnames.of_map.filter _).pairwise_of_forall_ne fun p hp q hq hne name hmem hmem' => ?_
    obtain ⟨hp, htakes⟩ := List.mem_filter.mp hp
    obtain ⟨hq, htakes'⟩ := List.mem_filter.mp hq
    have hother : p.name ≠ q.name := fun h => hne (List.inj_on_of_nodup_map hnames hp hq h)
    obtain hclash | hclash := clashes_of_mem_names (of_decide_eq_true htakes)
      (of_decide_eq_true htakes') hother hmem hmem'
    · exact hclashes p hp q hq hclash
    · exact hclashes q hq p hp hclash

lemma ids_scenarios :
    (request.scenarios stepAsTest c).map Node.id = (request.segments c).map fun segment =>
      ((NodeId.engine NodeId.engineName).append "class" c.name).append "scenario" segment := by
  simp only [scenarios, segments, List.map_flatMap, List.map_map, Function.comp_def,
    Node.id_ofScenario]

lemma exists_of_mem_scenarios {m : Node} (h : m ∈ request.scenarios stepAsTest c) :
    ∃ segment source, m = Node.ofScenario
      ((NodeId.engine NodeId.engineName).append "class" c.name) segment source stepAsTest := by
  obtain ⟨p, -, hm⟩ := List.mem_flatMap.mp h
  obtain ⟨⟨segment, s⟩, -, rfl⟩ := List.mem_map.mp hm
  exact ⟨segment, _, rfl⟩

/-- A class in which the request finds nothing has no names. -/
lemma mem_found_of_segments_ne {catalog : Catalog} (hc : c ∈ catalog.classes)
    (hload : c.loadError = none) (hne : request.segments c ≠ []) :
    c ∈ request.found stepAsTest catalog := by
  have hscenarios : request.scenarios stepAsTest c ≠ [] := by
    intro hnil
    have hids : (request.scenarios stepAsTest c).map Node.id = (request.segments c).map _ :=
      ids_scenarios
    rw [hnil] at hids
    exact hne (List.map_eq_nil_iff.mp hids.symm)
  obtain ⟨p, hp⟩ : ∃ p, p ∈ c.producers.filter (request.Takes c) := by
    refine List.exists_mem_of_ne_nil _ fun hnil => hne ?_
    rw [segments, hnil]
    rfl
  obtain ⟨hp, htakes⟩ := List.mem_filter.mp hp
  refine mem_found.mpr ⟨hc, hload, ?_, hscenarios⟩
  obtain ⟨s, hs, hall⟩ | hmethod := of_decide_eq_true htakes
  · exact ⟨s, hs, hall.picks⟩
  · exact ⟨_, hmethod, rfl, p, hp, rfl⟩

end DiscoveryRequest

namespace Discovery

variable {request : DiscoveryRequest} {c : ClassSource} {stepAsTest : Bool}

/-- The node of a class in which a request finds scenarios. -/
def classNode (request : DiscoveryRequest) (stepAsTest : Bool) (c : ClassSource) : Node :=
  Node.ofClass (.engine NodeId.engineName) c.name (request.scenarios stepAsTest c)

lemma nested_classNode : (classNode request stepAsTest c).Nested := by
  refine .intro (fun m hm => ?_) fun m hm => ?_ <;>
    obtain ⟨segment, source, rfl⟩ := DiscoveryRequest.exists_of_mem_scenarios hm
  · exact ⟨_, _, Node.id_ofScenario⟩
  · exact Node.distinct_ofScenario.nested

lemma nodup_ids_classNode :
    (classNode request stepAsTest c).ids.Nodup ↔ (request.segments c).Nodup := by
  have hbelow : ∀ m ∈ (classNode request stepAsTest c).children, m.ids.Nodup := by
    intro m hm
    obtain ⟨segment, source, rfl⟩ := DiscoveryRequest.exists_of_mem_scenarios hm
    exact Node.distinct_ofScenario.nodup
  have hids : (classNode request stepAsTest c).children.map Node.id =
      (request.segments c).map _ := DiscoveryRequest.ids_scenarios
  rw [nested_classNode.nodup_ids_iff, and_iff_left hbelow, hids]
  exact List.nodup_map_iff fun _ _ => Node.append_inj.mp

/-- **When the identifiers of a discovered tree are distinct**: if the producers of each class have
different names, then all nodes have different identifiers unless the request takes a list and a
single scenario of a class that is named like an item of the list. -/
theorem nodup_ids_discover (catalog : Catalog) (stepAsTest : Bool) (request : DiscoveryRequest)
    (hnames : ∀ c ∈ catalog.classes, (c.producers.map Producer.name).Nodup) :
    ((discover catalog stepAsTest request).root.descendants.map Node.id).Nodup ↔
      ∀ c ∈ catalog.classes, c.loadError = none →
        ∀ p ∈ c.producers, ∀ q ∈ c.producers, ¬ request.Clashes c p q := by
  have hnested : (Node.engine ((request.found stepAsTest catalog).map
      (classNode request stepAsTest))).Nested := by
    refine .intro (fun m hm => ?_) fun m hm => ?_ <;> obtain ⟨c, hc, rfl⟩ := List.mem_map.mp hm
    · exact ⟨_, _, rfl⟩
    · exact nested_classNode
  have hclasses : ((Node.engine ((request.found stepAsTest catalog).map
      (classNode request stepAsTest))).children.map Node.id).Nodup := by
    have hids : (Node.engine ((request.found stepAsTest catalog).map
        (classNode request stepAsTest))).children.map Node.id =
          ((request.found stepAsTest catalog).map ClassSource.name).map fun name =>
            (NodeId.engine NodeId.engineName).append "class" name := by
      simp only [Node.engine, List.map_map]
      rfl
    rw [hids]
    exact (request.nodup_names_found stepAsTest catalog).map fun _ _ => Node.append_inj.mp
  calc ((discover catalog stepAsTest request).root.descendants.map Node.id).Nodup
      ↔ ∀ c ∈ request.found stepAsTest catalog, (classNode request stepAsTest c).ids.Nodup := by
        rw [root_discover]
        refine hnested.nodup_ids_iff.trans ?_
        rw [and_iff_right hclasses]
        exact List.forall_mem_map
    _ ↔ ∀ c ∈ catalog.classes, c.loadError = none → (request.segments c).Nodup := by
        constructor
        · intro h c hc hload
          by_cases hne : request.segments c = []
          · rw [hne]
            exact .nil
          · exact nodup_ids_classNode.mp (h c (DiscoveryRequest.mem_found_of_segments_ne hc hload hne))
        · intro h c hc
          obtain ⟨hmem, hload, -⟩ := DiscoveryRequest.mem_found.mp hc
          exact nodup_ids_classNode.mpr (h c hmem hload)
    _ ↔ _ := forall₂_congr fun c hc => forall_congr' fun _ =>
        DiscoveryRequest.nodup_segments_iff (hnames c hc)

/-- The catalog of a class with a list of scenarios and a single scenario.  The single one has a name. -/
def listAndSingle (name : String) : Catalog :=
  .ofList [⟨"a.A", [⟨"p", none, .many [.ofStep "first" default, .ofStep "second" default]⟩,
    ⟨name, none, .single (.ofStep "third" default)⟩], none⟩]

/-- Behind the end of the list, its numbering can go on by hand. -/
theorem nodup_ids_discover_behind :
    (∀ c ∈ (listAndSingle "p#3").classes, (c.producers.map Producer.name).Nodup) ∧
      ((discover (listAndSingle "p#3") true .all).root.descendants.map Node.id).Nodup := by
  have hnames : ∀ c ∈ (listAndSingle "p#3").classes, (c.producers.map Producer.name).Nodup := by
    decide +kernel
  refine ⟨hnames, (nodup_ids_discover _ _ _ hnames).mpr ?_⟩
  intro c hc _ p hp q hq hclash
  obtain ⟨-, -, ss, k, s, t, houtput, hk, -, houtput', -, hname⟩ := hclash
  obtain rfl := List.mem_singleton.mp hc
  obtain rfl | hp := List.mem_cons.mp hp
  · obtain rfl | hq := List.mem_cons.mp hq
    · simp at houtput'
    · obtain rfl := List.mem_singleton.mp hq
      obtain rfl := Output.many.inj houtput
      have heq : "p" ++ "#" ++ toString 3 = "p" ++ "#" ++ toString (k + 1) := hname
      obtain rfl : k = 2 := by have := (Producer.numberedName_inj.mp heq).2; omega
      simp at hk
  · obtain rfl := List.mem_singleton.mp hp
    simp at houtput

/-- **Identifiers are not unique**: an item of a list and a single scenario of one class can have the
same identifier, although their producers have different names. -/
theorem not_nodup_ids_discover :
    (∀ c ∈ (listAndSingle "p#1").classes, (c.producers.map Producer.name).Nodup) ∧
      (discover (listAndSingle "p#1") false .all).root.descendants.map (NodeId.text ∘ Node.id) =
        ["[engine:chutney]", "[engine:chutney]/[class:a.A]",
          "[engine:chutney]/[class:a.A]/[scenario:p#1]",
          "[engine:chutney]/[class:a.A]/[scenario:p#2]",
          "[engine:chutney]/[class:a.A]/[scenario:p#1]"] ∧
      ¬ ((discover (listAndSingle "p#1") false .all).root.descendants.map Node.id).Nodup := by
  decide +kernel

end Discovery

end ScenarioRunner

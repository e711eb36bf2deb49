import Mathlib.Data.List.Induction
import Mathlib.Data.List.Nodup
import Mathlib.Tactic.Common
import ScenarioRunner.Discovery.Plan

/-!
# What selectors pick

The plan of a discovery against the selectors it comes from.

* `Selector.reaches` says of one class whether a selector picks it, and `Selector.picks_eq`: the picks
  of a selector are the classes that it reaches, in the order of the catalog.
* `Plan.classes` lists the classes of a plan, and `Plan.names_ofSelectors` compares it with the plan.
* `Plan.mem_classes` and `Plan.pairwise_classes`: a class is planned if some selector reaches it, and
  classes stand in the order of `Plan.Before`; `Plan.classes_eq` says the same in one equation.
* `Plan.selector_ofSelectors`: a planned class bears the text of the first selector that reaches it.
* `Plan.takes_ofSelectors`: which producers of a class are planned.

A selector adds classes only behind those that are planned, so that the first selector that reaches a
class decides on its place, and all of them decide on its producers.
-/

namespace ScenarioRunner

namespace Catalog

variable {catalog : Catalog} {c d : ClassSource} {name : String}

lemma eq_of_name (hc : c ∈ catalog.classes) (hd : d ∈ catalog.classes) (h : c.name = d.name) : c = d :=
  List.inj_on_of_nodup_map catalog.distinct hc hd h

lemma class?_eq_some_iff : catalog.class? name = some c ↔ c ∈ catalog.classes ∧ c.name = name := by
  constructor
  · intro h
    exact ⟨List.mem_of_find?_eq_some h, by simpa using List.find?_some h⟩
  · rintro ⟨hmem, rfl⟩
    cases h : catalog.class? c.name with
    | none => exact absurd (beq_self_eq_true c.name) (List.find?_eq_none.mp h c hmem)
    | some d =>
        have hname : d.name = c.name := by simpa using List.find?_some h
        rw [eq_of_name hmem (List.mem_of_find?_eq_some h) hname.symm]

/-- There is at most one class with a name. -/
lemma filter_name (catalog : Catalog) (name : String) :
    catalog.classes.filter (fun c => c.name == name) = (catalog.class? name).toList := by
  obtain ⟨classes, hdistinct⟩ := catalog
  show classes.filter (fun c => c.name == name) = (classes.find? fun c => c.name == name).toList
  induction classes with
  | nil => rfl
  | cons c classes ih =>
      obtain ⟨hnew, hrest⟩ := List.nodup_cons.mp hdistinct
      rw [List.filter_cons, List.find?_cons]
      cases hname : c.name == name with
      | true =>
          have hnone : classes.filter (fun c => c.name == name) = [] := by
            rw [List.filter_eq_nil_iff]
            intro d hd hother
            refine hnew (List.mem_map.mpr ⟨d, hd, ?_⟩)
            exact (beq_iff_eq.mp hother).trans (beq_iff_eq.mp hname).symm
          rw [hnone]
          rfl
      | false => exact ih hrest

end Catalog

namespace Selector

/-- The producer that a selector names; `none` if it picks whole classes. -/
def producer? : Selector → Option String
  | method _ producer => some producer
  | _ => none

/-- The selector picks the class.  A producer of a class that could not be read is picked whatever its
name is. -/
def reaches (s : Selector) (c : ClassSource) : Bool :=
  match s with
  | package name => c.inPackage name
  | «class» name => c.name == name
  | method className producer =>
    (c.loadError.isSome || (c.producer? producer).isSome) && c.name == className

/-- The picks of a selector that has no issue. -/
def allPicks (catalog : Catalog) (s : Selector) : List Pick :=
  match s.picks catalog with
  | .ok picks => picks
  | .error _ => []

/-- **The picks of a selector** are the classes that it reaches. -/
theorem allPicks_eq (catalog : Catalog) (s : Selector) :
    s.allPicks catalog = (catalog.classes.filter s.reaches).map fun c => ⟨c.name, s.producer?⟩ := by
  cases s with
  | package name => rfl
  | «class» name =>
      have hfilter : catalog.classes.filter (Selector.class name).reaches =
          (catalog.class? name).toList := catalog.filter_name name
      rw [hfilter, allPicks, picks]
      cases h : catalog.class? name with
      | none => rfl
      | some c =>
          obtain rfl := (Catalog.class?_eq_some_iff.mp h).2
          rfl
  | method className producer =>
      have hfilter : catalog.classes.filter (method className producer).reaches =
          (catalog.class? className).toList.filter fun c =>
            c.loadError.isSome || (c.producer? producer).isSome := by
        rw [← catalog.filter_name, List.filter_filter]
        rfl
      rw [hfilter, allPicks, picks]
      cases h : catalog.class? className with
      | none => rfl
      | some c =>
          obtain rfl := (Catalog.class?_eq_some_iff.mp h).2
          cases hpicked : c.loadError.isSome || (c.producer? producer).isSome <;>
            simp [hpicked, producer?]

end Selector

namespace Selection

/-- A pick of a class or of a producer includes a producer. -/
def offers (pick : Option String) (producer : String) : Prop :=
  pick = none ∨ pick = some producer

lemma includes_ofPick {pick : Option String} {producer : String} :
    (ofPick pick).includes producer = true ↔ offers pick producer := by
  cases pick with
  | none => simp [ofPick, includes, offers]
  | some name => simp [ofPick, includes, offers, eq_comm]

/-- One more pick adds what it includes and takes nothing away. -/
lemma includes_add {s : Selection} {pick : Option String} {producer : String} :
    (s.add pick).includes producer = true ↔ s.includes producer = true ∨ offers pick producer := by
  cases pick with
  | none => cases s <;> simp [add, includes, offers]
  | some name =>
      cases s with
      | all => simp [add, includes]
      | only names =>
          simp only [add, offers, reduceCtorEq, Option.some.injEq, false_or]
          split
          · next h =>
            refine (or_iff_left_of_imp ?_).symm
            rintro rfl
            exact h
          · rw [includes, includes, List.contains_iff_mem, List.contains_iff_mem, List.mem_append,
              List.mem_singleton, @eq_comm _ producer]

end Selection

namespace Plan

variable {catalog : Catalog} {selectors : List Selector} {plan : List PlannedClass}

/-! ## One pick -/

/-- A pick adds a class behind the others unless it is planned. -/
lemma names_pick (text : String) (p : Pick) (plan : List PlannedClass) :
    (pick text p plan).map PlannedClass.name =
      if p.className ∈ plan.map PlannedClass.name then plan.map PlannedClass.name
      else plan.map PlannedClass.name ++ [p.className] := by
  induction plan with
  | nil => rfl
  | cons c rest ih =>
      rw [pick]
      split
      · next h => simp [h]
      · next h =>
        simp only [List.map_cons, List.mem_cons, ih, Ne.symm h, false_or]
        split <;> rfl

/-- Some producer of a class is planned. -/
def Takes (plan : List PlannedClass) (name producer : String) : Prop :=
  ∃ c ∈ plan, c.name = name ∧ c.selection.includes producer = true

lemma takes_pick {text : String} {p : Pick} {name producer : String} :
    Takes (pick text p plan) name producer ↔
      Takes plan name producer ∨ (p.className = name ∧ Selection.offers p.producer producer) := by
  induction plan with
  | nil => simp [Takes, pick, Selection.includes_ofPick]
  | cons c rest ih =>
      rw [pick]
      split
      · next h =>
        simp only [Takes, List.exists_mem_cons_iff, Selection.includes_add, h, and_or_left]
        rw [or_right_comm]
      · simp only [Takes, List.exists_mem_cons_iff] at ih ⊢
        rw [ih, or_assoc]

/-! ## The classes of a plan -/

/-- The classes that some selectors reach, in the order in which they are reached first. -/
def classes (catalog : Catalog) (selectors : List Selector) : List ClassSource :=
  selectors.foldl (fun planned s =>
    planned ++ (catalog.classes.filter s.reaches).filter fun c =>
      c.name ∉ planned.map ClassSource.name) []

/-- A selector adds one pick for each class that it reaches. -/
lemma select_eq (catalog : Catalog) (plan : List PlannedClass) (s : Selector) :
    select catalog plan s =
      (catalog.classes.filter s.reaches).foldl
        (fun plan c => pick s.text ⟨c.name, s.producer?⟩ plan) plan := by
  have hpicks : select catalog plan s =
      (s.allPicks catalog).foldl (fun plan p => pick s.text p plan) plan := by
    rw [select, Selector.allPicks]
    cases s.picks catalog <;> rfl
  rw [hpicks, s.allPicks_eq, List.foldl_map]

/-- Putting in new items one by one puts in those that are not there. -/
lemma foldl_concat_new {α : Type} [DecidableEq α] {ys : List α} (hys : ys.Nodup) (xs : List α) :
    ys.foldl (fun xs y => if y ∈ xs then xs else xs ++ [y]) xs = xs ++ ys.filter (· ∉ xs) := by
  induction ys generalizing xs with
  | nil => simp
  | cons y ys ih =>
      obtain ⟨hnew, hrest⟩ := List.nodup_cons.mp hys
      rw [List.foldl_cons, ih hrest]
      split
      · next h => rw [List.filter_cons_of_neg (by simpa using h)]
      · next h =>
        have hothers : ys.filter (· ∉ xs ++ [y]) = ys.filter (· ∉ xs) := by
          refine List.filter_congr fun z hz => ?_
          have hne : z ≠ y := fun heq => hnew (heq ▸ hz)
          simp [hne]
        rw [List.filter_cons_of_pos (by simpa using h), hothers, List.append_assoc]
        rfl

/-- A selector plans the classes that it reaches and that are not planned, behind the others. -/
lemma names_select (catalog : Catalog) (plan : List PlannedClass) (s : Selector) :
    (select catalog plan s).map PlannedClass.name =
      plan.map PlannedClass.name ++
        ((catalog.classes.filter s.reaches).map ClassSource.name).filter
          (· ∉ plan.map PlannedClass.name) := by
  have hnames : ∀ (cs : List ClassSource) (plan : List PlannedClass),
      (cs.foldl (fun plan c => pick s.text ⟨c.name, s.producer?⟩ plan) plan).map PlannedClass.name =
        (cs.map ClassSource.name).foldl (fun names n => if n ∈ names then names else names ++ [n])
          (plan.map PlannedClass.name) := by
    intro cs
    induction cs with
    | nil => exact fun _ => rfl
    | cons c cs ih =>
        intro plan
        rw [List.foldl_cons, ih, names_pick, List.map_cons, List.foldl_cons]
  rw [select_eq, hnames]
  exact foldl_concat_new (catalog.distinct.sublist (List.filter_sublist.map _)) _

lemma ofSelectors_concat (catalog : Catalog) (selectors : List Selector) (s : Selector) :
    ofSelectors catalog (selectors ++ [s]) = select catalog (ofSelectors catalog selectors) s :=
  List.foldl_concat ..

lemma classes_concat (catalog : Catalog) (selectors : List Selector) (s : Selector) :
    classes catalog (selectors ++ [s]) =
      classes catalog selectors ++ (catalog.classes.filter s.reaches).filter fun c =>
        c.name ∉ (classes catalog selectors).map ClassSource.name :=
  List.foldl_concat ..

/-- One selector plans what it reaches. -/
lemma classes_singleton (catalog : Catalog) (s : Selector) :
    classes catalog [s] = catalog.classes.filter s.reaches := by
  simp [classes]

/-- **The names of a plan** are those of its classes. -/
theorem names_ofSelectors (catalog : Catalog) (selectors : List Selector) :
    (ofSelectors catalog selectors).map PlannedClass.name =
      (classes catalog selectors).map ClassSource.name := by
  induction selectors using List.reverseRecOn with
  | nil => rfl
  | append_singleton selectors s ih =>
      rw [ofSelectors_concat, classes_concat, names_select, ih, List.map_append, List.filter_map]
      rfl

lemma name_mem_classes_iff (hcatalog : ∀ d ∈ classes catalog selectors, d ∈ catalog.classes)
    {c : ClassSource} (hc : c ∈ catalog.classes) :
    c.name ∈ (classes catalog selectors).map ClassSource.name ↔ c ∈ classes catalog selectors := by
  rw [List.mem_map]
  constructor
  · rintro ⟨d, hd, hname⟩
    rwa [← Catalog.eq_of_name (hcatalog d hd) hc hname]
  · exact fun h => ⟨c, h, rfl⟩

/-- **A class is planned** if some selector reaches it. -/
theorem mem_classes {c : ClassSource} :
    c ∈ classes catalog selectors ↔ c ∈ catalog.classes ∧ ∃ s ∈ selectors, s.reaches c = true := by
  induction selectors using List.reverseRecOn generalizing c with
  | nil => simp [classes]
  | append_singleton selectors s ih =>
      have hcatalog : ∀ d ∈ classes catalog selectors, d ∈ catalog.classes := fun d hd => (ih.mp hd).1
      rw [classes_concat, List.mem_append, List.mem_filter, List.mem_filter, decide_eq_true_eq]
      by_cases hc : c ∈ catalog.classes
      · rw [name_mem_classes_iff hcatalog hc, ih]
        simp only [hc, true_and, List.mem_append, List.mem_singleton, or_and_right, exists_or,
          exists_eq_left]
        by_cases hreached : ∃ s ∈ selectors, s.reaches c = true <;> simp [hreached]
      · simp [hc, ih]

/-- The place of the first selector that reaches a class. -/
def firstReach (selectors : List Selector) (c : ClassSource) : Nat :=
  selectors.findIdx fun s => s.reaches c

/-- A class stands before another one, by the first selectors that reach them and then by the
catalog. -/
def Before (catalog : Catalog) (selectors : List Selector) (c d : ClassSource) : Prop :=
  firstReach selectors c < firstReach selectors d ∨
    (firstReach selectors c = firstReach selectors d ∧ [c, d].Sublist catalog.classes)

lemma firstReach_lt {c : ClassSource} (h : ∃ s ∈ selectors, s.reaches c = true) :
    firstReach selectors c < selectors.length :=
  List.findIdx_lt_length.mpr h

lemma firstReach_concat_of_exists {c : ClassSource} (h : ∃ s ∈ selectors, s.reaches c = true)
    (s : Selector) : firstReach (selectors ++ [s]) c = firstReach selectors c := by
  rw [firstReach, List.findIdx_append]
  exact if_pos (firstReach_lt h)

lemma firstReach_concat_of_not_exists {c : ClassSource}
    (h : ¬ ∃ s ∈ selectors, s.reaches c = true) {s : Selector} (hs : s.reaches c = true) :
    firstReach (selectors ++ [s]) c = selectors.length := by
  have hnone : ¬ selectors.findIdx (fun s => s.reaches c) < selectors.length :=
    List.findIdx_lt_length.not.mpr h
  rw [firstReach, List.findIdx_append, if_neg hnone, List.findIdx_cons, hs]
  exact Nat.zero_add _

/-- **The classes of a plan** stand in the order of the first selectors that reach them. -/
theorem pairwise_classes (catalog : Catalog) (selectors : List Selector) :
    (classes catalog selectors).Pairwise (Before catalog selectors) := by
  induction selectors using List.reverseRecOn with
  | nil => exact .nil
  | append_singleton selectors s ih =>
      have hcatalog : ∀ d ∈ classes catalog selectors, d ∈ catalog.classes :=
        fun d hd => (mem_classes.mp hd).1
      have hnew : ∀ {c : ClassSource}, c ∈ (catalog.classes.filter s.reaches).filter (fun c =>
          c.name ∉ (classes catalog selectors).map ClassSource.name) →
          firstReach (selectors ++ [s]) c = selectors.length := by
        intro c hc
        obtain ⟨hreached, hplanned⟩ := List.mem_filter.mp hc
        obtain ⟨hc, hs⟩ := List.mem_filter.mp hreached
        rw [decide_eq_true_eq, name_mem_classes_iff hcatalog hc, mem_classes] at hplanned
        exact firstReach_concat_of_not_exists (fun hearlier => hplanned ⟨hc, hearlier⟩) hs
      rw [classes_concat, List.pairwise_append]
      refine ⟨ih.imp_of_mem fun {c d} hc hd hbefore => ?_, ?_, fun c hc d hd => Or.inl ?_⟩
      · rwa [Before, firstReach_concat_of_exists (mem_classes.mp hc).2,
          firstReach_concat_of_exists (mem_classes.mp hd).2]
      · rw [List.pairwise_iff_forall_sublist]
        intro c d hsublist
        have hmem := hsublist.subset
        refine Or.inr ⟨(hnew (hmem List.mem_cons_self)).trans (hnew (hmem (by simp))).symm, ?_⟩
        exact hsublist.trans (List.filter_sublist.trans List.filter_sublist)
      · rw [firstReach_concat_of_exists (mem_classes.mp hc).2, hnew hd]
        exact firstReach_lt (mem_classes.mp hc).2

lemma before_irrefl (catalog : Catalog) (selectors : List Selector) (c : ClassSource) :
    ¬ Before catalog selectors c c := by
  rintro (hlt | ⟨-, hsublist⟩)
  · exact Nat.lt_irrefl _ hlt
  · have hnodup := catalog.distinct.of_map.sublist hsublist
    simp at hnodup

/-- Each class is planned once. -/
lemma nodup_names_classes (catalog : Catalog) (selectors : List Selector) :
    ((classes catalog selectors).map ClassSource.name).Nodup := by
  have hnodup : (classes catalog selectors).Nodup := by
    refine (pairwise_classes catalog selectors).imp fun {c d} hbefore heq => ?_
    exact before_irrefl catalog selectors d (heq ▸ hbefore)
  refine hnodup.map_on fun c hc d hd hname => ?_
  exact Catalog.eq_of_name (mem_classes.mp hc).1 (mem_classes.mp hd).1 hname

/-- The classes of a plan are those that the first selector reaches, then those that the second one is
the first to reach, and so on. -/
theorem classes_eq (catalog : Catalog) (selectors : List Selector) :
    classes catalog selectors = (List.range selectors.length).flatMap fun i =>
      catalog.classes.filter fun c => firstReach selectors c = i := by
  induction selectors using List.reverseRecOn with
  | nil => rfl
  | append_singleton selectors s ih =>
      have hcatalog : ∀ d ∈ classes catalog selectors, d ∈ catalog.classes :=
        fun d hd => (mem_classes.mp hd).1
      have hplanned : ∀ c ∈ catalog.classes,
          c ∈ classes catalog selectors ↔ firstReach selectors c < selectors.length := by
        intro c hc
        rw [mem_classes, and_iff_right hc]
        exact List.findIdx_lt_length.symm
      have hconcat : ∀ c, firstReach (selectors ++ [s]) c =
          if firstReach selectors c < selectors.length then firstReach selectors c
          else selectors.length + if s.reaches c then 0 else 1 := by
        intro c
        rw [firstReach, List.findIdx_append, Nat.add_comm selectors.length, List.findIdx_cons,
          List.findIdx_nil]
        cases s.reaches c <;> rfl
      have hnew : (catalog.classes.filter s.reaches).filter (fun c =>
          c.name ∉ (classes catalog selectors).map ClassSource.name) =
            catalog.classes.filter fun c => firstReach (selectors ++ [s]) c = selectors.length := by
        rw [List.filter_filter]
        refine List.filter_congr fun c hc => ?_
        rw [hconcat, Bool.eq_iff_iff, Bool.and_eq_true, decide_eq_true_eq, decide_eq_true_eq,
          name_mem_classes_iff hcatalog hc, hplanned c hc]
        cases s.reaches c <;> split <;> simp <;> omega
      have hold : ∀ i ∈ List.range selectors.length,
          (catalog.classes.filter fun c => firstReach (selectors ++ [s]) c = i) =
            catalog.classes.filter fun c => firstReach selectors c = i := by
        intro i hi
        have hlt := List.mem_range.mp hi
        refine List.filter_congr fun c _ => ?_
        rw [hconcat, decide_eq_decide]
        split <;> omega
      rw [classes_concat, hnew, ih, List.length_append, List.length_singleton, List.range_succ,
        List.flatMap_append, List.flatMap_singleton, List.flatMap_congr hold]

/-- Selectors that reach nothing can be left out. -/
lemma classes_filter {keep : Selector → Bool}
    (h : ∀ s ∈ selectors, keep s = false → ∀ c ∈ catalog.classes, s.reaches c = false) :
    classes catalog (selectors.filter keep) = classes catalog selectors := by
  induction selectors using List.reverseRecOn with
  | nil => rfl
  | append_singleton selectors s ih =>
      have hrest := ih fun t ht => h t (List.mem_append_left _ ht)
      rw [List.filter_append, classes_concat]
      cases hkeep : keep s with
      | true => rw [List.filter_cons_of_pos hkeep, List.filter_nil, classes_concat, hrest]
      | false =>
          have hnone : catalog.classes.filter s.reaches = [] := by
            rw [List.filter_eq_nil_iff]
            exact fun c hc => Bool.eq_false_iff.mp (h s (by simp) hkeep c hc)
          rw [List.filter_cons_of_neg (Bool.eq_false_iff.mp hkeep), List.filter_nil, List.append_nil,
            hrest, hnone, List.filter_nil, List.append_nil]

/-- What is told of the planned classes is told of their classes in the catalog. -/
lemma flatMap_ofSelectors {α : Type} {f : PlannedClass → List α} {g : ClassSource → List α}
    (h : ∀ planned ∈ ofSelectors catalog selectors, ∀ c ∈ catalog.classes,
      c.name = planned.name → f planned = g c) :
    (ofSelectors catalog selectors).flatMap f = (classes catalog selectors).flatMap g := by
  let named (name : String) : List α := (catalog.class? name).toList.flatMap g
  have hnamed : ∀ c ∈ catalog.classes, named c.name = g c := by
    intro c hc
    simp only [named, Catalog.class?_eq_some_iff.mpr ⟨hc, rfl⟩, Option.toList_some,
      List.flatMap_singleton]
  have hplanned : ∀ planned ∈ ofSelectors catalog selectors, f planned = named planned.name := by
    intro planned hplanned
    have hname := List.mem_map_of_mem (f := PlannedClass.name) hplanned
    rw [names_ofSelectors, List.mem_map] at hname
    obtain ⟨c, hc, hname⟩ := hname
    have hcatalog := (mem_classes.mp hc).1
    rw [h planned hplanned c hcatalog hname, ← hname, hnamed c hcatalog]
  calc (ofSelectors catalog selectors).flatMap f
      = ((ofSelectors catalog selectors).map PlannedClass.name).flatMap named := by
        rw [List.flatMap_map]
        exact List.flatMap_congr hplanned
    _ = (classes catalog selectors).flatMap g := by
        rw [names_ofSelectors, List.flatMap_map]
        exact List.flatMap_congr fun c hc => hnamed c (mem_classes.mp hc).1

/-! ## The selector of a planned class -/

/-- A pick leaves the planned classes with their selectors, and adds a class with its own. -/
lemma selector_pick {text : String} {p : Pick} {planned : PlannedClass}
    (h : planned ∈ pick text p plan) :
    (∃ c ∈ plan, c.name = planned.name ∧ c.selector = planned.selector) ∨
      (planned.name = p.className ∧ p.className ∉ plan.map PlannedClass.name ∧
        planned.selector = text) := by
  induction plan with
  | nil =>
      obtain rfl := List.mem_singleton.mp h
      exact Or.inr ⟨rfl, List.not_mem_nil, rfl⟩
  | cons c rest ih =>
      rw [pick] at h
      split at h
      · rcases List.mem_cons.mp h with rfl | h
        · exact Or.inl ⟨c, List.mem_cons_self, rfl, rfl⟩
        · exact Or.inl ⟨planned, List.mem_cons_of_mem _ h, rfl, rfl⟩
      · next hne =>
        rcases List.mem_cons.mp h with rfl | h
        · exact Or.inl ⟨planned, List.mem_cons_self, rfl, rfl⟩
        · refine (ih h).imp (fun ⟨d, hd, heq⟩ => ⟨d, List.mem_cons_of_mem _ hd, heq⟩) ?_
          rintro ⟨hname, hnew, htext⟩
          refine ⟨hname, ?_, htext⟩
          rw [List.map_cons, List.mem_cons, not_or]
          exact ⟨Ne.symm hne, hnew⟩

lemma selector_foldl_pick {s : Selector} {cs : List ClassSource} {planned : PlannedClass}
    (h : planned ∈ cs.foldl (fun plan c => pick s.text ⟨c.name, s.producer?⟩ plan) plan) :
    (∃ c ∈ plan, c.name = planned.name ∧ c.selector = planned.selector) ∨
      (planned.name ∉ plan.map PlannedClass.name ∧ planned.selector = s.text) := by
  induction cs generalizing plan with
  | nil => exact Or.inl ⟨planned, h, rfl, rfl⟩
  | cons c cs ih =>
      rcases ih h with ⟨d, hd, hname, htext⟩ | ⟨hnew, htext⟩
      · rw [← hname, ← htext]
        refine (selector_pick hd).imp_right fun ⟨hname, hnew, htext⟩ => ⟨?_, htext⟩
        rwa [hname]
      · refine Or.inr ⟨fun hmem => hnew ?_, htext⟩
        rw [names_pick]
        split
        · exact hmem
        · exact List.mem_append_left _ hmem

lemma name_mem_ofSelectors_iff {c : ClassSource} (hc : c ∈ catalog.classes) :
    c.name ∈ (ofSelectors catalog selectors).map PlannedClass.name ↔
      ∃ s ∈ selectors, s.reaches c = true := by
  rw [names_ofSelectors, name_mem_classes_iff (fun d hd => (mem_classes.mp hd).1) hc, mem_classes,
    and_iff_right hc]

/-- **A planned class bears the text** of the first selector that reaches it. -/
theorem selector_ofSelectors {planned : PlannedClass} {c : ClassSource}
    (h : planned ∈ ofSelectors catalog selectors) (hc : c ∈ catalog.classes)
    (hname : c.name = planned.name) :
    ∃ s, selectors.find? (fun s => s.reaches c) = some s ∧ planned.selector = s.text := by
  induction selectors using List.reverseRecOn generalizing planned with
  | nil => exact absurd h List.not_mem_nil
  | append_singleton selectors s ih =>
      have hreached : ∃ t ∈ selectors ++ [s], t.reaches c = true :=
        (name_mem_ofSelectors_iff hc).mp (hname ▸ List.mem_map_of_mem h)
      rw [ofSelectors_concat, select_eq] at h
      rw [List.find?_append]
      rcases selector_foldl_pick h with ⟨d, hd, hsame, htext⟩ | ⟨hnew, htext⟩
      · obtain ⟨t, ht, heq⟩ := ih hd (hname.trans hsame.symm)
        exact ⟨t, by rw [ht, Option.some_or], htext ▸ heq⟩
      · rw [← hname, name_mem_ofSelectors_iff hc] at hnew
        have hnone : selectors.find? (fun s => s.reaches c) = none :=
          List.find?_eq_none.mpr fun t ht hreaches => hnew ⟨t, ht, hreaches⟩
        obtain ⟨t, ht, hreaches⟩ := hreached
        obtain rfl : t = s := by
          refine List.mem_singleton.mp ((List.mem_append.mp ht).resolve_left fun ht => ?_)
          exact hnew ⟨t, ht, hreaches⟩
        exact ⟨t, by simp [hnone, hreaches], htext⟩

/-! ## The producers of a plan -/

lemma takes_foldl_pick {s : Selector} {cs : List ClassSource} {name producer : String} :
    Takes (cs.foldl (fun plan c => pick s.text ⟨c.name, s.producer?⟩ plan) plan) name producer ↔
      Takes plan name producer ∨
        ∃ c ∈ cs, c.name = name ∧ Selection.offers s.producer? producer := by
  induction cs generalizing plan with
  | nil => simp
  | cons c cs ih =>
      rw [List.foldl_cons, ih, takes_pick, List.exists_mem_cons_iff, or_assoc]

/-- **A producer of a class is planned** if a selector that reaches the class picks all of it or names
the producer. -/
theorem takes_ofSelectors {name producer : String} :
    Takes (ofSelectors catalog selectors) name producer ↔
      ∃ s ∈ selectors, ∃ c ∈ catalog.classes, s.reaches c = true ∧ c.name = name ∧
        Selection.offers s.producer? producer := by
  induction selectors using List.reverseRecOn with
  | nil => simp [ofSelectors, Takes]
  | append_singleton selectors s ih =>
      rw [ofSelectors_concat, select_eq, takes_foldl_pick, ih]
      simp only [List.mem_filter, List.mem_append, List.mem_singleton, or_and_right, exists_or,
        exists_eq_left, and_assoc]

end Plan

end ScenarioRunner

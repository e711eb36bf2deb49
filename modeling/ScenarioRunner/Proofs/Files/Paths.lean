import Mathlib.Data.Char
import Mathlib.Data.List.Lex
import Mathlib.Data.Prod.Lex
import Mathlib.Tactic.Common
import ScenarioRunner.Files.Path
import ScenarioRunner.Proofs.Text.Cuts

/-!
# Paths below a directory

* `Path.IsName` holds of the names that files and directories have, and `Path.below` appends names to
  the path of a directory.
* `Path.components_below`: names that are appended are components of the path, so that
  `Path.below_injective`: different names give different paths.
* `Path.relativeOr_below`: seen from the directory, the path is its names.
* `Path.Key` is a linear order of paths, and `Path.before_iff`: paths stand in this order.

Nothing is assumed of the path of the directory, which can be empty, end in a separator or lead
upwards.
-/

namespace ScenarioRunner

namespace Path

variable {root path next name : String} {names others : List String}

/-- The name of a file or a directory. -/
def IsName (name : String) : Prop :=
  name ≠ "" ∧ name ≠ "." ∧ name ≠ ".." ∧ '/' ∉ name.toList

instance (name : String) : Decidable (IsName name) :=
  inferInstanceAs (Decidable (_ ∧ _))

/-- The path of what some names lead to, from the directory with a path. -/
def below (path : String) (names : List String) : String :=
  names.foldl join path

/-! ## Components -/

lemma ofSegment?_of_isName (h : IsName name) : ofSegment? name = some (.name name) := by
  obtain ⟨hempty, hhere, hup, -⟩ := h
  rw [ofSegment?, if_neg (not_or.mpr ⟨hempty, hhere⟩), if_neg hup]

/-- More segments behind the first one are more components. -/
lemma components_append {first : String} {rest rest' : List String} {cs : List Component}
    (h : Text.segments '/' path = first :: rest) (h' : Text.segments '/' next = first :: rest')
    (hroot : first = "" → (rest = [] ↔ rest' = []))
    (hrest : rest'.filterMap ofSegment? = rest.filterMap ofSegment? ++ cs) :
    components next = components path ++ cs := by
  simp only [components, h, h', hrest, List.append_assoc]
  by_cases hfirst : first = ""
  · have hempty : rest.isEmpty = rest'.isEmpty := by
      rw [Bool.eq_iff_iff, List.isEmpty_iff, List.isEmpty_iff, hroot hfirst]
    rw [if_pos hfirst, if_pos hfirst, hempty]
  · rw [if_neg hfirst, if_neg hfirst]

lemma isAbsolute_of_isName (h : IsName name) : isAbsolute name = false := by
  obtain ⟨-, -, -, hslash⟩ := h
  rw [isAbsolute, beq_eq_false_iff_ne]
  exact fun hhead => hslash (List.mem_of_mem_head? hhead)

/-- **A name that is appended to a path** is one more component. -/
theorem components_join (path : String) (h : IsName name) :
    components (join path name) = components path ++ [.name name] := by
  have hsegment := ofSegment?_of_isName h
  have hname := Text.segments_of_not_mem h.2.2.2
  rw [join, isAbsolute_of_isName h, if_neg Bool.false_ne_true]
  by_cases hempty : path = ""
  · subst hempty
    show components ("" ++ name) = components "" ++ [.name name]
    rw [String.empty_append]
    simp only [components, hname, hsegment, if_neg h.1, if_neg h.2.1]
    rfl
  by_cases hslash : path.toList.getLast? = some '/'
  · -- the empty segment at the end of the path gives way to the name
    obtain ⟨front, hfront⟩ := List.getLast?_eq_some_iff.mp hslash
    rw [if_pos (by simp [hslash])]
    have hbefore : path.toList = (String.ofList front).toList ++ '/' :: ("" : String).toList := by
      rw [String.toList_ofList, hfront]
      rfl
    have hbehind : (path ++ name).toList = (String.ofList front).toList ++ '/' :: name.toList := by
      rw [String.toList_append, String.toList_ofList, hfront, List.append_assoc]
      rfl
    obtain ⟨first, rest, hparts⟩ :=
      List.exists_cons_of_ne_nil (Text.segments_ne_nil '/' (String.ofList front))
    have hpath : Text.segments '/' path = first :: (rest ++ [""]) := by
      rw [Text.segments_append hbefore, hparts]
      rfl
    have hnext : Text.segments '/' (path ++ name) = first :: (rest ++ [name]) := by
      rw [Text.segments_append hbehind, hparts, hname]
      rfl
    have hgone : ofSegment? "" = none := rfl
    refine components_append hpath hnext (fun _ => by simp) ?_
    simp only [List.filterMap_append, List.filterMap_cons, hsegment, hgone, List.filterMap_nil,
      List.append_nil]
  · rw [if_neg (by simp [hempty, hslash])]
    have hbehind : (path ++ "/" ++ name).toList = path.toList ++ '/' :: name.toList := by
      simp
    obtain ⟨first, rest, hpath⟩ := List.exists_cons_of_ne_nil (Text.segments_ne_nil '/' path)
    have hnext : Text.segments '/' (path ++ "/" ++ name) = first :: (rest ++ [name]) := by
      rw [Text.segments_append hbehind, hpath, hname]
      rfl
    refine components_append hpath hnext (fun hfirst => ?_) (by simp [hsegment])
    -- only the empty path is one empty segment
    have hrest : rest ≠ [] := by
      rintro rfl
      have hjoined : Text.joined "/" (Text.segments '/' path) = path := Text.joined_segments rfl path
      exact hempty (hjoined.symm.trans (by rw [hpath, hfirst]; rfl))
    simp [hrest]

/-- **Names that are appended** are components of the path. -/
theorem components_below (path : String) (h : ∀ name ∈ names, IsName name) :
    components (below path names) = components path ++ names.map .name := by
  induction names generalizing path with
  | nil => simp [below]
  | cons name names ih =>
      obtain ⟨hname, hnames⟩ := List.forall_mem_cons.mp h
      have hjoin : below path (name :: names) = below (join path name) names := rfl
      rw [hjoin, ih _ hnames, components_join path hname, List.append_assoc]
      rfl

lemma name_injective : Function.Injective Component.name :=
  fun _ _ h => Component.name.inj h

/-- **Different names** lead to paths with different components. -/
theorem below_injective (path : String) (h : ∀ name ∈ names, IsName name)
    (h' : ∀ name ∈ others, IsName name)
    (heq : components (below path names) = components (below path others)) : names = others := by
  rw [components_below path h, components_below path h', List.append_cancel_left_eq] at heq
  exact List.map_injective_iff.mpr name_injective heq

/-! ## Relative paths -/

lemma dropPrefix?_append (front rest : List Component) :
    dropPrefix? front (front ++ rest) = some rest := by
  induction front with
  | nil => cases rest <;> rfl
  | cons c front ih =>
      rw [List.cons_append, dropPrefix?, if_pos rfl]
      exact ih

lemma ofComponents_names (names : List String) :
    ofComponents (names.map .name) = Text.joined "/" names := by
  have htext : (names.map Component.name).map Component.text = names := by
    rw [List.map_map]
    exact List.map_id names
  have heq : ofComponents (names.map .name) =
      Text.joined "/" ((names.map Component.name).map Component.text) := by
    cases names <;> rfl
  rw [heq, htext]

/-- **Seen from the directory** a path below it is its names. -/
theorem relativeOr_below (root : String) (h : ∀ name ∈ names, IsName name) :
    relativeOr root (below root names) = Text.joined "/" names := by
  rw [relativeOr, relative?, components_below root h, dropPrefix?_append, Option.map_some,
    Option.getD_some, ofComponents_names]

/-- Different names are different relative paths. -/
lemma joined_injective (hne : names ≠ []) (hne' : others ≠ []) (h : ∀ name ∈ names, IsName name)
    (h' : ∀ name ∈ others, IsName name) (heq : Text.joined "/" names = Text.joined "/" others) :
    names = others := by
  have hslash : ∀ {names : List String}, (∀ name ∈ names, IsName name) →
      ∀ name ∈ names, '/' ∉ name.toList := fun h name hname => (h name hname).2.2.2
  have hmark : "/".toList = ['/'] := rfl
  rw [← Text.segments_joined hmark hne (hslash h), heq, Text.segments_joined hmark hne' (hslash h')]

/-! ## Order -/

/-- What a component is compared by. -/
def Component.key : Component → ℕ ×ₗ List Char
  | .name s => toLex (3, s.toList)
  | c => toLex (c.rank, [])

/-- What a path is compared by. -/
abbrev Key : Type :=
  List (ℕ ×ₗ List Char)

/-- What a path is compared by. -/
def key (path : String) : Key :=
  (components path).map Component.key

lemma Component.key_injective : Function.Injective Component.key := by
  intro a b h
  cases a <;> cases b <;> simp_all [Component.key, Component.rank, String.toList_inj]

lemma Component.before_iff (a b : Component) : a.before b = true ↔ a.key < b.key := by
  have hlt : ∀ s t : String, s < t ↔ s.toList < t.toList := fun _ _ => Iff.rfl
  cases a <;> cases b <;> simp [before, key, rank, Prod.Lex.toLex_lt_toLex, hlt]

lemma componentsBefore_iff (as bs : List Component) :
    componentsBefore as bs = true ↔ as.map Component.key < bs.map Component.key := by
  induction as, bs using componentsBefore.induct with
  | case1 as => simp [componentsBefore]
  | case2 b bs => simp [componentsBefore]
  | case3 as b bs ih =>
      rw [componentsBefore, if_pos rfl, ih]
      simp
  | case4 a as b bs hne =>
      have hkey : a.key ≠ b.key := fun heq => hne (Component.key_injective heq)
      rw [componentsBefore, if_neg hne, a.before_iff]
      simp [List.cons_lt_cons_iff, hkey]

/-- **Paths stand in a linear order.** -/
theorem before_iff (p q : String) : before p q = true ↔ key p < key q :=
  componentsBefore_iff ..

lemma key_eq_iff {p q : String} : key p = key q ↔ components p = components q :=
  (List.map_injective_iff.mpr Component.key_injective).eq_iff

end Path

end ScenarioRunner

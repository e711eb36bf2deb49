import Mathlib.Tactic.Common
import ScenarioRunner.Engine.Measure

/-!
# Lists of numbered things

The classes of a tree, the scenarios of a class and the jobs among them stand in lists, each at a
place of its own.

* `total` of a list is zero only if nothing counts, and bounds what each item counts; it generalises
  `List.countP`.
* `eq_of_pairwise_lt`: items at one place are one item.
* `filter_flatMap_of_getElem?`: what a filter keeps, if it keeps what one item brings.
-/

namespace ScenarioRunner

variable {α β : Type}

lemma exists_of_total_ne_zero {f : α → Nat} {xs : List α} (h : total f xs ≠ 0) :
    ∃ (k : Nat) (x : α), xs[k]? = some x ∧ f x ≠ 0 := by
  induction xs with
  | nil => exact absurd rfl h
  | cons y ys ih =>
      by_cases hy : f y = 0
      · rw [total, hy, Nat.zero_add] at h
        obtain ⟨k, x, hk, hx⟩ := ih h
        exact ⟨k + 1, x, hk, hx⟩
      · exact ⟨0, y, rfl, hy⟩

lemma le_total (f : α → Nat) {xs : List α} {k : Nat} {x : α} (hk : xs[k]? = some x) :
    f x ≤ total f xs := by
  induction xs generalizing k with
  | nil => simp at hk
  | cons y ys ih =>
      rw [total]
      cases k with
      | zero =>
          obtain rfl : y = x := by simpa using hk
          omega
      | succ k =>
          have := ih (k := k) (by simpa using hk)
          omega

/-- What two items at different places count is counted by the list. -/
lemma add_le_total (f : α → Nat) {xs : List α} {k l : Nat} {x y : α} (hk : xs[k]? = some x)
    (hl : xs[l]? = some y) (hne : k ≠ l) : f x + f y ≤ total f xs := by
  induction xs generalizing k l with
  | nil => simp at hk
  | cons z zs ih =>
      rw [total]
      cases k with
      | zero =>
          obtain rfl : z = x := by simpa using hk
          cases l with
          | zero => exact absurd rfl hne
          | succ l =>
              have := le_total f (show zs[l]? = some y by simpa using hl)
              omega
      | succ k =>
          cases l with
          | zero =>
              obtain rfl : z = y := by simpa using hl
              have := le_total f (show zs[k]? = some x by simpa using hk)
              omega
          | succ l =>
              have := ih (k := k) (l := l) (by simpa using hk) (by simpa using hl)
                fun heq => hne (congrArg _ heq)
              omega

lemma total_congr {f : α → Nat} {g : β → Nat} {xs : List α} {ys : List β}
    (h : xs.map f = ys.map g) : total f xs = total g ys := by
  induction xs generalizing ys with
  | nil =>
      obtain rfl := List.map_eq_nil_iff.mp h.symm
      rfl
  | cons x xs ih =>
      obtain ⟨y, ys, rfl, hhead, htail⟩ := List.map_eq_cons_iff.mp h.symm
      rw [total, total, hhead, ih htail.symm]

lemma total_const {f : α → Nat} {xs : List α} {n : Nat} (h : ∀ x ∈ xs, f x = n) :
    total f xs = xs.length * n := by
  induction xs with
  | nil => simp [total]
  | cons y ys ih =>
      rw [total, h y List.mem_cons_self, ih fun x hx => h x (List.mem_cons_of_mem _ hx),
        List.length_cons, Nat.succ_mul, Nat.add_comm]

/-- In a list in the order of places, items at one place are one item. -/
lemma eq_of_pairwise_lt {place : α → Nat} {xs : List α}
    (h : xs.Pairwise fun x y => place x < place y) {k l : Nat} {x y : α} (hk : xs[k]? = some x)
    (hl : xs[l]? = some y) (heq : place x = place y) : k = l := by
  have hpairwise := List.pairwise_iff_getElem.mp h
  obtain ⟨hlt, rfl⟩ := List.getElem?_eq_some_iff.mp hk
  obtain ⟨hlt', rfl⟩ := List.getElem?_eq_some_iff.mp hl
  rcases Nat.lt_trichotomy k l with hlt'' | hkl | hgt
  · have := hpairwise k l hlt hlt' hlt''
    omega
  · exact hkl
  · have := hpairwise l k hlt' hlt hgt
    omega

lemma eq_of_mem_of_pairwise_lt {place : α → Nat} {xs : List α}
    (h : xs.Pairwise fun x y => place x < place y) {x y : α} (hx : x ∈ xs) (hy : y ∈ xs)
    (heq : place x = place y) : x = y := by
  obtain ⟨k, hk⟩ := List.getElem?_of_mem hx
  obtain ⟨l, hl⟩ := List.getElem?_of_mem hy
  obtain rfl := eq_of_pairwise_lt h hk hl heq
  exact Option.some.inj (hk.symm.trans hl)

lemma filter_flatMap_eq_nil {f : α → List β} {p : β → Bool} {xs : List α}
    (h : ∀ x ∈ xs, ∀ y ∈ f x, p y = false) : (xs.flatMap f).filter p = [] := by
  rw [List.filter_eq_nil_iff]
  intro y hy
  obtain ⟨x, hx, hxy⟩ := List.mem_flatMap.mp hy
  rw [h x hx y hxy]
  exact Bool.false_ne_true

/-- A filter that keeps all that one item brings, and nothing of the others. -/
lemma filter_flatMap_of_getElem? {f : α → List β} {p : β → Bool} {xs : List α} {k : Nat} {x : α}
    (hk : xs[k]? = some x) (hown : ∀ y ∈ f x, p y = true)
    (hother : ∀ {l : Nat} {z : α}, xs[l]? = some z → l ≠ k → ∀ y ∈ f z, p y = false) :
    (xs.flatMap f).filter p = f x := by
  induction xs generalizing k with
  | nil => simp at hk
  | cons z zs ih =>
      rw [List.flatMap_cons, List.filter_append]
      cases k with
      | zero =>
          obtain rfl : z = x := by simpa using hk
          have hrest : (zs.flatMap f).filter p = [] := by
            refine filter_flatMap_eq_nil fun y hy => ?_
            obtain ⟨l, hl⟩ := List.getElem?_of_mem hy
            exact hother (l := l + 1) (by simpa using hl) (by omega)
          rw [hrest, List.append_nil]
          exact List.filter_eq_self.mpr hown
      | succ k =>
          have hfirst : (f z).filter p = [] := by
            rw [List.filter_eq_nil_iff]
            intro y hy
            rw [hother (l := 0) rfl (by omega) y hy]
            exact Bool.false_ne_true
          rw [hfirst, List.nil_append]
          refine ih (by simpa using hk) fun {l w} hl hne => ?_
          exact hother (l := l + 1) (by simpa using hl) (by omega)

/-- What changes an item of the front leaves the back alone. -/
lemma modify_append (f : α → α) {front : List α} (back : List α) {k : Nat} (h : k < front.length) :
    (front ++ back).modify k f = front.modify k f ++ back := by
  induction front generalizing k with
  | nil => exact absurd h (Nat.not_lt_zero _)
  | cons x front ih =>
      cases k with
      | zero => rfl
      | succ k =>
          rw [List.cons_append, List.modify_succ_cons, List.modify_succ_cons,
            ih (Nat.lt_of_succ_lt_succ h)]
          rfl

/-- A filter that keeps just two neighbours keeps nothing around them. -/
lemma filter_eq_nil_of_pair {p : α → Bool} {front back : List α} {x y : α}
    (h : (front ++ x :: y :: back).filter p = [x, y]) (hx : p x = true) (hy : p y = true) :
    front.filter p = [] ∧ back.filter p = [] := by
  rw [List.filter_append, List.filter_cons_of_pos hx, List.filter_cons_of_pos hy] at h
  have hlength := congrArg List.length h
  simp only [List.length_append, List.length_cons, List.length_nil] at hlength
  exact ⟨List.length_eq_zero_iff.mp (by omega), List.length_eq_zero_iff.mp (by omega)⟩

lemma countP_eq_total (p : α → Bool) (xs : List α) :
    xs.countP p = total (fun x => (p x).toNat) xs := by
  induction xs with
  | nil => rfl
  | cons x xs ih =>
      rw [List.countP_cons, ih, total, Nat.add_comm]
      cases p x <;> rfl

end ScenarioRunner

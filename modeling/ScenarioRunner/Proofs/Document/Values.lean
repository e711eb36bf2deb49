import Mathlib.Data.List.Induction
import Mathlib.Data.String.Basic
import Mathlib.Tactic.Common
import ScenarioRunner.Document.Decode

/-!
# Values that are written as JSON and read again

A reading inverts a writing if it gives back each value from the JSON written of it.

* `Json.IsValue` holds of the JSON values that there are: numbers are finite, and the keys of an object
  increase.  `Document.Decode.isValue_of_json`: only such values are read.
* `Document.Reads` says that a reading gives a value for a JSON value, in each dialect.
* `Reads.string`, `Reads.word`, `Reads.list`, `Reads.table`, `Reads.json`: the readings of the common
  kinds of value invert their writings.

A sorted list of pairs is read pair by pair into one with increasing keys, so that the keys have to
increase before: `sortEntries_eq_self`.
-/

namespace ScenarioRunner

/-! ## Sorted pairs -/

section Pairs

variable {α : Type} {key : String} {value : α} {pairs : List (String × α)}

/-- A pair whose key is the largest one is put at the end. -/
lemma insertEntry_eq_concat (h : ∀ p ∈ pairs, p.1 < key) :
    insertEntry key value pairs = pairs ++ [(key, value)] := by
  induction pairs with
  | nil => rfl
  | cons p pairs ih =>
      obtain ⟨hp, hpairs⟩ := List.forall_mem_cons.mp h
      rw [insertEntry, if_neg (lt_asymm hp), if_neg (ne_of_gt hp), ih hpairs, List.cons_append]

/-- **Pairs whose keys increase are sorted.** -/
lemma sortEntries_eq_self (h : Increasing pairs) : sortEntries pairs = pairs := by
  induction pairs using List.reverseRecOn with
  | nil => rfl
  | append_singleton pairs p ih =>
      obtain ⟨hpairs, -, hlast⟩ := List.pairwise_append.mp h
      rw [sortEntries, List.foldl_concat, ← sortEntries, ih hpairs]
      exact insertEntry_eq_concat fun q hq => hlast q hq p List.mem_cons_self

lemma Table.ofList_entries (t : Table α) : Table.ofList t.entries = t := by
  obtain ⟨entries, h⟩ := t
  simp only [Table.ofList, sortEntries_eq_self h]

end Pairs

/-! ## Results that are given -/

section Results

variable {ε α β : Type} {e : Except ε α}

lemma map_eq_ok_iff {f : α → β} {y : β} : e.map f = .ok y ↔ ∃ x, e = .ok x ∧ f x = y := by
  cases e <;> simp [Except.map]

lemma bind_eq_ok_iff {f : α → Except ε β} {y : β} :
    e >>= f = .ok y ↔ ∃ x, e = .ok x ∧ f x = .ok y := by
  cases e <;> simp [Bind.bind, Except.bind]

end Results

/-! ## JSON values -/

namespace Json

/-- The JSON values that there are: numbers are finite, and the keys of an object increase. -/
inductive IsValue : Json → Prop where
  | null : IsValue .null
  | bool (b : Bool) : IsValue (.bool b)
  | int (n : Int) : IsValue (.int n)
  | float {x : Decimal.Binary64} (h : x.isFinite) : IsValue (.float x)
  | str (s : String) : IsValue (.str s)
  | arr {items : List Json} (h : ∀ item ∈ items, IsValue item) : IsValue (.arr items)
  | obj {members : List (String × Json)} (hkeys : Increasing members)
    (h : ∀ member ∈ members, IsValue member.2) : IsValue (.obj members)

end Json

namespace Document

open Decode

variable {α : Type}

namespace Datum

lemma ofItems_eq (items : List Json) : ofItems items = items.map ofJson := by
  induction items with
  | nil => rfl
  | cons item items ih => rw [ofItems, ih, List.map_cons]

@[simp] lemma view_ofJson (dialect : Dialect) (v : Json) : (ofJson v).view dialect = ofJson v := by
  rw [view]
  split
  · cases v <;> simp [ofJson, untagged]
  · rfl

lemma mismatch_ne_ok {dialect : Dialect} {wanted : String} {d : Datum} {x : α} :
    mismatch dialect wanted d ≠ .ok x := by
  unfold mismatch
  split <;> simp

end Datum

/-- A reading gives a value for a JSON value, in each dialect. -/
def Reads (decoder : Decoder α) (v : Json) (x : α) : Prop :=
  ∀ dialect, decoder dialect (.ofJson v) = .ok x

namespace Reads

lemma stringAs (wanted s : String) : Reads (Decode.stringAs wanted) (.str s) s := by
  intro dialect
  rw [Decode.stringAs, Datum.view_ofJson]
  rfl

lemma string (s : String) : Reads Decode.string (.str s) s :=
  stringAs "a string" s

lemma word (n : UInt64) : Reads Decode.word (.int n.toNat) n := by
  intro dialect
  rw [Decode.word, Datum.view_ofJson]
  have hrange : 0 ≤ (n.toNat : Int) ∧ (n.toNat : Int) < Nat.pow 2 64 :=
    ⟨Int.natCast_nonneg _, by exact_mod_cast n.toNat_lt⟩
  simp only [Datum.ofJson, if_pos hrange, Int.toNat_natCast, UInt64.ofNat_toNat]

/-- What is there is read, unless it is null. -/
lemma optional {item : Decoder α} {v : Json} {x : α} (h : Reads item v x) (hnull : v ≠ .null) :
    Reads (Decode.optional item) v (some x) := by
  intro dialect
  have hsome : Decode.optional item dialect (.ofJson v) = (item dialect (.ofJson v)).map some := by
    cases v with
    | null => exact absurd rfl hnull
    | _ => rfl
  rw [hsome, h dialect]
  rfl

/-- **A list is read item by item.** -/
lemma list {item : Decoder α} {write : α → Json} {xs : List α}
    (h : ∀ x ∈ xs, Reads item (write x) x) : Reads (Decode.list item) (.arr (xs.map write)) xs := by
  intro dialect
  have heach : each item dialect ((xs.map write).map .ofJson) = .ok xs := by
    induction xs with
    | nil => rfl
    | cons x xs ih =>
        obtain ⟨hx, hxs⟩ := List.forall_mem_cons.mp h
        rw [List.map_cons, List.map_cons, each, hx dialect, ih hxs]
        rfl
  unfold Decode.list
  rw [Datum.view_ofJson, Datum.ofJson, Datum.ofItems_eq]
  exact heach

lemma texts (items : List String) : Reads (Decode.list Decode.string) (.texts items) items :=
  list fun s _ => string s

/-- **A table is read entry by entry**, and its keys are in order again. -/
lemma table {item : Decoder α} {write : α → Json} {t : Table α}
    (h : ∀ entry ∈ t.entries, Reads item (write entry.2) entry.2) :
    Reads (Decode.table item) (t.toJson write) t := by
  intro dialect
  have hpairs : ∀ entries : List (String × α),
      (∀ entry ∈ entries, Reads item (write entry.2) entry.2) →
      pairs item dialect (Datum.ofMembers (entries.map fun entry => (entry.1, write entry.2))) =
        .ok entries := by
    intro entries hentries
    induction entries with
    | nil => rfl
    | cons entry entries ih =>
        obtain ⟨hentry, hentries⟩ := List.forall_mem_cons.mp hentries
        rw [List.map_cons, Datum.ofMembers, pairs, ih hentries]
        have hkey := string entry.1 dialect
        rw [Datum.ofJson] at hkey
        rw [hkey, hentry dialect]
        rfl
  have hwritten : t.toJson write = .obj (t.entries.map fun entry => (entry.1, write entry.2)) := rfl
  unfold Decode.table
  rw [hwritten, Datum.view_ofJson, Datum.ofJson]
  simp only [hpairs t.entries h]
  exact congrArg Except.ok t.ofList_entries

lemma jsonItems_ofItems {dialect : Dialect} {items : List Json}
    (h : ∀ item ∈ items, Decode.json dialect (.ofJson item) = .ok item) :
    jsonItems dialect (Datum.ofItems items) = .ok items := by
  induction items with
  | nil => rfl
  | cons item items ih =>
      obtain ⟨hitem, hitems⟩ := List.forall_mem_cons.mp h
      rw [Datum.ofItems, jsonItems, hitem, ih hitems]
      rfl

lemma jsonMembers_ofMembers {dialect : Dialect} {first : Bool} {members : List (String × Json)}
    (h : ∀ member ∈ members, Decode.json dialect (.ofJson member.2) = .ok member.2) :
    jsonMembers dialect first (Datum.ofMembers members) = .ok members := by
  induction members generalizing first with
  | nil => rfl
  | cons member members ih =>
      obtain ⟨hmember, hmembers⟩ := List.forall_mem_cons.mp h
      have hkey := stringAs (if first then "a string key" else "a string") member.1 dialect
      rw [Datum.ofJson] at hkey
      rw [Datum.ofMembers, jsonMembers, memberKey, hkey, hmember, ih hmembers]
      rfl

/-- **A JSON value is read as itself.** -/
theorem json {v : Json} (h : v.IsValue) : Reads Decode.json v v := by
  intro dialect
  induction h with
  | null | bool | int | str => rfl
  | float hfinite => rw [Datum.ofJson, Decode.json, if_pos hfinite]
  | arr _ ih =>
      rw [Datum.ofJson, Decode.json, jsonItems_ofItems ih]
      rfl
  | obj hkeys _ ih =>
      rw [Datum.ofJson, Decode.json, jsonMembers_ofMembers ih]
      exact congrArg (fun members => Except.ok (Json.obj members)) (sortEntries_eq_self hkeys)

lemma jsonTable {t : Table Json} (h : ∀ entry ∈ t.entries, entry.2.IsValue) :
    Reads (Decode.table Decode.json) (t.toJson id) t :=
  table fun entry hentry => json (h entry hentry)

end Reads

/-! ## What is read is a value -/

lemma eq_or_mem_of_mem_insertEntry {key : String} {value : α} {pairs : List (String × α)}
    {p : String × α} (h : p ∈ insertEntry key value pairs) : p = (key, value) ∨ p ∈ pairs := by
  induction pairs with
  | nil => exact .inl (List.mem_singleton.mp h)
  | cons q pairs ih =>
      rw [insertEntry] at h
      split at h
      · exact List.mem_cons.mp h
      · split at h
        · exact (List.mem_cons.mp h).imp_right (List.mem_cons_of_mem q)
        · rcases List.mem_cons.mp h with rfl | h
          · exact .inr List.mem_cons_self
          · exact (ih h).imp_right (List.mem_cons_of_mem q)

/-- Sorting adds no pair. -/
lemma mem_of_mem_sortEntries {pairs : List (String × α)} {p : String × α}
    (h : p ∈ sortEntries pairs) : p ∈ pairs := by
  induction pairs using List.reverseRecOn with
  | nil => exact absurd h List.not_mem_nil
  | append_singleton pairs q ih =>
      rw [sortEntries, List.foldl_concat, ← sortEntries] at h
      rcases eq_or_mem_of_mem_insertEntry h with rfl | h
      · exact List.mem_append_right _ List.mem_cons_self
      · exact List.mem_append_left _ (ih h)

mutual

/-- **Only values are read as JSON.** -/
theorem isValue_of_json {dialect : Dialect} :
    ∀ {d : Datum} {v : Json}, Decode.json dialect d = .ok v → v.IsValue
  | .null, _, rfl => .null
  | .bool b, _, rfl => .bool b
  | .int n, _, rfl => .int n
  | .str s, _, rfl => .str s
  | .float x, v, h => by
      rw [Decode.json] at h
      cases h
      split
      · next hfinite => exact .float hfinite
      · exact .null
  | .seq items, v, h => by
      rw [Decode.json] at h
      obtain ⟨values, hvalues, rfl⟩ := map_eq_ok_iff.mp h
      exact .arr (isValue_of_jsonItems hvalues)
  | .map members, v, h => by
      rw [Decode.json] at h
      obtain ⟨values, hvalues, rfl⟩ := map_eq_ok_iff.mp h
      exact .obj (increasing_sortEntries values) fun member hmember =>
        isValue_of_jsonMembers hvalues member (mem_of_mem_sortEntries hmember)
  | .tagged _ _, _, h | .buried _, _, h | .unreadable, _, h | .broken, _, h => by
      rw [Decode.json] at h
      exact absurd h (by simp)

lemma isValue_of_jsonItems {dialect : Dialect} :
    ∀ {items : List Datum} {values : List Json}, jsonItems dialect items = .ok values →
      ∀ value ∈ values, value.IsValue
  | [], _, rfl => fun _ hvalue => absurd hvalue List.not_mem_nil
  | d :: items, values, h => by
      rw [jsonItems] at h
      obtain ⟨x, hx, h⟩ := bind_eq_ok_iff.mp h
      obtain ⟨xs, hxs, h⟩ := bind_eq_ok_iff.mp h
      obtain rfl := Except.ok.inj h
      exact List.forall_mem_cons.mpr ⟨isValue_of_json hx, isValue_of_jsonItems hxs⟩

lemma isValue_of_jsonMembers {dialect : Dialect} :
    ∀ {first : Bool} {members : List (Datum × Datum)} {values : List (String × Json)},
      jsonMembers dialect first members = .ok values → ∀ value ∈ values, value.2.IsValue
  | _, [], _, rfl => fun _ hvalue => absurd hvalue List.not_mem_nil
  | first, (key, d) :: members, values, h => by
      rw [jsonMembers] at h
      obtain ⟨k, -, h⟩ := bind_eq_ok_iff.mp h
      obtain ⟨x, hx, h⟩ := bind_eq_ok_iff.mp h
      obtain ⟨xs, hxs, h⟩ := bind_eq_ok_iff.mp h
      obtain rfl := Except.ok.inj h
      exact List.forall_mem_cons.mpr ⟨isValue_of_json hx, isValue_of_jsonMembers hxs⟩

end

end Document

end ScenarioRunner

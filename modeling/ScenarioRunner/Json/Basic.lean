import ScenarioRunner.Decimal.Reading

/-!
# JSON values

* `Json` is the type of values.  Whole numbers and floating-point numbers are kept apart, and the
  members of an object are a list of pairs.
* `Json.ofEntries` makes an object from pairs in any order: its keys increase, and of two pairs
  with one key the later one counts.
* `Table` is a finite map with text keys, kept as a list with increasing keys.
-/

namespace ScenarioRunner

open Decimal (Binary64)

/-- A JSON value. -/
inductive Json where
  | null
  | bool (b : Bool)
  | int (n : Int)
  | float (x : Binary64)
  | str (s : String)
  | arr (items : List Json)
  | obj (members : List (String × Json))
deriving Inhabited, BEq, Repr

/-- Puts a pair into a list with increasing keys; it replaces the pair with the same key. -/
def insertEntry {α : Type} (key : String) (value : α) : List (String × α) → List (String × α)
  | [] => [(key, value)]
  | (k, v) :: rest =>
    if key < k then (key, value) :: (k, v) :: rest
    else if key = k then (key, value) :: rest
    else (k, v) :: insertEntry key value rest

/-- The pairs by increasing key; of two pairs with one key the later one counts. -/
def sortEntries {α : Type} (pairs : List (String × α)) : List (String × α) :=
  pairs.foldl (fun sorted pair => insertEntry pair.1 pair.2 sorted) []

/-- The keys of a list of pairs increase, so that no two pairs share a key. -/
def Increasing {α : Type} (pairs : List (String × α)) : Prop :=
  pairs.Pairwise fun p q => p.1 < q.1

/-- Every key of a list with one more pair is the new one or an old one. -/
theorem mem_insertEntry {α : Type} {key : String} {value : α} {pairs : List (String × α)}
    {p : String × α} (h : p ∈ insertEntry key value pairs) : p.1 = key ∨ p ∈ pairs := by
  induction pairs with
  | nil => simp_all [insertEntry]
  | cons q rest ih => grind [insertEntry]

/-- Insertion keeps the keys increasing. -/
theorem increasing_insertEntry {α : Type} {key : String} {value : α} {pairs : List (String × α)}
    (h : Increasing pairs) : Increasing (insertEntry key value pairs) := by
  induction pairs with
  | nil => simp [insertEntry, Increasing]
  | cons q rest ih =>
    obtain ⟨k, v⟩ := q
    simp only [Increasing, List.pairwise_cons] at h ih ⊢
    simp only [insertEntry]
    split
    · simp only [List.pairwise_cons]
      exact ⟨by grind, h⟩
    · split
      · simp only [List.pairwise_cons]
        exact ⟨by grind, h.2⟩
      · simp only [List.pairwise_cons]
        refine ⟨fun p hp => ?_, ih h.2⟩
        rcases mem_insertEntry hp with hk | hk
        · grind
        · exact h.1 p hk

/-- Insertion of pairs one by one keeps the keys increasing. -/
theorem increasing_foldl {α : Type} (pairs start : List (String × α)) (h : Increasing start) :
    Increasing (pairs.foldl (fun sorted pair => insertEntry pair.1 pair.2 sorted) start) := by
  induction pairs generalizing start with
  | nil => exact h
  | cons q rest ih => exact ih _ (increasing_insertEntry h)

/-- Sorted pairs have increasing keys. -/
theorem increasing_sortEntries {α : Type} (pairs : List (String × α)) :
    Increasing (sortEntries pairs) :=
  increasing_foldl pairs [] List.Pairwise.nil

namespace Json

/-- The object with the given members. -/
def ofEntries (pairs : List (String × Json)) : Json :=
  .obj (sortEntries pairs)

/-- The member of an object with this key. -/
def get? (key : String) : Json → Option Json
  | .obj members => members.lookup key
  | _ => none

def texts (items : List String) : Json :=
  .arr (items.map .str)

/-- A member of an object that is left out when there is nothing to write. -/
def optional {α : Type} (key : String) (value : Option α) (write : α → Json) :
    List (String × Json) :=
  match value with
  | none => []
  | some v => [(key, write v)]

end Json

/-- A finite map with text keys: a list of pairs whose keys increase. -/
structure Table (α : Type) where
  entries : List (String × α)
  increasing : Increasing entries
deriving Repr

namespace Table

variable {α β : Type}

instance [BEq α] : BEq (Table α) := ⟨fun s t => s.entries == t.entries⟩

def empty : Table α :=
  ⟨[], List.Pairwise.nil⟩

instance : Inhabited (Table α) := ⟨empty⟩

/-- The map of some pairs; of two pairs with one key the later one counts. -/
def ofList (pairs : List (String × α)) : Table α :=
  ⟨sortEntries pairs, increasing_sortEntries pairs⟩

/-- The map with one more entry, which replaces an entry with the same key. -/
def insert (t : Table α) (key : String) (value : α) : Table α :=
  ⟨insertEntry key value t.entries, increasing_insertEntry t.increasing⟩

def get? (t : Table α) (key : String) : Option α :=
  t.entries.lookup key

def toJson (t : Table α) (write : α → Json) : Json :=
  .obj (t.entries.map fun (k, v) => (k, write v))

end Table

end ScenarioRunner

import Mathlib.Tactic.Common
import ScenarioRunner.Proofs.Document.Values

/-!
# Records that are written as JSON and read again

A record is written field by field, and fields without a value are left out.  It is read member by
member into a draft.  Both go through the fields in one order, so that what is written of a record says
what is read.

* `Record.Distinct` holds if fields are found by their names, whatever other names they have.
* `Record.Writes` relates the members written of some fields to what they make of a draft, with a rule
  for each kind of field.
* `Record.reads_of_writes`: so the record is read from these members.
* `Record.exists_draft_of_decode`: a condition on drafts that each field keeps holds of every record
  that is read.
* `Datum.depth_lt_of_mem`: what is written of the parts of a value is less deep than what is written
  of the value.
-/

namespace ScenarioRunner.Document

/-! ## Depth -/

namespace Datum

lemma depth_pos (v : Json) : 0 < (ofJson v).depth := by
  cases v <;> simp [ofJson, depth]

lemma depth_le_depthItems {items : List Json} {v : Json} (h : v ∈ items) :
    (ofJson v).depth ≤ depthItems (ofItems items) := by
  induction items with
  | nil => exact absurd h List.not_mem_nil
  | cons item items ih =>
      rw [ofItems, depthItems]
      rcases List.mem_cons.mp h with rfl | h
      · exact Nat.le_max_left _ _
      · exact (ih h).trans (Nat.le_max_right _ _)

lemma depth_le_depthMembers {members : List (String × Json)} {key : String} {v : Json}
    (h : (key, v) ∈ members) : (ofJson v).depth ≤ depthMembers (ofMembers members) := by
  induction members with
  | nil => exact absurd h List.not_mem_nil
  | cons member members ih =>
      rw [ofMembers, depthMembers]
      rcases List.mem_cons.mp h with rfl | h
      · exact Nat.le_max_left _ _
      · exact (ih h).trans (Nat.le_max_right _ _)

/-- **The items of a member are less deep than the object.** -/
lemma depth_lt_of_mem {members : List (String × Json)} {items : List Json} {key : String} {v : Json}
    (hmember : (key, .arr items) ∈ members) (hitem : v ∈ items) :
    (ofJson v).depth < (ofJson (.obj members)).depth := by
  have harr : (ofJson (.arr items)).depth = depthItems (ofItems items) + 1 := by rw [ofJson, depth]
  have hobj : (ofJson (.obj members)).depth = depthMembers (ofMembers members) + 1 := by
    rw [ofJson, depth]
  have hitems := depth_le_depthItems hitem
  have hmembers := depth_le_depthMembers hmember
  omega

end Datum

namespace Decode

variable {α β γ : Type}

namespace Record

variable {dialect : Dialect} {f : Field β} {fields all : List (Field β)}
  {members : List (String × Json)} {draft draft' draft'' : β} {v : Json} {x : γ}

/-! ## Reading what is written -/

/-- Each field is found by its name. -/
def Distinct (fields : List (Field β)) : Prop :=
  fields.map (fun f => place? fields f.name) = (List.range fields.length).map some

lemma Distinct.place?_eq (h : Distinct fields) {i : Nat} (hi : fields[i]? = some f) :
    place? fields f.name = some i := by
  obtain ⟨hlt, rfl⟩ := List.getElem?_eq_some_iff.mp hi
  have hplace := congrArg (·[i]?) h
  simpa [hlt] using hplace

/-- The members written of some fields in their order, and what they make of a draft.  Any field may be
left out. -/
inductive Writes (dialect : Dialect) :
    List (Field β) → List (String × Json) → β → β → Prop where
  | nil (draft : β) : Writes dialect [] [] draft draft
  | member {f : Field β} {fields : List (Field β)} {members : List (String × Json)} {v : Json}
    {draft draft' draft'' : β} (hread : f.read dialect (.ofJson v) draft = .ok draft')
    (hrest : Writes dialect fields members draft' draft'') :
    Writes dialect (f :: fields) ((f.name, v) :: members) draft draft''
  | absent {f : Field β} {fields : List (Field β)} {members : List (String × Json)} {draft draft' : β}
    (hrest : Writes dialect fields members draft draft') :
    Writes dialect (f :: fields) members draft draft'

namespace Writes

lemma required {name : String} {read : Decoder γ} {store : γ → β → β} (hread : Reads read v x)
    (hrest : Writes dialect fields members (store x draft) draft') :
    Writes dialect (Decode.required name read store :: fields) ((name, v) :: members) draft draft' := by
  have hdraft := congrArg (Except.map fun x => store x draft) (hread dialect)
  exact .member (f := Decode.required name read store) hdraft hrest

lemma defaulted {name : String} {read : Decoder γ} {store : γ → β → β} (hread : Reads read v x)
    (hrest : Writes dialect fields members (store x draft) draft') :
    Writes dialect (Decode.defaulted name read store :: fields) ((name, v) :: members) draft
      draft' := by
  have hdraft := congrArg (Except.map fun x => store x draft) (hread dialect)
  exact .member (f := Decode.defaulted name read store) hdraft hrest

/-- **A field without a value is left out**, and the draft has none before it is read. -/
lemma optional {name : String} {item : Decoder γ} {store : Option γ → β → β} {value : Option γ}
    {write : γ → Json} (hread : ∀ x, value = some x → Reads item (write x) x)
    (hnull : ∀ x, write x ≠ .null) (hnone : store none draft = draft)
    (hrest : Writes dialect fields members (store value draft) draft') :
    Writes dialect (Decode.defaulted name (Decode.optional item) store :: fields)
      (Json.optional name value write ++ members) draft draft' := by
  cases value with
  | none =>
      rw [hnone] at hrest
      exact .absent hrest
  | some x => exact .defaulted ((hread x rfl).optional (hnull x)) hrest

end Writes

/-- **What is written of fields is read**, if none of them was read before. -/
lemma readMembers_of_writes (hall : Distinct all) (h : Writes dialect fields members draft draft')
    (before : List (Field β)) (hbefore : all = before ++ fields) {seen : List Nat}
    (hseen : ∀ i ∈ seen, i < before.length) :
    readMembers all dialect seen (Datum.ofMembers members) draft = .ok draft' := by
  induction h generalizing before seen with
  | nil => rfl
  | @member f fields members v draft draft' draft'' hread _ ih =>
      have hf : all[before.length]? = some f := by simp [hbefore]
      have hnew : seen.contains before.length = false := by
        rw [← Bool.not_eq_true, List.contains_iff_mem]
        exact fun hmem => absurd (hseen _ hmem) (Nat.lt_irrefl _)
      have hname := Reads.stringAs "field identifier" f.name dialect
      rw [Datum.ofJson] at hname
      rw [Datum.ofMembers, readMembers]
      simp only [hname, hall.place?_eq hf, hf, hnew, hread, Bool.false_eq_true, if_false]
      refine ih (before ++ [f]) (by rw [hbefore, List.append_assoc]; rfl) ?_
      intro i hi
      rw [List.length_append, List.length_singleton]
      rcases List.mem_cons.mp hi with rfl | hi
      · exact Nat.lt_succ_self _
      · exact Nat.lt_succ_of_lt (hseen i hi)
  | @absent f fields members draft draft' _ ih =>
      refine ih (before ++ [f]) (by rw [hbefore, List.append_assoc]; rfl) ?_
      intro i hi
      rw [List.length_append, List.length_singleton]
      exact Nat.lt_succ_of_lt (hseen i hi)

/-- **A record is read from what is written of its fields.** -/
theorem reads_of_writes {r : Record β α} {x : α} (draft : β) (hnames : Distinct r.fields)
    (h : ∀ dialect, Writes dialect r.fields members r.start draft) (hx : r.finish draft = .ok x) :
    Reads r.decode (.obj members) x := by
  intro dialect
  have hnone : ∀ i ∈ ([] : List Nat), i < 0 := fun i hi => absurd hi List.not_mem_nil
  have hread := readMembers_of_writes hnames (h dialect) [] rfl hnone
  unfold decode
  rw [Datum.view_ofJson, Datum.ofJson]
  simp only [hread]
  exact hx

/-! ## What is read -/

/-- A field keeps a condition on drafts. -/
def Keeps (P : β → Prop) (f : Field β) : Prop :=
  ∀ {dialect : Dialect} {d : Datum} {draft draft' : β},
    P draft → f.read dialect d draft = .ok draft' → P draft'

section Keeps

variable {P : β → Prop}

/-- A field keeps what its value does not change, or is right about. -/
lemma keeps_of_store {f : Field β} {read : Decoder γ} {store : γ → β → β}
    (hf : f.read = fun dialect d draft => (read dialect d).map fun x => store x draft)
    (hstore : ∀ {dialect : Dialect} {d : Datum} {x : γ} {draft : β},
      read dialect d = .ok x → P draft → P (store x draft)) : Keeps P f := by
  intro dialect d draft draft' hdraft hread
  rw [hf] at hread
  obtain ⟨x, hx, rfl⟩ := map_eq_ok_iff.mp hread
  exact hstore hx hdraft

lemma keeps_of_readMembers (h : ∀ f ∈ fields, Keeps P f) {seen : List Nat}
    {members : List (Datum × Datum)} (hdraft : P draft)
    (hread : readMembers fields dialect seen members draft = .ok draft') : P draft' := by
  induction members generalizing seen draft with
  | nil =>
      obtain rfl := Except.ok.inj hread
      exact hdraft
  | cons member members ih =>
      rw [readMembers] at hread
      split at hread
      · exact absurd hread (by simp)
      split at hread
      · split at hread
        · exact ih hdraft hread
        · exact absurd hread (by simp)
      split at hread
      · exact absurd hread (by simp)
      split at hread
      · exact absurd hread (by simp)
      split at hread
      · exact absurd hread (by simp)
      · next f hf _ _ draft₁ hdraft₁ =>
        exact ih (h f (List.mem_of_getElem? hf) hdraft hdraft₁) hread

lemma keeps_of_readItems {name : String} {count length : Nat} (h : ∀ f ∈ fields, Keeps P f)
    {index : Nat} {items : List Datum} (hdraft : P draft)
    (hread : readItems name count dialect length index fields items draft = .ok draft') :
    P draft' := by
  induction fields generalizing index items draft with
  | nil =>
      cases items with
      | nil =>
          obtain rfl := Except.ok.inj hread
          exact hdraft
      | cons d items =>
          rw [readItems] at hread
          split at hread <;> exact absurd hread (by simp)
  | cons f fields ih =>
      obtain ⟨hf, hfields⟩ := List.forall_mem_cons.mp h
      cases items with
      | nil =>
          rw [readItems] at hread
          split at hread
          · exact absurd hread (by simp)
          · exact ih hfields hdraft hread
      | cons d items =>
          rw [readItems] at hread
          split at hread
          · exact absurd hread (by simp)
          · next draft₁ hdraft₁ => exact ih hfields (hf hdraft hdraft₁) hread

/-- **A condition that each field keeps** holds of the draft of every record that is read. -/
theorem exists_draft_of_decode {r : Record β α} {d : Datum} {x : α}
    (h : ∀ f ∈ r.fields, Keeps P f) (hstart : P r.start) (hread : r.decode dialect d = .ok x) :
    ∃ draft, P draft ∧ r.finish draft = .ok x := by
  unfold decode at hread
  split at hread
  · obtain ⟨draft, hdraft, hx⟩ := bind_eq_ok_iff.mp hread
    exact ⟨draft, keeps_of_readMembers h hstart hdraft, hx⟩
  · exact absurd hread (by simp)
  · exact absurd hread (by simp)
  · exact ⟨r.start, hstart, hread⟩
  · obtain ⟨draft, hdraft, hx⟩ := bind_eq_ok_iff.mp hread
    exact ⟨draft, keeps_of_readItems h hstart hdraft, hx⟩
  · obtain ⟨draft, hdraft, hx⟩ := bind_eq_ok_iff.mp hread
    exact ⟨draft, keeps_of_readItems h hstart hdraft, hx⟩
  · exact absurd hread Datum.mismatch_ne_ok

end Keeps

end Record

/-! ## Parts that are read -/

/-- A condition holds of all values that are read. -/
def Yields (item : Decoder γ) (P : γ → Prop) : Prop :=
  ∀ {dialect : Dialect} {d : Datum} {x : γ}, item dialect d = .ok x → P x

namespace Yields

variable {item : Decoder γ} {P : γ → Prop}

lemma optional (h : Yields item P) :
    Yields (Decode.optional item) fun value => ∀ x, value = some x → P x := by
  rintro dialect d _ hread x rfl
  unfold Decode.optional at hread
  split at hread
  · exact absurd (Except.ok.inj hread) (by simp)
  · obtain ⟨y, hy, hsome⟩ := map_eq_ok_iff.mp hread
    obtain rfl := Option.some.inj hsome
    exact h hy

lemma each (h : Yields item P) {dialect : Dialect} {items : List Datum} {xs : List γ}
    (hread : Decode.each item dialect items = .ok xs) : ∀ x ∈ xs, P x := by
  induction items generalizing xs with
  | nil =>
      obtain rfl := Except.ok.inj hread
      exact fun _ hx => absurd hx List.not_mem_nil
  | cons d items ih =>
      obtain ⟨x, hx, hread⟩ := bind_eq_ok_iff.mp hread
      obtain ⟨rest, hrest, hread⟩ := bind_eq_ok_iff.mp hread
      obtain rfl := Except.ok.inj hread
      exact List.forall_mem_cons.mpr ⟨h hx, ih hrest⟩

lemma list (h : Yields item P) : Yields (Decode.list item) fun xs => ∀ x ∈ xs, P x := by
  intro dialect d xs hread
  unfold Decode.list at hread
  split at hread
  · exact h.each hread
  · exact absurd hread (by simp)
  · obtain rfl := Except.ok.inj hread
    exact fun _ hx => absurd hx List.not_mem_nil
  · exact absurd hread Datum.mismatch_ne_ok

lemma pairs (h : Yields item P) {dialect : Dialect} {members : List (Datum × Datum)}
    {entries : List (String × γ)} (hread : Decode.pairs item dialect members = .ok entries) :
    ∀ entry ∈ entries, P entry.2 := by
  induction members generalizing entries with
  | nil =>
      obtain rfl := Except.ok.inj hread
      exact fun _ hentry => absurd hentry List.not_mem_nil
  | cons member members ih =>
      obtain ⟨k, -, hread⟩ := bind_eq_ok_iff.mp hread
      obtain ⟨x, hx, hread⟩ := bind_eq_ok_iff.mp hread
      obtain ⟨rest, hrest, hread⟩ := bind_eq_ok_iff.mp hread
      obtain rfl := Except.ok.inj hread
      exact List.forall_mem_cons.mpr ⟨h hx, ih hrest⟩

lemma table (h : Yields item P) :
    Yields (Decode.table item) fun t => ∀ entry ∈ t.entries, P entry.2 := by
  intro dialect d t hread
  unfold Decode.table at hread
  split at hread
  · obtain ⟨entries, hentries, rfl⟩ := map_eq_ok_iff.mp hread
    exact fun entry hentry => h.pairs hentries entry (mem_of_mem_sortEntries hentry)
  · exact absurd hread (by simp)
  · obtain rfl := Except.ok.inj hread
    exact fun _ hentry => absurd hentry List.not_mem_nil
  · exact absurd hread Datum.mismatch_ne_ok

end Yields

end Decode

end ScenarioRunner.Document

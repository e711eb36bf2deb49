import ScenarioRunner.Progress.Tracker
import ScenarioRunner.Proofs.Progress.SlotTree

/-!
# What the moves of a board come from

A board keeps a mark for every slot and the moves made so far.  Marks change in two ways only: a slot
starts, or it is closed.  This file says, slot by slot, what each operation does to the mark and which
moves it adds, so that what is proved of a pass never unfolds them.

* `Move.ofSlot` picks the moves of one slot.
* `Board.closing` is the move that closes a slot, if there is one.
* `Board.mark_startAll` and `Board.ofSlot_startAll`: starting some slots one after the other.
* `Board.start_eq`: climbing to a step and starting what has not started on the way is starting all
  steps around it, each unless it has started.
* `Board.mark_closeAll` and `Board.ofSlot_closeAll`: closing some slots one after the other.
-/

namespace ScenarioRunner

namespace Move

/-- The moves of a slot. -/
def ofSlot (i : Nat) (moves : List Move) : List Move :=
  moves.filter fun m => m.slot == i

@[simp] lemma ofSlot_nil (i : Nat) : ofSlot i [] = [] := rfl

@[simp] lemma ofSlot_append (i : Nat) (moves more : List Move) :
    ofSlot i (moves ++ more) = ofSlot i moves ++ ofSlot i more :=
  List.filter_append ..

lemma ofSlot_singleton (i : Nat) (m : Move) : ofSlot i [m] = if m.slot = i then [m] else [] := by
  simp [ofSlot, List.filter_cons]

lemma mem_ofSlot {i : Nat} {m : Move} {moves : List Move} :
    m ∈ ofSlot i moves ↔ m ∈ moves ∧ m.slot = i := by
  simp [ofSlot]

end Move

namespace Board

variable {b b' : Board} {slot : Slot} {i j : Nat}

/-! ## Marks -/

@[simp] lemma length_change (b : Board) (i : Nat) (f : Mark → Mark) :
    (b.change i f).marks.length = b.marks.length := by
  simp [change]

lemma mark_change (h : i < b.marks.length) (f : Mark → Mark) (j : Nat) :
    (b.change i f).mark j = if i = j then f (b.mark j) else b.mark j := by
  simp only [mark, change, List.getD_eq_getElem?_getD, List.getElem?_modify]
  split
  · next hij =>
    subst hij
    simp [List.getElem?_eq_getElem h]
  · simp

/-- What a change does to other marks than the one of its slot does not matter. -/
lemma change_congr {f g : Mark → Mark} (h : i < b.marks.length)
    (hfg : f (b.mark i) = g (b.mark i)) : b.change i f = b.change i g := by
  rw [mark, List.getD_eq_getElem?_getD, List.getElem?_eq_getElem h, Option.getD_some] at hfg
  rw [change, change]
  congr 1
  refine List.ext_getElem? fun j => ?_
  rw [List.getElem?_modify, List.getElem?_modify]
  by_cases hij : i = j
  · subst hij
    simp [List.getElem?_eq_getElem h, hfg]
  · simp [hij]

lemma change_id (b : Board) (i : Nat) : b.change i (fun m => m) = b := by
  rw [change]
  congr 1
  exact List.modify_id ..

/-- The marks of two boards agree except for what is closed. -/
def SameProgress (b b' : Board) : Prop :=
  ∀ i, (b.mark i).started = (b'.mark i).started ∧ (b.mark i).held = (b'.mark i).held

/-! ## Starting -/

/-- Starts a step, unless it has started. -/
def ensure (b : Board) (i : Nat) : Board :=
  if (b.mark i).started then b else b.begin i

/-- Starts the steps around a step, the outermost first, and the step, each unless it has started. -/
def startWithin (b : Board) (ancestors : List Nat) (i : Nat) : Board :=
  (ancestors ++ [i]).foldl ensure b

@[simp] lemma length_ensure (b : Board) (i : Nat) :
    (b.ensure i).marks.length = b.marks.length := by
  unfold ensure
  split
  · rfl
  · simp [begin, add]

lemma mark_ensure (h : i < b.marks.length) (j : Nat) :
    (b.ensure i).mark j = if i = j then { b.mark j with started := true } else b.mark j := by
  unfold ensure
  split
  · next hstarted =>
    split
    · next hij =>
      subst hij
      simp [← hstarted]
    · rfl
  · exact mark_change h _ j

lemma moves_ensure (b : Board) (i : Nat) :
    (b.ensure i).moves = b.moves ++ if (b.mark i).started then [] else [.started i] := by
  unfold ensure
  split
  · simp
  · rfl

/-- Starting some slots marks them as started and changes nothing else. -/
theorem mark_startAll {indices : List Nat} (h : ∀ j ∈ indices, j < b.marks.length) (i : Nat) :
    (indices.foldl ensure b).mark i
      = if i ∈ indices then { b.mark i with started := true } else b.mark i := by
  induction indices generalizing b with
  | nil => simp
  | cons j indices ih =>
      have hj : j < b.marks.length := h j List.mem_cons_self
      rw [List.foldl_cons, ih (fun l hl => by simpa using h l (List.mem_cons_of_mem _ hl)),
        mark_ensure hj]
      by_cases hij : j = i
      · simp [hij]
      · simp [hij, Ne.symm hij]

lemma length_startAll (indices : List Nat) (b : Board) :
    (indices.foldl ensure b).marks.length = b.marks.length := by
  induction indices generalizing b with
  | nil => rfl
  | cons j indices ih => rw [List.foldl_cons, ih, length_ensure]

/-- Starting slots that have started does nothing. -/
lemma startAll_eq_self {indices : List Nat} (h : ∀ j ∈ indices, (b.mark j).started = true) :
    indices.foldl ensure b = b := by
  induction indices with
  | nil => rfl
  | cons j indices ih =>
      rw [List.foldl_cons, ensure, if_pos (h j List.mem_cons_self)]
      exact ih fun l hl => h l (List.mem_cons_of_mem _ hl)

/-- Starting some slots adds one move for each that has not started. -/
theorem ofSlot_startAll {indices : List Nat} (h : ∀ j ∈ indices, j < b.marks.length) (i : Nat) :
    Move.ofSlot i (indices.foldl ensure b).moves
      = Move.ofSlot i b.moves ++
          if i ∈ indices ∧ (b.mark i).started = false then [.started i] else [] := by
  induction indices generalizing b with
  | nil => simp
  | cons j indices ih =>
      have hj : j < b.marks.length := h j List.mem_cons_self
      rw [List.foldl_cons, ih (fun l hl => by simpa using h l (List.mem_cons_of_mem _ hl)),
        mark_ensure hj, moves_ensure, Move.ofSlot_append, List.append_assoc]
      congr 1
      by_cases hij : j = i
      · subst hij
        cases hstarted : (b.mark j).started <;> simp [Move.ofSlot_singleton, Move.slot]
      · cases hstarted : (b.mark j).started <;>
          simp [Move.ofSlot_singleton, Move.slot, hij, Ne.symm hij]

/-! ## Climbing -/

/-- Starting other slots does not start this one. -/
lemma mark_startAll_of_not_mem {indices : List Nat} (h : i ∉ indices) :
    (indices.foldl ensure b).mark i = b.mark i := by
  induction indices generalizing b with
  | nil => rfl
  | cons j indices ih =>
      rw [List.mem_cons, not_or] at h
      obtain ⟨hne, hrest⟩ := h
      rw [List.foldl_cons, ih hrest, ensure]
      split
      · rfl
      · simp only [begin, add, change, mark, List.getD_eq_getElem?_getD, List.getElem?_modify,
          if_neg (Ne.symm hne)]
        cases b.marks[i]? <;> rfl

lemma ensure_of_not_started (h : (b.mark i).started = false) : b.ensure i = b.begin i := by
  rw [ensure, h]
  rfl

/-- A step has started only if the steps around it have. -/
def Rooted (scenario : Node) (b : Board) : Prop :=
  ∀ {i slot}, (Slot.ofScenario scenario)[i]? = some slot → (b.mark i).started = true →
    ∀ a ∈ slot.ancestors scenario, (b.mark a).started = true

/-- **Climbing stops early**: where a step around has started, so have all those around that.  Hence the
climb starts what is not started among the steps around a step and the step itself. -/
theorem start_eq {scenario : Node} (hrooted : b.Rooted scenario)
    (hslot : (Slot.ofScenario scenario)[i]? = some slot) (hstarted : (b.mark i).started = false) :
    b.start (Slot.ofScenario scenario) slot.path.length i =
      b.startWithin (slot.ancestors scenario) i := by
  -- induction on the depth: the step around is one level up
  generalize hdepth : slot.path.length = depth
  induction depth generalizing i slot with
  | zero => exact absurd (List.eq_nil_of_length_eq_zero hdepth) (Slot.path_ne_nil hslot)
  | succ depth ih =>
      rw [start, hslot, Option.bind_some, startWithin, List.foldl_concat]
      rcases Slot.parent?_spec hslot with ⟨hnone, rank, hpath⟩ |
        ⟨p, above, rank, -, habove, hsome, hpath⟩
      · rw [hnone, Slot.ancestors_of_top hslot hpath, List.foldl_nil,
          ensure_of_not_started hstarted]
      · have hancestors := Slot.ancestors_of_parent hslot habove hpath
        have hnot : i ∉ slot.ancestors scenario := fun hmem =>
          Nat.lt_irrefl i ((Slot.mem_ancestors_iff hslot).mp hmem).choose_spec.2.1
        rw [hsome, ensure_of_not_started (by rw [mark_startAll_of_not_mem hnot, hstarted])]
        dsimp only
        congr 1
        rw [hancestors]
        cases hparent : (b.mark p).started with
        | true =>
            rw [if_pos rfl, startAll_eq_self fun a ha => ?_]
            rcases List.mem_append.mp ha with ha | ha
            · exact hrooted habove hparent a ha
            · rwa [List.mem_singleton.mp ha]
        | false =>
            rw [if_neg Bool.false_ne_true]
            refine ih habove hparent ?_
            rw [hpath, List.length_append, List.length_singleton] at hdepth
            omega

/-! ## Closing -/

/-- The move that closes a slot: it finishes if it has started, and is skipped if only the step
around it has. -/
def closing (b : Board) (slot : Slot) (i : Nat) (result : StepReport → NodeResult) : List Move :=
  if (b.mark i).started then [.finished i (result (b.mark i).held)]
  else if b.parentStarted slot then [.skipped i "not executed"]
  else []

/-- A slot that finishes when it is closed has the result of what is held on it. -/
lemma result_of_closing {result : NodeResult} {f : StepReport → NodeResult}
    (h : .finished i result ∈ b.closing slot i f) : result = f (b.mark i).held := by
  unfold closing at h
  split at h
  · exact (Move.finished.inj (List.mem_singleton.mp h)).2
  · split at h
    · exact absurd (List.mem_singleton.mp h) Move.noConfusion
    · exact absurd h List.not_mem_nil

lemma parentStarted_congr (h : SameProgress b b') (slot : Slot) :
    b.parentStarted slot = b'.parentStarted slot := by
  unfold parentStarted
  split
  · exact (h _).1
  · rfl

/-- What closes a slot does not depend on what else is closed. -/
lemma closing_congr (h : SameProgress b b') (slot : Slot) (i : Nat)
    (result : StepReport → NodeResult) :
    b.closing slot i result = b'.closing slot i result := by
  rw [closing, closing, parentStarted_congr h, (h i).1, (h i).2]

lemma ofSlot_closing (b : Board) (slot : Slot) (i j : Nat) (result : StepReport → NodeResult) :
    Move.ofSlot i (b.closing slot j result) = if j = i then b.closing slot j result else [] := by
  unfold closing
  by_cases hji : j = i <;> cases (b.mark j).started <;> cases b.parentStarted slot <;>
    simp [Move.ofSlot_singleton, Move.slot, hji]

lemma moves_close (b : Board) (slot : Slot) (i : Nat) (result : StepReport → NodeResult) :
    (b.close slot i result).moves
      = b.moves ++ if (b.mark i).closed then [] else b.closing slot i result := by
  simp only [close, closing, add]
  split
  · simp
  · split
    · rfl
    · split
      · rfl
      · simp [change]

@[simp] lemma length_close (b : Board) (slot : Slot) (i : Nat)
    (result : StepReport → NodeResult) :
    (b.close slot i result).marks.length = b.marks.length := by
  simp only [close, add]
  split
  · rfl
  · split
    · simp
    · split <;> simp

lemma mark_close (h : i < b.marks.length) (slot : Slot) (result : StepReport → NodeResult)
    (j : Nat) :
    (b.close slot i result).mark j
      = if i = j then { b.mark j with closed := true } else b.mark j := by
  simp only [close]
  split
  · next hclosed =>
    split
    · next hij =>
      subst hij
      simp [← hclosed]
    · rfl
  · have hmark := mark_change h (fun m => { m with closed := true }) j
    split
    · exact hmark
    · split
      · exact hmark
      · exact hmark

lemma sameProgress_close (h : i < b.marks.length) (slot : Slot)
    (result : StepReport → NodeResult) : SameProgress (b.close slot i result) b := by
  intro j
  rw [mark_close h]
  split <;> exact ⟨rfl, rfl⟩

section CloseAll

open Tracker (closeAll resultOf)

variable {slots : List Slot} {last : Option ExecutionReport} {failure : Option String}
  {indices : List Nat}

lemma closeAll_cons (hslot : slots[i]? = some slot) :
    closeAll slots last failure (i :: indices) b
      = closeAll slots last failure indices (b.close slot i (resultOf last failure slot)) := by
  simp only [closeAll, List.foldl_cons, hslot]

lemma closeAll_append (more : List Nat) :
    closeAll slots last failure (indices ++ more) b
      = closeAll slots last failure more (closeAll slots last failure indices b) :=
  List.foldl_append ..

lemma length_closeAll (indices : List Nat) (b : Board) :
    (closeAll slots last failure indices b).marks.length = b.marks.length := by
  induction indices generalizing b with
  | nil => rfl
  | cons j indices ih =>
      simp only [closeAll, List.foldl_cons] at ih ⊢
      rw [ih]
      split
      · exact length_close ..
      · rfl

/-- Closing some slots marks them as closed and changes nothing else. -/
theorem mark_closeAll (hlen : slots.length = b.marks.length)
    (h : ∀ j ∈ indices, j < slots.length) (i : Nat) :
    (closeAll slots last failure indices b).mark i
      = if i ∈ indices then { b.mark i with closed := true } else b.mark i := by
  induction indices generalizing b with
  | nil => simp [closeAll]
  | cons j indices ih =>
      have hj : j < slots.length := h j List.mem_cons_self
      rw [closeAll_cons (List.getElem?_eq_getElem hj),
        ih (by rw [length_close, hlen]) (fun l hl => h l (List.mem_cons_of_mem _ hl)),
        mark_close (hlen ▸ hj)]
      by_cases hij : j = i
      · simp [hij]
      · simp [hij, Ne.symm hij]

lemma sameProgress_closeAll (hlen : slots.length = b.marks.length)
    (h : ∀ j ∈ indices, j < slots.length) :
    SameProgress (closeAll slots last failure indices b) b := by
  intro i
  rw [mark_closeAll hlen h]
  split <;> exact ⟨rfl, rfl⟩

/-- Closing some slots adds the closing move of each that is not closed. -/
theorem ofSlot_closeAll (hlen : slots.length = b.marks.length)
    (h : ∀ j ∈ indices, j < slots.length) (hslot : slots[i]? = some slot) :
    Move.ofSlot i (closeAll slots last failure indices b).moves
      = Move.ofSlot i b.moves ++
          if i ∈ indices ∧ (b.mark i).closed = false
          then b.closing slot i (resultOf last failure slot) else [] := by
  induction indices generalizing b with
  | nil => simp [closeAll]
  | cons j indices ih =>
      have hj : j < slots.length := h j List.mem_cons_self
      have hj' := List.getElem?_eq_getElem hj
      rw [closeAll_cons hj', ih (by rw [length_close, hlen])
          (fun l hl => h l (List.mem_cons_of_mem _ hl)), mark_close (hlen ▸ hj),
        closing_congr (sameProgress_close (hlen ▸ hj) _ _), moves_close, Move.ofSlot_append,
        List.append_assoc]
      congr 1
      by_cases hij : j = i
      · subst hij
        obtain rfl : slots[j] = slot := Option.some.inj (hj'.symm.trans hslot)
        cases hclosed : (b.mark j).closed <;> simp [ofSlot_closing]
      · cases hclosed : (b.mark j).closed <;> simp [ofSlot_closing, hij, Ne.symm hij]

end CloseAll

end Board

end ScenarioRunner

import ScenarioRunner.Proofs.Progress.Lifecycle

/-!
# The moves of a run are nested like its steps

Starting a step starts the steps around it first, and closing one closes what lies below it first.
This file says what that comes to over a whole run, whatever its snapshots show.

* `Slot.Below`: a step lies below another one.
* `Move.Follows`: what a move asks of the moves in front of it, and `Move.Nested`: every move of a
  list fits behind those in front of it.
* `Board.Records` is the invariant of a run: the marks agree with a nested list of moves.
  `Board.Records.startWithin` and `Board.Records.closeAll` pass it on, and with it every visit of a
  step does.
* `Tracker.nested_movesOver`: the moves of a run are nested, and `Tracker.wellNested_movesOver` reads
  the law off them.

A step that was skipped with one around it can start later.  The law does not exclude that: it says
that a skip is never behind a start, not that nothing is behind a skip.
-/

namespace ScenarioRunner

namespace Slot

/-- The step of a slot lies below the step of another one. -/
def Below (scenario : Node) (i a : Nat) : Prop :=
  ∃ s t, (ofScenario scenario)[i]? = some s ∧ (ofScenario scenario)[a]? = some t ∧
    t.path <+: s.path ∧ t.path ≠ s.path

variable {scenario : Node} {i j a : Nat} {s t : Slot}

lemma below_iff (hs : (ofScenario scenario)[i]? = some s)
    (ht : (ofScenario scenario)[a]? = some t) : Below scenario i a ↔ a < i ∧ i < t.stop := by
  constructor
  · rintro ⟨s', t', hs', ht', hprefix, hne⟩
    obtain rfl : s = s' := Option.some.inj (hs.symm.trans hs')
    obtain rfl : t = t' := Option.some.inj (ht.symm.trans ht')
    obtain ⟨hle, hstop⟩ := (path_prefix_iff ht hs).mp hprefix
    refine ⟨Nat.lt_of_le_of_ne hle ?_, hstop⟩
    rintro rfl
    obtain rfl : s = t := Option.some.inj (hs.symm.trans ht)
    exact hne rfl
  · rintro ⟨hlt, hstop⟩
    refine ⟨s, t, hs, ht, (path_prefix_iff ht hs).mpr ⟨Nat.le_of_lt hlt, hstop⟩, fun heq => ?_⟩
    exact absurd (path_injective ht hs heq) (Nat.ne_of_lt hlt)

lemma Below.lt (h : Below scenario i a) : a < i := by
  obtain ⟨s, t, hs, ht, -⟩ := id h
  exact ((below_iff hs ht).mp h).1

lemma Below.trans (h : Below scenario i j) (h' : Below scenario j a) : Below scenario i a := by
  obtain ⟨s, t, hs, ht, hbelow, hne⟩ := h
  obtain ⟨t', u, ht', hu, hbelow', -⟩ := h'
  obtain rfl : t = t' := Option.some.inj (ht.symm.trans ht')
  refine ⟨s, u, hs, hu, hbelow'.trans hbelow, fun heq => hne ?_⟩
  exact hbelow.eq_of_length_le (heq ▸ hbelow'.length_le)

/-- The slots around a slot are those that it lies below. -/
lemma mem_ancestors_iff_below (hs : (ofScenario scenario)[i]? = some s) :
    a ∈ s.ancestors scenario ↔ Below scenario i a := by
  rw [mem_ancestors_iff hs]
  constructor
  · rintro ⟨t, ht, hlt, hstop⟩
    exact (below_iff hs ht).mpr ⟨hlt, hstop⟩
  · intro h
    obtain ⟨-, t, -, ht, -⟩ := id h
    exact ⟨t, ht, (below_iff hs ht).mp h⟩

end Slot

namespace Move

/-- The move finishes or skips a step. -/
def ends (i : Nat) : Move → Bool
  | started _ => false
  | finished j _ => j == i
  | skipped j _ => j == i

/-- Neither the step nor one around it has ended. -/
def Open (scenario : Node) (moves : List Move) (i : Nat) : Prop :=
  ∀ m ∈ moves, m.ends i = false ∧ ∀ a, Slot.Below scenario i a → m.ends a = false

/-- What a move asks of the moves in front of it. -/
def Follows (scenario : Node) (moves : List Move) : Move → Prop
  | started i => .started i ∉ moves ∧ ∀ a, Slot.Below scenario i a → .started a ∈ moves
  | finished i _ => .started i ∈ moves ∧ Open scenario moves i
  | skipped i _ => .started i ∉ moves ∧ Open scenario moves i

/-- A move of a step of the scenario fits behind some moves. -/
structure Fits (scenario : Node) (moves : List Move) (m : Move) : Prop where
  slot_lt : m.slot < (Slot.ofScenario scenario).length
  follows : Follows scenario moves m

/-- Every move fits behind those in front of it. -/
def Nested (scenario : Node) (moves : List Move) : Prop :=
  ∀ before m after, moves = before ++ m :: after → Fits scenario before m

variable {scenario : Node} {moves before after : List Move} {m m' : Move} {i a : Nat}
  {result : NodeResult} {reason : String}

lemma nested_nil : Nested scenario [] := by
  intro before m after h
  exact absurd h (by simp)

/-- A nested list goes on with a move that fits. -/
lemma Nested.concat (h : Nested scenario moves) (hm : Fits scenario moves m) :
    Nested scenario (moves ++ [m]) := by
  intro before m' after heq
  rcases cases_of_concat_eq heq with ⟨rfl, rfl⟩ | ⟨after', heq⟩
  · exact hm
  · exact h before m' after' heq

/-- A move that ends a step fits only while the step and those around it are open. -/
lemma Fits.isOpen (h : Fits scenario before m) (hends : m.ends i = true) :
    Open scenario before i := by
  cases m with
  | started j => exact absurd hends (by simp [ends])
  | finished j result =>
      obtain rfl : j = i := by simpa [ends] using hends
      exact h.follows.2
  | skipped j reason =>
      obtain rfl : j = i := by simpa [ends] using hends
      exact h.follows.2

/-- Nothing is behind the end of a step that ends it or a step below it. -/
lemma Nested.ends_eq_false (h : Nested scenario moves) (heq : moves = before ++ m :: after)
    (hends : m.ends a = true) (hm' : m' ∈ after) :
    m'.ends a = false ∧ ∀ i, Slot.Below scenario i a → m'.ends i = false := by
  obtain ⟨middle, late, rfl⟩ := List.append_of_mem hm'
  have hfits : Fits scenario (before ++ m :: middle) m' := by
    refine h _ m' late ?_
    rw [heq, List.append_assoc, List.cons_append]
  have hin : m ∈ before ++ m :: middle := by simp
  constructor
  · refine Bool.eq_false_iff.mpr fun hagain => ?_
    exact absurd hends (by simp [(hfits.isOpen hagain m hin).1])
  · refine fun i hbelow => Bool.eq_false_iff.mpr fun hlater => ?_
    exact absurd hends (by simp [(hfits.isOpen hlater m hin).2 a hbelow])

/-- A move is made at most once if it never stands behind one like it. -/
lemma countP_le_one {p : Move → Bool} (h : ∀ before m after, moves = before ++ m :: after →
    p m = true → ∀ m' ∈ after, p m' = false) : moves.countP p ≤ 1 := by
  induction moves with
  | nil => simp
  | cons m moves ih =>
      have hrest : moves.countP p ≤ 1 :=
        ih fun before m' after heq => h (m :: before) m' after (by rw [heq, List.cons_append])
      cases hm : p m with
      | false => rwa [List.countP_cons_of_neg (by simp [hm])]
      | true =>
          have hnone : moves.countP p = 0 :=
            List.countP_eq_zero.mpr fun m' hm' => by simp [h [] m moves rfl hm m' hm']
          exact Nat.le_of_eq ((List.countP_cons_of_pos hm).trans (congrArg (· + 1) hnone))

/-- **The law of nesting**: what the order of the moves of a run is like. -/
structure WellNested (scenario : Node) (moves : List Move) : Prop where
  /-- Only steps of the scenario move. -/
  slot_lt : ∀ m ∈ moves, m.slot < (Slot.ofScenario scenario).length
  /-- A step starts at most once. -/
  starts_once : ∀ i, moves.countP (· == .started i) ≤ 1
  /-- A step is finished or skipped at most once. -/
  ends_once : ∀ i, moves.countP (ends i) ≤ 1
  /-- A step starts after every step around it. -/
  starts_within : ∀ before i after, moves = before ++ .started i :: after →
    ∀ a, Slot.Below scenario i a → .started a ∈ before
  /-- A step finishes after it has started. -/
  finishes_started : ∀ before i result after, moves = before ++ .finished i result :: after →
    .started i ∈ before
  /-- A step is not skipped after it has started. -/
  skips_unstarted : ∀ before i reason after, moves = before ++ .skipped i reason :: after →
    .started i ∉ before
  /-- When a step ends, nothing below it ends later. -/
  ends_behind : ∀ before m after a, moves = before ++ m :: after → m.ends a = true →
    ∀ i, Slot.Below scenario i a → ∀ m' ∈ after, m'.ends i = false
  /-- What ends below a step that finishes has ended before. -/
  finishes_last : ∀ before a result after, moves = before ++ .finished a result :: after →
    ∀ i, Slot.Below scenario i a → ∀ m' ∈ moves, m'.ends i = true → m' ∈ before

theorem Nested.wellNested (h : Nested scenario moves) : WellNested scenario moves where
  slot_lt m hm := by
    obtain ⟨before, after, heq⟩ := List.append_of_mem hm
    exact (h before m after heq).slot_lt
  starts_once i := by
    refine countP_le_one fun before m after heq hm m' hm' => Bool.eq_false_iff.mpr fun hagain => ?_
    obtain rfl : m = .started i := by simpa using hm
    obtain rfl : m' = .started i := by simpa using hagain
    obtain ⟨middle, late, rfl⟩ := List.append_of_mem hm'
    have hfits := h (before ++ .started i :: middle) (.started i) late
      (by rw [heq, List.append_assoc, List.cons_append])
    exact hfits.follows.1 (by simp)
  ends_once i :=
    countP_le_one fun _ _ _ heq hm _ hm' => (h.ends_eq_false heq hm hm').1
  starts_within before i after heq := (h before _ after heq).follows.2
  finishes_started before i result after heq := (h before _ after heq).follows.1
  skips_unstarted before i reason after heq := (h before _ after heq).follows.1
  ends_behind before m after a heq hends i hbelow m' hm' :=
    (h.ends_eq_false heq hends hm').2 i hbelow
  finishes_last before a result after heq i hbelow m' hm' hends := by
    have hself : (finished a result).ends a = true := by simp [ends]
    rw [heq, List.mem_append, List.mem_cons] at hm'
    rcases hm' with hbefore | rfl | hafter
    · exact hbefore
    · have : a = i := by simpa [ends] using hends
      exact absurd hbelow.lt (by omega)
    · exact absurd hends (by simp [(h.ends_eq_false heq hself hafter).2 i hbelow])

/-- The move that ends a step is the only one that does. -/
lemma WellNested.ends_eq_false (h : WellNested scenario moves) (heq : moves = before ++ m :: after)
    (hends : m.ends a = true) (hm' : m' ∈ before ++ after) : m'.ends a = false := by
  have honce := h.ends_once a
  rw [heq, List.countP_append, List.countP_cons_of_pos hends] at honce
  have hnone : (before ++ after).countP (ends a) = 0 := by
    rw [List.countP_append]
    omega
  exact Bool.eq_false_iff.mpr (List.countP_eq_zero.mp hnone m' hm')

end Move

namespace Board

variable {scenario : Node} {early : List Move} {b : Board} {i : Nat} {slot : Slot}

/-- The board agrees with a nested list of moves: those made before it, and its own. -/
structure Records (scenario : Node) (early : List Move) (b : Board) : Prop where
  length_marks : b.marks.length = (Slot.ofScenario scenario).length
  started_iff : ∀ i, (b.mark i).started = true ↔ .started i ∈ early ++ b.moves
  /-- A step that has ended is closed with everything below it. -/
  closed : ∀ m ∈ early ++ b.moves, ∀ a, m.ends a = true →
    (b.mark a).closed = true ∧ ∀ i, Slot.Below scenario i a → (b.mark i).closed = true
  nested : Move.Nested scenario (early ++ b.moves)

namespace Records

/-- A step that is not closed is open, and so are the steps around it. -/
lemma isOpen (h : Records scenario early b) (hopen : (b.mark i).closed = false) :
    Move.Open scenario (early ++ b.moves) i := by
  refine fun m hm => ⟨Bool.eq_false_iff.mpr fun hends => ?_, fun a hbelow =>
    Bool.eq_false_iff.mpr fun hends => ?_⟩
  · exact absurd (h.closed m hm i hends).1 (by simp [hopen])
  · exact absurd ((h.closed m hm a hends).2 i hbelow) (by simp [hopen])

lemma lt_length (h : Records scenario early b)
    (hslot : (Slot.ofScenario scenario)[i]? = some slot) : i < b.marks.length := by
  rw [h.length_marks]
  exact (List.getElem?_eq_some_iff.mp hslot).1

lemma around_lt (h : Records scenario early b)
    (hslot : (Slot.ofScenario scenario)[i]? = some slot) :
    ∀ j ∈ slot.ancestors scenario ++ [i], j < b.marks.length := fun _ hj =>
  Nat.lt_of_le_of_lt (Slot.le_of_mem_ancestors_concat hslot hj) (h.lt_length hslot)

/-- A step has started only if the steps around it have. -/
lemma started_of_below (h : Records scenario early b) {a : Nat} (hbelow : Slot.Below scenario i a)
    (hstarted : (b.mark i).started = true) : (b.mark a).started = true := by
  obtain ⟨before, after, heq⟩ := List.append_of_mem ((h.started_iff i).mp hstarted)
  have hfits := h.nested before _ after heq
  rw [h.started_iff a, heq]
  exact List.mem_append_left _ (hfits.follows.2 a hbelow)

lemma rooted (h : Records scenario early b) : b.Rooted scenario := fun hs hstarted _ ha =>
  h.started_of_below ((Slot.mem_ancestors_iff_below hs).mp ha) hstarted

/-- What is known of the moves is kept when neither starts nor ends are marked. -/
lemma change (h : Records scenario early b) (hi : i < b.marks.length) {f : Mark → Mark}
    (hstarted : ∀ m, (f m).started = m.started) (hclosed : ∀ m, (f m).closed = m.closed) :
    Records scenario early (b.change i f) := by
  have hmark : ∀ j, ((b.change i f).mark j).started = (b.mark j).started ∧
      ((b.change i f).mark j).closed = (b.mark j).closed := by
    intro j
    rw [mark_change hi]
    split
    · exact ⟨hstarted _, hclosed _⟩
    · exact ⟨rfl, rfl⟩
  refine ⟨by rw [length_change, h.length_marks], fun j => ?_, fun m hm a hends => ?_, h.nested⟩
  · rw [(hmark j).1]
    exact h.started_iff j
  · rw [(hmark a).2]
    exact ⟨(h.closed m hm a hends).1, fun j hbelow => by
      rw [(hmark j).2]
      exact (h.closed m hm a hends).2 j hbelow⟩

/-! ## Starting -/

/-- A step starts when the steps around it have started. -/
lemma ensure (h : Records scenario early b) (hi : i < b.marks.length)
    (haround : ∀ a, Slot.Below scenario i a → (b.mark a).started = true) :
    Records scenario early (b.ensure i) := by
  by_cases hstarted : (b.mark i).started = true
  · rwa [Board.ensure, if_pos hstarted]
  have hmoves : early ++ (b.ensure i).moves = (early ++ b.moves) ++ [.started i] := by
    rw [moves_ensure, if_neg hstarted, List.append_assoc]
  refine ⟨by rw [length_ensure, h.length_marks], fun j => ?_, fun m hm a hends => ?_, ?_⟩
  · rw [hmoves, mark_ensure hi, List.mem_append, List.mem_singleton, Move.started.injEq,
      ← h.started_iff]
    by_cases hij : i = j
    · simp [hij]
    · simp [hij, Ne.symm hij]
  · have hclosed : ∀ j, ((b.ensure i).mark j).closed = (b.mark j).closed := by
      intro j
      rw [mark_ensure hi]
      split <;> rfl
    rw [hmoves, List.mem_append, List.mem_singleton] at hm
    rcases hm with hm | rfl
    · simp only [hclosed]
      exact h.closed m hm a hends
    · exact absurd hends (by simp [Move.ends])
  · rw [hmoves]
    refine h.nested.concat ⟨h.length_marks ▸ hi, fun hin => hstarted ((h.started_iff i).mpr hin),
      fun a hbelow => ?_⟩
    exact (h.started_iff a).mp (haround a hbelow)

/-- Some steps start one after the other, each behind those around it. -/
lemma startAll {indices : List Nat} (h : Records scenario early b)
    (hlt : ∀ j ∈ indices, j < b.marks.length) (hsorted : indices.Pairwise (· < ·))
    (haround : ∀ j ∈ indices, ∀ a, Slot.Below scenario j a →
      a ∈ indices ∨ (b.mark a).started = true) :
    Records scenario early (indices.foldl Board.ensure b) := by
  induction indices generalizing b with
  | nil => exact h
  | cons j rest ih =>
      obtain ⟨hfirst, hrest⟩ := List.pairwise_cons.mp hsorted
      have hj : j < b.marks.length := hlt j List.mem_cons_self
      rw [List.foldl_cons]
      refine ih (h.ensure hj fun a hbelow => ?_) (fun l hl => ?_) hrest fun l hl a hbelow => ?_
      · rcases haround j List.mem_cons_self a hbelow with hin | hstarted
        · rcases List.mem_cons.mp hin with rfl | hin
          · exact absurd hbelow.lt (Nat.lt_irrefl a)
          · exact absurd hbelow.lt (Nat.lt_asymm (hfirst a hin))
        · exact hstarted
      · rw [length_ensure]
        exact hlt l (List.mem_cons_of_mem _ hl)
      · rw [mark_ensure hj]
        rcases haround l (List.mem_cons_of_mem _ hl) a hbelow with hin | hstarted
        · rcases List.mem_cons.mp hin with rfl | hin
          · exact Or.inr (by simp)
          · exact Or.inl hin
        · right
          split
          · rfl
          · exact hstarted

/-- **A step starts** behind the steps around it. -/
theorem startWithin (h : Records scenario early b)
    (hslot : (Slot.ofScenario scenario)[i]? = some slot) :
    Records scenario early (b.startWithin (slot.ancestors scenario) i) := by
  have hmem : ∀ {j}, j ∈ slot.ancestors scenario ++ [i] ↔ Slot.Below scenario i j ∨ j = i := by
    intro j
    rw [List.mem_append, List.mem_singleton, Slot.mem_ancestors_iff_below hslot]
  refine h.startAll (h.around_lt hslot) (Slot.pairwise_ancestors_concat hslot)
    fun j hj a hbelow => Or.inl (hmem.mpr (Or.inl ?_))
  rcases hmem.mp hj with hj | rfl
  · exact hj.trans hbelow
  · exact hbelow

/-! ## Closing -/

/-- A step is closed when everything below it is. -/
lemma close (h : Records scenario early b) (hi : i < b.marks.length)
    (hbelow : ∀ j, Slot.Below scenario j i → (b.mark j).closed = true) (slot : Slot)
    (result : StepReport → NodeResult) : Records scenario early (b.close slot i result) := by
  have hstarted : ∀ j, ((b.close slot i result).mark j).started = (b.mark j).started := by
    intro j
    rw [mark_close hi]
    split <;> rfl
  have hkept : ∀ j, (b.mark j).closed = true →
      ((b.close slot i result).mark j).closed = true := by
    intro j hj
    rw [mark_close hi]
    split
    · rfl
    · exact hj
  have hself : ((b.close slot i result).mark i).closed = true := by
    rw [mark_close hi, if_pos rfl]
  have hlt : i < (Slot.ofScenario scenario).length := h.length_marks ▸ hi
  -- what the step adds ends the step and fits, or it is nothing
  have hmoves : (b.close slot i result).moves = b.moves ∨ ∃ m,
      (b.close slot i result).moves = b.moves ++ [m] ∧ (∀ j, m ≠ .started j) ∧
        (∀ a, m.ends a = true → a = i) ∧ Move.Fits scenario (early ++ b.moves) m := by
    rw [moves_close, closing]
    by_cases hclosed : (b.mark i).closed = true
    · exact Or.inl (by rw [if_pos hclosed, List.append_nil])
    · have hopen := h.isOpen (Bool.eq_false_iff.mpr hclosed)
      rw [if_neg hclosed]
      by_cases hstart : (b.mark i).started = true
      · refine Or.inr ⟨.finished i (result (b.mark i).held), by rw [if_pos hstart], by simp,
          fun a ha => (beq_iff_eq.mp ha).symm, hlt, (h.started_iff i).mp hstart, hopen⟩
      · rw [if_neg hstart]
        split
        · refine Or.inr ⟨.skipped i "not executed", rfl, by simp,
            fun a ha => (beq_iff_eq.mp ha).symm, hlt,
            fun hin => hstart ((h.started_iff i).mpr hin), hopen⟩
        · exact Or.inl (List.append_nil _)
  have hclosed : ∀ m ∈ early ++ b.moves, ∀ a, m.ends a = true →
      ((b.close slot i result).mark a).closed = true ∧
        ∀ j, Slot.Below scenario j a → ((b.close slot i result).mark j).closed = true :=
    fun m hm a hends => ⟨hkept a (h.closed m hm a hends).1, fun j hj =>
      hkept j ((h.closed m hm a hends).2 j hj)⟩
  rcases hmoves with heq | ⟨m, heq, hnot, hends, hfits⟩
  · refine ⟨by rw [length_close, h.length_marks], fun j => ?_, ?_, ?_⟩
    · rw [hstarted, heq]
      exact h.started_iff j
    · rw [heq]
      exact hclosed
    · rw [heq]
      exact h.nested
  · refine ⟨by rw [length_close, h.length_marks], fun j => ?_, ?_, ?_⟩
    · rw [hstarted, heq, ← List.append_assoc, List.mem_append, List.mem_singleton,
        h.started_iff, or_iff_left (Ne.symm (hnot j))]
    · rw [heq, ← List.append_assoc]
      intro m' hm' a ha
      rcases List.mem_append.mp hm' with hm' | hm'
      · exact hclosed m' hm' a ha
      · obtain rfl : m' = m := List.mem_singleton.mp hm'
        obtain rfl : a = i := hends a ha
        exact ⟨hself, fun j hj => hkept j (hbelow j hj)⟩
    · rw [heq, ← List.append_assoc]
      exact h.nested.concat hfits

open Tracker (closeAll)

/-- **Steps are closed** one after the other, each behind those below it. -/
theorem closeAll {last : Option ExecutionReport} {failure : Option String} {indices : List Nat}
    (h : Records scenario early b) (hlt : ∀ j ∈ indices, j < b.marks.length)
    (hsorted : indices.Pairwise (· > ·))
    (hbelow : ∀ j ∈ indices, ∀ l, Slot.Below scenario l j →
      l ∈ indices ∨ (b.mark l).closed = true) :
    Records scenario early
      (Tracker.closeAll (Slot.ofScenario scenario) last failure indices b) := by
  induction indices generalizing b with
  | nil => exact h
  | cons j rest ih =>
      obtain ⟨hfirst, hrest⟩ := List.pairwise_cons.mp hsorted
      have hj : j < b.marks.length := hlt j List.mem_cons_self
      rw [closeAll_cons (List.getElem?_eq_getElem (h.length_marks ▸ hj))]
      refine ih (h.close hj (fun l hl => ?_) _ _) (fun l hl => ?_) hrest fun k hk l hl => ?_
      · rcases hbelow j List.mem_cons_self l hl with hin | hclosed
        · rcases List.mem_cons.mp hin with rfl | hin
          · exact absurd hl.lt (Nat.lt_irrefl l)
          · exact absurd hl.lt (Nat.lt_asymm (hfirst l hin))
        · exact hclosed
      · rw [length_close]
        exact hlt l (List.mem_cons_of_mem _ hl)
      · rw [mark_close hj]
        rcases hbelow k (List.mem_cons_of_mem _ hk) l hl with hin | hclosed
        · rcases List.mem_cons.mp hin with rfl | hin
          · exact Or.inr (by simp)
          · exact Or.inl hin
        · right
          split
          · rfl
          · exact hclosed

/-- The moves of a board are made before the next one. -/
lemma next (h : Records scenario early b) : Records scenario (early ++ b.moves) ⟨b.marks, []⟩ where
  length_marks := h.length_marks
  started_iff i := by
    rw [List.append_nil]
    exact h.started_iff i
  closed := by
    rw [List.append_nil]
    exact h.closed
  nested := by
    rw [List.append_nil]
    exact h.nested

end Records

end Board

namespace Tracker

variable {scenario : Node} {early : List Move} {t : Tracker} {r : ExecutionReport} {p : Pass}
  {i : Nat} {slot : Slot}

/-! ## One visit of a step -/

lemma records_enter (h : p.board.Records scenario early)
    (hslot : (Slot.ofScenario scenario)[i]? = some slot) :
    (enter (Slot.ofScenario scenario) slot i r p).board.Records scenario early := by
  have hi := h.lt_length hslot
  have hheld := h.change hi (holding_started slot r) (holding_closed slot r)
  rw [enter_eq hi h.rooted hslot]
  dsimp only
  split
  · exact hheld.startWithin hslot
  · exact hheld

lemma records_leave (h : p.board.Records scenario early)
    (hslot : (Slot.ofScenario scenario)[i]? = some slot) :
    (leave (Slot.ofScenario scenario) slot i r p).board.Records scenario early := by
  obtain ⟨hlt, hstop⟩ := Slot.stop_le hslot
  by_cases hfinishes : finishes slot i p = true
  · rw [leave_of_finishes hslot hstop h.length_marks.symm hfinishes]
    refine h.closeAll (fun j hj => ?_) ?_ fun j hj l hl => Or.inl ?_
    · rw [h.length_marks]
      exact Nat.lt_of_lt_of_le ((mem_below_concat hlt).mp hj).2 hstop
    · refine List.pairwise_append.mpr ⟨?_, List.pairwise_singleton .., fun j hj l hl => ?_⟩
      · rw [below, List.pairwise_reverse]
        exact List.pairwise_lt_range.sublist (List.drop_sublist ..)
      · rw [List.mem_singleton.mp hl]
        rw [below, List.mem_reverse, List.range_eq_range', List.drop_range',
          List.mem_range'_1] at hj
        show i < j
        omega
    · obtain ⟨hij, hjstop⟩ := (mem_below_concat hlt).mp hj
      obtain ⟨s, t, hs, ht, -⟩ := id hl
      have hfront := (Slot.path_prefix_iff hslot ht).mpr ⟨hij, hjstop⟩
      obtain ⟨hil, hlstop⟩ := (Slot.path_prefix_iff hslot hs).mp
        (hfront.trans ((Slot.path_prefix_iff ht hs).mpr
          ⟨Nat.le_of_lt hl.lt, ((Slot.below_iff hs ht).mp hl).2⟩))
      exact (mem_below_concat hlt).mpr ⟨hil, hlstop⟩
  · rwa [leave, if_neg hfinishes]

/-- **Every visit** of a step makes moves that fit. -/
theorem records_visit (h : p.board.Records scenario early) (v : Visit) :
    (visit (Slot.ofScenario scenario) r p v).board.Records scenario early := by
  cases v with
  | enter i =>
      cases hslot : (Slot.ofScenario scenario)[i]? with
      | none => simpa only [visit, hslot] using h
      | some slot => simpa only [visit, hslot] using records_enter h hslot
  | leave i =>
      cases hslot : (Slot.ofScenario scenario)[i]? with
      | none => simpa only [visit, hslot] using h
      | some slot => simpa only [visit, hslot] using records_leave h hslot

/-! ## A whole run -/

lemma records_ofScenario (scenario : Node) : (ofScenario scenario).board.Records scenario [] where
  length_marks := by rw [board, ofScenario, List.length_replicate]
  started_iff i := by
    rw [mark_board_ofScenario]
    simp [Mark.fresh, board]
  closed m hm := absurd hm (by simp [board])
  nested := Move.nested_nil

/-- **One more snapshot** makes moves that fit. -/
theorem records_observe (h : t.board.Records scenario early) (hscenario : t.scenario = scenario)
    (r : ExecutionReport) :
    (t.observe r).2.board.Records scenario (early ++ (t.observe r).1) := by
  have hvisits : ∀ (visits : List Visit) (p : Pass), p.board.Records scenario early →
      (visits.foldl (visit (Slot.ofScenario scenario) r) p).board.Records scenario early := by
    intro visits
    induction visits with
    | nil => exact fun p hp => hp
    | cons v visits ih => exact fun p hp => ih _ (records_visit hp v)
  have hpass := hvisits (Visit.ofScenario scenario) ⟨t.board, []⟩ h
  subst hscenario
  rw [← scan_ofScenario] at hpass
  exact hpass.next

/-- **The end of a run** makes moves that fit. -/
theorem records_finish (h : t.board.Records scenario early) (hscenario : t.scenario = scenario)
    (failure : Option String) :
    (t.finish failure).2.board.Records scenario (early ++ (t.finish failure).1) := by
  subst hscenario
  refine (h.closeAll (fun j hj => ?_) ?_ fun j hj l hl => Or.inl ?_).next
  · simpa [board] using hj
  · rw [List.pairwise_reverse]
    exact List.pairwise_lt_range
  · obtain ⟨s, -, hs, -⟩ := hl
    rw [List.mem_reverse, List.mem_range]
    exact lt_of_lt_of_eq (List.getElem?_eq_some_iff.mp hs).1 h.length_marks.symm

/-- **Every history** is nested. -/
theorem records_observeAll (scenario : Node) (rs : List ExecutionReport) :
    ((ofScenario scenario).observeAll rs).2.board.Records scenario
      ((ofScenario scenario).observeAll rs).1 := by
  induction rs using List.reverseRecOn with
  | nil => exact records_ofScenario scenario
  | append_singleton rs r ih =>
      rw [observeAll_concat]
      exact records_observe ih (knows_observeAll scenario rs).scenario_eq r

/-- **Every move of a run** fits behind those in front of it. -/
theorem nested_movesOver (scenario : Node) (rs : List ExecutionReport) (failure : Option String) :
    Move.Nested scenario (movesOver scenario rs failure) := by
  have hend := records_finish (records_observeAll scenario rs)
    (knows_observeAll scenario rs).scenario_eq failure
  simpa only [movesOver, board, List.append_nil] using hend.nested

/-- **The moves of a run are well nested**, whatever its snapshots show and whatever closes it. -/
theorem wellNested_movesOver (scenario : Node) (rs : List ExecutionReport)
    (failure : Option String) : Move.WellNested scenario (movesOver scenario rs failure) :=
  (nested_movesOver scenario rs failure).wellNested

end Tracker

end ScenarioRunner

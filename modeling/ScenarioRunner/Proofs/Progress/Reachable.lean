import ScenarioRunner.Proofs.Progress.Nesting

/-!
# The states of a tracker

A tracker observes snapshots, and it may close what is open and go on observing.  Histories say what a
tracker knows that has only observed; this file is about every state.

* `Tracker.Reachable` are the states.
* `Board.Awake`: a step on which the report of an execution is held has started.
* `Tracker.Underway` is the invariant of the walk through the steps from any state, and
  `Tracker.underway_observe` what is left of it at the end.
* `Tracker.Reachable.records` and `Tracker.Reachable.awake` hold of every state.
* `Tracker.Reachable.observed_or_closed`: a tracker has only observed, or every step is closed.

What is held on a step changes when the step is entered and at no other time, so that a whole pass
changes it like one visit (`Tracker.Underway.held`).
-/

namespace ScenarioRunner

/-- A step on which the report of an execution is held has started. -/
def Board.Awake (b : Board) : Prop :=
  ∀ i, (b.mark i).held.status ≠ .notExecuted → (b.mark i).started = true

lemma Board.Awake.congr {b b' : Board} (h : b.Awake) (hsame : SameProgress b' b) : b'.Awake := by
  intro i hheld
  rw [(hsame i).1]
  exact h i ((hsame i).2 ▸ hheld)

namespace Tracker

variable {scenario : Node} {early : List Move} {t : Tracker} {r : ExecutionReport} {p : Pass}
  {k a i : Nat} {slot : Slot}

/-! ## One visit of a step -/

section Visits

variable (h : p.board.Records scenario early)

include h

lemma awake_enter (hawake : p.board.Awake) (hk : (Slot.ofScenario scenario)[k]? = some slot) :
    (enter (Slot.ofScenario scenario) slot k r p).board.Awake := by
  intro i
  rw [mark_enter (h.lt_length hk) h.rooted hk (h.around_lt hk)]
  dsimp only
  rw [Bool.or_eq_true]
  by_cases hik : k = i
  · subst hik
    rw [if_pos rfl, status_holding]
    intro hheld
    by_cases hold : (p.board.mark k).held.status = .notExecuted
    · -- the status is that of the snapshot, so that the step starts now
      have hshows : r.Shows slot.path := by
        cases hs : r.statusAt? slot.path with
        | none => exact absurd hold (by simpa [hs] using hheld)
        | some s => exact ⟨s, hs, by simpa [hs] using hheld⟩
      exact Or.inr (by simp [begins_of_shows hshows hold])
    · exact Or.inl (hawake k hold)
  · rw [if_neg hik]
    exact fun hheld => Or.inl (hawake i hheld)

/-- Leaving a step closes it with everything below it, if it finishes. -/
lemma mark_leave (ha : (Slot.ofScenario scenario)[a]? = some slot) (i : Nat) :
    (leave (Slot.ofScenario scenario) slot a r p).board.mark i =
      { p.board.mark i with
        closed := (p.board.mark i).closed ||
          (finishes slot a p && decide (i ∈ below slot a ++ [a])) } := by
  obtain ⟨hlt, hstop⟩ := Slot.stop_le ha
  by_cases hfinishes : finishes slot a p = true
  · have hindices : ∀ j ∈ below slot a ++ [a], j < (Slot.ofScenario scenario).length := fun j hj =>
      Nat.lt_of_lt_of_le ((mem_below_concat hlt).mp hj).2 hstop
    rw [leave_of_finishes ha hstop h.length_marks.symm hfinishes]
    dsimp only
    rw [Board.mark_closeAll h.length_marks.symm hindices, hfinishes]
    by_cases hmem : i ∈ below slot a ++ [a] <;> simp [hmem]
  · rw [leave, if_neg hfinishes]
    simp [hfinishes]

end Visits

/-! ## One snapshot -/

/-- The walk has entered the slots in front of `k`.  What is held on them is what the snapshot makes
of it, and nothing is opened again. -/
structure Underway (scenario : Node) (early : List Move) (t : Tracker) (r : ExecutionReport)
    (k : Nat) (p : Pass) : Prop where
  records : p.board.Records scenario early
  awake : p.board.Awake
  held : ∀ {i slot}, (Slot.ofScenario scenario)[i]? = some slot →
    (p.board.mark i).held =
      if i < k then (holding slot r (t.board.mark i)).held else (t.board.mark i).held
  closed : ∀ i, (t.board.mark i).closed = true → (p.board.mark i).closed = true

/-- **Entering the next slot.** -/
theorem Underway.enter (h : Underway scenario early t r k p)
    (hk : (Slot.ofScenario scenario)[k]? = some slot) :
    Underway scenario early t r (k + 1) (Tracker.enter (Slot.ofScenario scenario) slot k r p) where
  records := records_enter h.records hk
  awake := awake_enter h.records h.awake hk
  held := by
    intro i s hi
    rw [mark_enter (h.records.lt_length hk) h.records.rooted hk (h.records.around_lt hk)]
    dsimp only
    by_cases hik : k = i
    · subst hik
      obtain rfl : slot = s := Option.some.inj (hk.symm.trans hi)
      have hheld := h.held hk
      rw [if_neg (Nat.lt_irrefl k)] at hheld
      rw [if_pos rfl, if_pos (Nat.lt_succ_self k), held_holding_congr hheld]
    · have hlt : i < k + 1 ↔ i < k := by omega
      simp only [if_neg hik, hlt]
      exact h.held hi
  closed := by
    intro i hclosed
    rw [mark_enter (h.records.lt_length hk) h.records.rooted hk (h.records.around_lt hk)]
    dsimp only
    split
    · rw [holding_closed]
      exact h.closed i hclosed
    · exact h.closed i hclosed

/-- **Leaving a slot.** -/
theorem Underway.leave (h : Underway scenario early t r k p)
    (ha : (Slot.ofScenario scenario)[a]? = some slot) :
    Underway scenario early t r k (Tracker.leave (Slot.ofScenario scenario) slot a r p) where
  records := records_leave h.records ha
  awake := h.awake.congr fun i => by rw [mark_leave h.records ha]; exact ⟨rfl, rfl⟩
  held hi := by
    rw [mark_leave h.records ha]
    exact h.held hi
  closed i hclosed := by
    rw [mark_leave h.records ha]
    simp [h.closed i hclosed]

/-- **The walk keeps the invariant.** -/
theorem Underway.walk {visits : List Visit} {k' : Nat}
    (hwalk : Visit.Walk (Slot.ofScenario scenario) k visits k')
    (h : Underway scenario early t r k p) :
    Underway scenario early t r k' (visits.foldl (visit (Slot.ofScenario scenario) r) p) := by
  induction hwalk generalizing p with
  | nil => exact h
  | enter hslot _ ih =>
      rw [List.foldl_cons]
      simpa only [visit, hslot] using ih (h.enter hslot)
  | leave hslot _ _ ih =>
      rw [List.foldl_cons]
      simpa only [visit, hslot] using ih (h.leave hslot)

/-- The walk begins at the first slot, in any state. -/
lemma underway_start (h : t.board.Records scenario early) (hawake : t.board.Awake)
    (r : ExecutionReport) : Underway scenario early t r 0 ⟨t.board, []⟩ where
  records := h
  awake := hawake
  held := by
    intro i slot _
    rw [if_neg (Nat.not_lt_zero i)]
  closed _ hclosed := hclosed

/-- **The pass of a snapshot** ends with everything entered. -/
theorem underway_observe (h : t.board.Records scenario early) (hawake : t.board.Awake)
    (r : ExecutionReport) :
    Underway scenario early t r (Slot.ofScenario scenario).length
      (scan (Slot.ofScenario scenario) r (Slot.ofScenario scenario) 0 [] ⟨t.board, []⟩) := by
  rw [scan_ofScenario]
  exact (underway_start h hawake r).walk (Visit.walk_ofScenario scenario)

/-! ## All states -/

/-- The states of a tracker: it observes snapshots and closes what is open, in any order. -/
inductive Reachable (scenario : Node) : Tracker → Prop where
  | start : Reachable scenario (ofScenario scenario)
  | observe {t : Tracker} (h : Reachable scenario t) (r : ExecutionReport) :
    Reachable scenario (t.observe r).2
  | finish {t : Tracker} (h : Reachable scenario t) (failure : Option String) :
    Reachable scenario (t.finish failure).2

/-- The end of a run closes every step and changes nothing else. -/
lemma mark_finish (h : t.board.Records scenario early) (hscenario : t.scenario = scenario)
    (failure : Option String) (i : Nat) :
    (t.finish failure).2.board.mark i =
      if i < t.marks.length then { t.board.mark i with closed := true } else t.board.mark i := by
  subst hscenario
  have hmark : (t.finish failure).2.board.mark i =
      if i ∈ (List.range t.marks.length).reverse then { t.board.mark i with closed := true }
      else t.board.mark i :=
    Board.mark_closeAll h.length_marks.symm (fun j hj => by
      rw [← h.length_marks]
      simpa [board] using hj) i
  simpa only [List.mem_reverse, List.mem_range] using hmark

namespace Reachable

variable (h : Reachable scenario t)

include h

lemma scenario_eq : t.scenario = scenario := by
  induction h with
  | start => rfl
  | observe _ _ ih => exact ih
  | finish _ _ ih => exact ih

/-- **In every state** the marks agree with the moves made so far, which are nested. -/
theorem records : ∃ early, t.board.Records scenario early := by
  induction h with
  | start => exact ⟨_, records_ofScenario scenario⟩
  | observe h r ih =>
      obtain ⟨early, hrecords⟩ := ih
      exact ⟨_, records_observe hrecords h.scenario_eq r⟩
  | finish h failure ih =>
      obtain ⟨early, hrecords⟩ := ih
      exact ⟨_, records_finish hrecords h.scenario_eq failure⟩

/-- **In every state** a step on which the report of an execution is held has started. -/
theorem awake : t.board.Awake := by
  induction h with
  | start =>
      intro i hheld
      rw [mark_board_ofScenario] at hheld
      exact absurd rfl hheld
  | observe h r ih =>
      obtain ⟨early, hrecords⟩ := h.records
      obtain rfl := h.scenario_eq
      exact (underway_observe hrecords ih r).awake
  | finish h failure ih =>
      obtain ⟨early, hrecords⟩ := h.records
      refine ih.congr fun i => ?_
      rw [mark_finish hrecords h.scenario_eq]
      split <;> exact ⟨rfl, rfl⟩

/-- What is closed stays closed. -/
lemma closed_observe (r : ExecutionReport) (hclosed : (t.board.mark i).closed = true) :
    ((t.observe r).2.board.mark i).closed = true := by
  obtain ⟨early, hrecords⟩ := h.records
  obtain rfl := h.scenario_eq
  exact (underway_observe hrecords h.awake r).closed i hclosed

/-- A snapshot changes what is held on a step like one visit of it. -/
lemma held_observe (r : ExecutionReport) (hi : (Slot.ofScenario scenario)[i]? = some slot) :
    ((t.observe r).2.board.mark i).held = (holding slot r (t.board.mark i)).held := by
  obtain ⟨early, hrecords⟩ := h.records
  obtain rfl := h.scenario_eq
  have hheld := (underway_observe hrecords h.awake r).held hi
  rwa [if_pos (List.getElem?_eq_some_iff.mp hi).1] at hheld

/-- **A tracker has only observed, or every step is closed**: its end has come. -/
theorem observed_or_closed : (∃ rs, t = ((ofScenario scenario).observeAll rs).2) ∨
    ∀ i < (Slot.ofScenario scenario).length, (t.board.mark i).closed = true := by
  induction h with
  | start => exact Or.inl ⟨[], rfl⟩
  | observe h r ih =>
      rcases ih with ⟨rs, rfl⟩ | hclosed
      · exact Or.inl ⟨rs ++ [r], by rw [observeAll_concat]⟩
      · exact Or.inr fun i hi => h.closed_observe r (hclosed i hi)
  | finish h failure _ =>
      right
      intro i hi
      obtain ⟨early, hrecords⟩ := h.records
      rw [mark_finish hrecords h.scenario_eq, if_pos (hrecords.length_marks ▸ hi)]

end Reachable

end Tracker

end ScenarioRunner

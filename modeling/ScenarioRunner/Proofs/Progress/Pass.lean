import ScenarioRunner.Proofs.Progress.Board
import ScenarioRunner.Proofs.Progress.History

/-!
# Entering and leaving a step

What the two visits of a step do to the board.

* `Tracker.enter_eq`: entering a step changes what is held on it (`Tracker.holding`) and starts it
  with the steps around it if the snapshot shows something new (`Tracker.begins`).
* `Tracker.mark_enter` and `Tracker.ofSlot_enter` say this slot by slot.
* `Tracker.leave_of_finishes`: a step that finishes is closed behind everything below it.
-/

namespace ScenarioRunner

namespace Tracker

/-! ## What entering a step does -/

section Enter

variable {scenario : Node} {slot : Slot} {k : Nat} {r : ExecutionReport} {p : Pass}

/-- A mark with what a snapshot changes of the report that is held. -/
def holding (slot : Slot) (r : ExecutionReport) (m : Mark) : Mark :=
  match r.report.at? slot.path with
  | none => m
  | some new =>
    { m with
      held := if new.replaces m.held slot.retryable then new.alone else m.held.refreshed new }

/-- A snapshot replaces the report that is held. -/
def takes (slot : Slot) (r : ExecutionReport) (m : Mark) : Bool :=
  match r.report.at? slot.path with
  | none => false
  | some new => new.replaces m.held slot.retryable

/-- A snapshot replaces the report that is held by one that shows the step as executed. -/
def begins (slot : Slot) (r : ExecutionReport) (m : Mark) : Bool :=
  takes slot r m && r.statusAt? slot.path != some .notExecuted

lemma holding_started (slot : Slot) (r : ExecutionReport) (m : Mark) :
    (holding slot r m).started = m.started := by
  unfold holding
  split <;> rfl

lemma holding_closed (slot : Slot) (r : ExecutionReport) (m : Mark) :
    (holding slot r m).closed = m.closed := by
  unfold holding
  split <;> rfl

/-- What a snapshot makes of the report that is held does not depend on the rest of the mark. -/
lemma held_holding_congr {m m' : Mark} (h : m.held = m'.held) :
    (holding slot r m).held = (holding slot r m').held := by
  unfold holding
  split
  · exact h
  · dsimp only
    rw [h]

/-- What is held has the status of the snapshot, if that has one. -/
lemma status_holding (slot : Slot) (r : ExecutionReport) (m : Mark) :
    (holding slot r m).held.status = (r.statusAt? slot.path).getD m.held.status := by
  unfold holding ExecutionReport.statusAt?
  cases r.report.at? slot.path with
  | none => rfl
  | some new =>
      dsimp only [Option.map_some, Option.getD_some]
      split
      · rfl
      · next h =>
        simp only [StepReport.replaces, Bool.or_eq_true, not_or, bne_iff_ne, ne_eq,
          not_not] at h
        exact h.1

/-- What is held on a step is changed, and not whether it has started. -/
lemma started_change (hk : k < p.board.marks.length) {f : Mark → Mark}
    (hf : ∀ m, (f m).started = m.started) (i : Nat) :
    ((p.board.change k f).mark i).started = (p.board.mark i).started := by
  rw [Board.mark_change hk]
  split
  · exact hf _
  · rfl

/-- A step that is shown as executed is started with those around it, where it has not started. -/
lemma startWithin_eq (hk : k < p.board.marks.length) (hrooted : p.board.Rooted scenario)
    (hslot : (Slot.ofScenario scenario)[k]? = some slot) {f : Mark → Mark}
    (hf : ∀ m, (f m).started = m.started) :
    (if !((p.board.change k f).mark k).started then
        (p.board.change k f).start (Slot.ofScenario scenario) slot.path.length k
      else p.board.change k f) =
      (p.board.change k f).startWithin (slot.ancestors scenario) k := by
  have hafter : (p.board.change k f).Rooted scenario := fun hs hstarted a ha => by
    rw [started_change hk hf] at hstarted ⊢
    exact hrooted hs hstarted a ha
  cases hstarted : ((p.board.change k f).mark k).started with
  | true =>
      refine (Board.startAll_eq_self fun a ha => ?_).symm
      rcases List.mem_append.mp ha with ha | ha
      · exact hafter hslot hstarted a ha
      · rwa [List.mem_singleton.mp ha]
  | false => exact Board.start_eq hafter hslot hstarted

/-- Entering a step changes what is held on it, and starts it with those around it if the snapshot
shows something new. -/
theorem enter_eq (hk : k < p.board.marks.length) (hrooted : p.board.Rooted scenario)
    (hslot : (Slot.ofScenario scenario)[k]? = some slot) :
    enter (Slot.ofScenario scenario) slot k r p =
      ⟨if begins slot r (p.board.mark k) then
          (p.board.change k (holding slot r)).startWithin (slot.ancestors scenario) k
        else p.board.change k (holding slot r),
        if takes slot r (p.board.mark k) then k :: p.replaced else p.replaced⟩ := by
  unfold enter begins takes ExecutionReport.statusAt?
  cases hnew : r.report.at? slot.path with
  | none =>
      have hsame : p.board.change k (holding slot r) = p.board := by
        rw [Board.change_congr hk (g := fun m => m) (by simp [holding, hnew]), Board.change_id]
      simp [hsame]
  | some new =>
      dsimp only [Option.map_some]
      split
      · next htakes =>
        have hchange : p.board.change k (holding slot r)
            = p.board.change k fun m => { m with held := new.alone } :=
          Board.change_congr hk (by simp [holding, hnew, htakes])
        rw [hchange]
        rw [← startWithin_eq hk hrooted hslot (f := fun m => { m with held := new.alone })
          fun _ => rfl]
        by_cases hstatus : new.status = .notExecuted
        · simp [htakes, hstatus]
        · simp [htakes, hstatus]
      · next htakes =>
        have hchange : p.board.change k (holding slot r)
            = p.board.change k fun m => { m with held := m.held.refreshed new } :=
          Board.change_congr hk (by simp [holding, hnew, htakes])
        rw [hchange]
        simp [htakes]

lemma length_enter (hk : k < p.board.marks.length) (hrooted : p.board.Rooted scenario)
    (hslot : (Slot.ofScenario scenario)[k]? = some slot) :
    (enter (Slot.ofScenario scenario) slot k r p).board.marks.length = p.board.marks.length := by
  rw [enter_eq hk hrooted hslot]
  dsimp only
  split
  · rw [Board.startWithin, Board.length_startAll, Board.length_change]
  · rw [Board.length_change]

/-- The marks after entering a step. -/
theorem mark_enter (hk : k < p.board.marks.length) (hrooted : p.board.Rooted scenario)
    (hslot : (Slot.ofScenario scenario)[k]? = some slot)
    (haround : ∀ j ∈ slot.ancestors scenario ++ [k], j < p.board.marks.length) (i : Nat) :
    (enter (Slot.ofScenario scenario) slot k r p).board.mark i =
      { (if k = i then holding slot r (p.board.mark i) else p.board.mark i) with
        started := (p.board.mark i).started ||
          (begins slot r (p.board.mark k) && decide (i ∈ slot.ancestors scenario ++ [k])) } := by
  have hheld := started_change hk (holding_started slot r) i
  rw [enter_eq hk hrooted hslot]
  dsimp only
  split
  · next hbegins =>
    have hlen : ∀ j ∈ slot.ancestors scenario ++ [k],
        j < (p.board.change k (holding slot r)).marks.length := by
      simpa using haround
    rw [Board.startWithin, Board.mark_startAll hlen, Board.mark_change hk, hbegins]
    by_cases hmem : i ∈ slot.ancestors scenario ++ [k]
    · simp [hmem]
    · rw [Board.mark_change hk] at hheld
      simp [hmem, ← hheld]
  · next hbegins =>
    rw [Board.mark_change hk] at hheld ⊢
    simp [hbegins, ← hheld]

/-- Entering a step adds the starts of it and of those around it that have not started. -/
theorem ofSlot_enter (hk : k < p.board.marks.length) (hrooted : p.board.Rooted scenario)
    (hslot : (Slot.ofScenario scenario)[k]? = some slot)
    (haround : ∀ j ∈ slot.ancestors scenario ++ [k], j < p.board.marks.length) (i : Nat) :
    Move.ofSlot i (enter (Slot.ofScenario scenario) slot k r p).board.moves
      = Move.ofSlot i p.board.moves ++
          if begins slot r (p.board.mark k) = true ∧ i ∈ slot.ancestors scenario ++ [k] ∧
            (p.board.mark i).started = false then [.started i] else [] := by
  rw [enter_eq hk hrooted hslot]
  dsimp only
  split
  · next hbegins =>
    have hlen : ∀ j ∈ slot.ancestors scenario ++ [k],
        j < (p.board.change k (holding slot r)).marks.length := by
      simpa using haround
    have hstarted := started_change hk (holding_started slot r) i
    rw [Board.startWithin, Board.ofSlot_startAll hlen, hstarted]
    simp [hbegins, Board.change]
  · next hbegins => simp [hbegins, Board.change]

/-- A snapshot that shows a step as executed begins it, unless that was known. -/
lemma begins_of_shows {m : Mark} (h : r.Shows slot.path) (hheld : m.held.status = .notExecuted) :
    begins slot r m = true := by
  obtain ⟨s, hs, hne⟩ := h
  unfold begins takes
  unfold ExecutionReport.statusAt? at hs ⊢
  cases hnew : r.report.at? slot.path with
  | none => simp [hnew] at hs
  | some new =>
      obtain rfl : new.status = s := by simpa [hnew] using hs
      simp [StepReport.replaces, hheld, Ne.symm hne, hne]

lemma shows_of_begins {m : Mark} (h : begins slot r m = true) : r.Shows slot.path := by
  unfold begins takes at h
  cases hstatus : r.statusAt? slot.path with
  | none =>
      have hnone : r.report.at? slot.path = none := by
        simpa [ExecutionReport.statusAt?] using hstatus
      simp [hnone] at h
  | some s =>
      simp only [hstatus, Bool.and_eq_true, bne_iff_ne, ne_eq, Option.some.injEq] at h
      exact ⟨s, hstatus, h.2⟩

/-- Without retries, a report is replaced exactly when its status is. -/
lemma takes_iff {m : Mark} (h : slot.retryable = false) :
    takes slot r m = true ↔ ∃ s, r.statusAt? slot.path = some s ∧ s ≠ m.held.status := by
  unfold takes ExecutionReport.statusAt?
  cases r.report.at? slot.path with
  | none => simp
  | some new =>
      simp only [StepReport.replaces, h, Bool.false_and, Bool.or_false, bne_iff_ne, ne_eq,
        Option.map_some, Option.some.injEq, exists_eq_left']
      exact not_congr eq_comm

end Enter

/-! ## What leaving a step does -/

/-- The slots from a step to the last one below it, in the order in which they are closed. -/
lemma mem_below_concat {slot : Slot} {i j : Nat} (hi : i < slot.stop) :
    j ∈ below slot i ++ [i] ↔ i ≤ j ∧ j < slot.stop := by
  rw [below, List.mem_append, List.mem_reverse, List.mem_singleton, List.range_eq_range',
    List.drop_range', List.mem_range'_1]
  omega

section Leave

variable {slots : List Slot} {slot : Slot} {a : Nat} {r : ExecutionReport} {p : Pass}

/-- A step that finishes is closed behind everything below it, and like it. -/
theorem leave_of_finishes (hslot : slots[a]? = some slot) (hstop : slot.stop ≤ slots.length)
    (hlen : slots.length = p.board.marks.length) (h : finishes slot a p = true) :
    leave slots slot a r p =
      { p with board := closeAll slots (some r) none (below slot a ++ [a]) p.board } := by
  have hbelow : ∀ j ∈ below slot a, a < j ∧ j < slots.length := by
    intro j hj
    rw [below, List.mem_reverse, List.range_eq_range', List.drop_range', List.mem_range'_1] at hj
    omega
  have hmark : (closeAll slots (some r) none (below slot a) p.board).mark a = p.board.mark a := by
    rw [Board.mark_closeAll hlen fun j hj => (hbelow j hj).2,
      if_neg fun ha => Nat.lt_irrefl a (hbelow a ha).1]
  have hfinishes := h
  simp only [finishes, Bool.and_eq_true, Bool.not_eq_true'] at h
  obtain ⟨⟨⟨-, hstarted⟩, hclosed⟩, -⟩ := h
  rw [leave, if_pos hfinishes, Board.closeAll_append, Board.closeAll_cons hslot]
  generalize closeAll slots (some r) none (below slot a) p.board = b at hmark ⊢
  simp [closeAll, Board.close, hmark, hstarted, hclosed, resultOf]

end Leave

end Tracker

end ScenarioRunner

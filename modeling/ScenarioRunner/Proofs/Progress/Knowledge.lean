import ScenarioRunner.Proofs.Progress.Pass
import ScenarioRunner.Proofs.Progress.Walk

/-!
# What a tracker knows

The marks of a tracker are compared with the history of the snapshots that it has observed.

* `Tracker.Knows`: the marks of a tracker say what its history says (`statusOf`, `Executed`,
  `Settled`).
* `Tracker.Midway` is the invariant of the walk through the steps: the slots in front of the next one
  know the new snapshot, and the slots that were left have settled what it decides.  It also gives
  the moves of each slot, from the marks before and after.
* `Tracker.midway_enter` and `Tracker.midway_leave` pass the invariant from visit to visit.
* `Tracker.knows_observe` and `Tracker.ofSlot_observe` are what is left of it at the end.

A slot that is closed in the pass has been entered with everything below it, so that it does not
start in the same pass any more; this orders the two moves of a slot.
-/

namespace ScenarioRunner

open ExecutionReport (statusOf)

namespace Tracker

/-- The marks of a tracker, before any move. -/
def board (t : Tracker) : Board :=
  ⟨t.marks, []⟩

/-- The marks of a tracker say what the history of its snapshots says. -/
structure Knows (t : Tracker) (scenario : Node) (rs : List ExecutionReport) : Prop where
  scenario_eq : t.scenario = scenario
  length_marks : t.marks.length = (Slot.ofScenario scenario).length
  last_eq : t.last = rs.getLast?
  held : ∀ {i slot}, (Slot.ofScenario scenario)[i]? = some slot →
    (t.board.mark i).held.status = statusOf rs slot.path
  started : ∀ {i slot}, (Slot.ofScenario scenario)[i]? = some slot →
    ((t.board.mark i).started = true ↔ scenario.Executed rs slot.path)
  closed : ∀ {i slot}, (Slot.ofScenario scenario)[i]? = some slot →
    ((t.board.mark i).closed = true ↔ scenario.Settled rs slot.path)

lemma mark_board_ofScenario (scenario : Node) (i : Nat) :
    (ofScenario scenario).board.mark i = .fresh := by
  simp only [board, ofScenario, Board.mark, List.getD_eq_getElem?_getD, List.getElem?_replicate]
  split <;> rfl

/-- A tracker at the beginning knows the empty history. -/
theorem knows_ofScenario (scenario : Node) : (ofScenario scenario).Knows scenario [] where
  scenario_eq := rfl
  length_marks := by rw [ofScenario, List.length_replicate]
  last_eq := rfl
  held := by
    intro i slot _
    rw [mark_board_ofScenario]
    rfl
  started := by
    intro i slot _
    rw [mark_board_ofScenario]
    exact ⟨fun h => absurd h Bool.false_ne_true, fun h => absurd h Node.not_executed_nil⟩
  closed := by
    intro i slot _
    rw [mark_board_ofScenario]
    exact ⟨fun h => absurd h Bool.false_ne_true, fun h => absurd h Node.not_settled_nil⟩

/-! ## The invariant of the walk -/

variable {scenario : Node} {t : Tracker} {rs : List ExecutionReport} {r : ExecutionReport}
  {k i a : Nat} {left : List Nat} {p : Pass} {slot : Slot}

/-- The walk has entered the slots in front of `k` and left those in `left`.  The former know the
new snapshot `r`, and the latter have settled what it decides. -/
structure Midway (scenario : Node) (t : Tracker) (rs : List ExecutionReport)
    (r : ExecutionReport) (k : Nat) (left : List Nat) (p : Pass) : Prop where
  length_marks : p.board.marks.length = (Slot.ofScenario scenario).length
  held : ∀ {i slot}, (Slot.ofScenario scenario)[i]? = some slot →
    (p.board.mark i).held.status = statusOf (if i < k then rs ++ [r] else rs) slot.path
  replaced_lt : ∀ {i}, i ∈ p.replaced → i < k
  replaced_iff : ∀ {i slot}, (Slot.ofScenario scenario)[i]? = some slot →
    slot.retryable = false → i < k →
      (i ∈ p.replaced ↔ ∃ s, r.statusAt? slot.path = some s ∧ s ≠ statusOf rs slot.path)
  started : ∀ {i slot}, (Slot.ofScenario scenario)[i]? = some slot →
    ((p.board.mark i).started = true ↔ scenario.Executed rs slot.path ∨
      ∃ m below, (Slot.ofScenario scenario)[m]? = some below ∧ m < k ∧
        slot.path <+: below.path ∧ r.Shows below.path)
  left_stop : ∀ {a}, a ∈ left → ∃ around, (Slot.ofScenario scenario)[a]? = some around ∧
    around.stop ≤ k
  closed : ∀ {i slot}, (Slot.ofScenario scenario)[i]? = some slot →
    ((p.board.mark i).closed = true ↔ scenario.Settled rs slot.path ∨
      ∃ a around, a ∈ left ∧ (Slot.ofScenario scenario)[a]? = some around ∧
        around.path <+: slot.path ∧ around.deferred = false ∧ r.Decides around.path)
  moves : ∀ {i slot}, (Slot.ofScenario scenario)[i]? = some slot →
    Move.ofSlot i p.board.moves =
      (if (t.board.mark i).started = false ∧ (p.board.mark i).started = true
        then [.started i] else []) ++
      (if (t.board.mark i).closed = false ∧ (p.board.mark i).closed = true
        then p.board.closing slot i (resultOf (some r) none slot) else [])

/-- The walk begins at the first slot. -/
theorem midway_start (h : t.Knows scenario rs) (r : ExecutionReport) :
    Midway scenario t rs r 0 [] ⟨t.board, []⟩ where
  length_marks := h.length_marks
  held := by
    intro i slot hi
    rw [if_neg (Nat.not_lt_zero i)]
    exact h.held hi
  replaced_lt := by
    intro i hi
    simp at hi
  replaced_iff := by
    intro i slot _ _ hlt
    omega
  started := by
    intro i slot hi
    rw [h.started hi]
    simp
  left_stop := by
    intro a ha
    simp at ha
  closed := by
    intro i slot hi
    rw [h.closed hi]
    simp
  moves := by
    intro i slot _
    cases (t.board.mark i).started <;> cases (t.board.mark i).closed <;> rfl

/-- What is closed in the pass lies in a step that was left, so that everything below it has been
entered. -/
lemma Midway.exists_left_of_closed (h : Midway scenario t rs r k left p)
    (hknows : t.Knows scenario rs) (hi : (Slot.ofScenario scenario)[i]? = some slot)
    (hbefore : (t.board.mark i).closed = false) (hclosed : (p.board.mark i).closed = true) :
    ∃ (a : Nat) (around : Slot), (Slot.ofScenario scenario)[a]? = some around ∧
      around.path <+: slot.path ∧ around.stop ≤ k ∧ r.Decides around.path := by
  rcases (h.closed hi).mp hclosed with hsettled | ⟨a, around, ha, hslot, hpath, -, hdecides⟩
  · rw [(hknows.closed hi).mpr hsettled] at hbefore
    exact absurd hbefore (by simp)
  · obtain ⟨around', hslot', hstop⟩ := h.left_stop ha
    obtain rfl : around = around' := Option.some.inj (hslot.symm.trans hslot')
    exact ⟨a, around, hslot, hpath, hstop, hdecides⟩

/-- What is closed in the pass is not around the next slot. -/
lemma Midway.not_prefix_of_closed (h : Midway scenario t rs r k left p)
    (hknows : t.Knows scenario rs) (hi : (Slot.ofScenario scenario)[i]? = some slot)
    {next : Slot} (hnext : (Slot.ofScenario scenario)[k]? = some next)
    (hbefore : (t.board.mark i).closed = false) (hclosed : (p.board.mark i).closed = true) :
    ¬ slot.path <+: next.path := by
  intro hprefix
  obtain ⟨a, around, ha, hpath, hstop, -⟩ := h.exists_left_of_closed hknows hi hbefore hclosed
  have := (Slot.path_prefix_iff ha hnext).mp (hpath.trans hprefix)
  omega

/-- Nor is the step around it, unless it has started. -/
lemma Midway.parent_not_prefix_of_closed (h : Midway scenario t rs r k left p)
    (hknows : t.Knows scenario rs) (hi : (Slot.ofScenario scenario)[i]? = some slot)
    {next parent : Slot} (hnext : (Slot.ofScenario scenario)[k]? = some next) {j : Nat}
    (hparent : slot.path = parent.path ++ [j])
    (hbefore : (t.board.mark i).closed = false) (hclosed : (p.board.mark i).closed = true)
    (hstarted : (p.board.mark i).started = false) : ¬ parent.path <+: next.path := by
  intro hprefix
  obtain ⟨a, around, ha, hpath, hstop, hdecides⟩ :=
    h.exists_left_of_closed hknows hi hbefore hclosed
  rcases List.prefix_concat_iff.mp (hparent ▸ hpath) with heq | habove
  · -- the step itself was left with an outcome, which has started it
    have ha' := (Slot.stop_le ha).1
    have hself : slot.path <+: around.path := (hparent.trans heq.symm) ▸ List.prefix_refl _
    have hshown := (h.started hi).mpr
      (Or.inr ⟨a, around, ha, by omega, hself, hdecides.shows⟩)
    rw [hshown] at hstarted
    exact absurd hstarted (by simp)
  · have := (Slot.path_prefix_iff ha hnext).mp (habove.trans hprefix)
    omega

/-- What has started has started with everything around it. -/
lemma Midway.rooted (h : Midway scenario t rs r k left p) : p.board.Rooted scenario := by
  intro i slot hi hstarted a ha
  obtain ⟨above, habove, -⟩ := (Slot.mem_ancestors_iff hi).mp ha
  have hprefix := (Slot.mem_ancestors_concat_iff habove hi).mp (List.mem_append_left _ ha)
  rcases (h.started hi).mp hstarted with hexecuted | ⟨m, below, hm, hlt, hbelow, hshown⟩
  · exact (h.started habove).mpr (Or.inl (hexecuted.of_prefix hprefix))
  · exact (h.started habove).mpr (Or.inr ⟨m, below, hm, hlt, hprefix.trans hbelow, hshown⟩)

/-! ### Entering the next slot -/

section Enter

variable (h : Midway scenario t rs r k left p) {next : Slot}
  (hnext : (Slot.ofScenario scenario)[k]? = some next)

include h hnext

lemma Midway.lt_length : k < p.board.marks.length := by
  rw [h.length_marks]
  exact (List.getElem?_eq_some_iff.mp hnext).1

lemma Midway.around_lt : ∀ j ∈ next.ancestors scenario ++ [k], j < p.board.marks.length := fun _ hj =>
  Nat.lt_of_le_of_lt (Slot.le_of_mem_ancestors_concat hnext hj) (h.lt_length hnext)

lemma Midway.mark_enter (i : Nat) :
    (enter (Slot.ofScenario scenario) next k r p).board.mark i =
      { (if k = i then holding next r (p.board.mark i) else p.board.mark i) with
        started := (p.board.mark i).started ||
          (begins next r (p.board.mark k) && decide (i ∈ next.ancestors scenario ++ [k])) } :=
  Tracker.mark_enter (h.lt_length hnext) h.rooted hnext (h.around_lt hnext) i

lemma Midway.closed_enter (i : Nat) :
    ((enter (Slot.ofScenario scenario) next k r p).board.mark i).closed = (p.board.mark i).closed := by
  rw [h.mark_enter hnext]
  dsimp only
  split
  · exact holding_closed ..
  · rfl

/-- The status that is held on the next slot comes from the snapshots before. -/
lemma Midway.status_next : (p.board.mark k).held.status = statusOf rs next.path := by
  rw [h.held hnext, if_neg (Nat.lt_irrefl k)]

/-- A step that the snapshot shows as executed starts now, or has started before. -/
lemma Midway.begins_or_executed (hshown : r.Shows next.path) :
    begins next r (p.board.mark k) = true ∨ scenario.Executed rs next.path := by
  by_cases hne : statusOf rs next.path = .notExecuted
  · exact Or.inl (begins_of_shows hshown ((h.status_next hnext).trans hne))
  · obtain ⟨r', hr', hs⟩ := ExecutionReport.exists_of_statusOf hne
    obtain ⟨node, hnode, -⟩ := Slot.exists_node_of_getElem? hnext
    exact Or.inr ⟨r', hr', next.path, List.prefix_refl _, by rw [hnode]; rfl, _, hs, hne⟩

lemma Midway.held_enter (hi : (Slot.ofScenario scenario)[i]? = some slot) :
    ((enter (Slot.ofScenario scenario) next k r p).board.mark i).held.status =
      statusOf (if i < k + 1 then rs ++ [r] else rs) slot.path := by
  rw [h.mark_enter hnext]
  dsimp only
  split
  · next hik =>
    subst hik
    obtain rfl : next = slot := Option.some.inj (hnext.symm.trans hi)
    rw [status_holding, if_pos (Nat.lt_succ_self k), ExecutionReport.statusOf_concat,
      h.status_next hnext]
  · next hik =>
    rw [h.held hi]
    have hlt : i < k + 1 ↔ i < k := by omega
    simp only [hlt]

lemma Midway.replaced_lt_enter (hi : i ∈ (enter (Slot.ofScenario scenario) next k r p).replaced) : i < k + 1 := by
  rw [enter_eq (h.lt_length hnext) h.rooted hnext] at hi
  dsimp only at hi
  split at hi
  · rcases List.mem_cons.mp hi with rfl | hi
    · omega
    · have := h.replaced_lt hi
      omega
  · have := h.replaced_lt hi
    omega

lemma Midway.replaced_iff_enter (hi : (Slot.ofScenario scenario)[i]? = some slot)
    (hretry : slot.retryable = false) (hlt : i < k + 1) :
    i ∈ (enter (Slot.ofScenario scenario) next k r p).replaced ↔
      ∃ s, r.statusAt? slot.path = some s ∧ s ≠ statusOf rs slot.path := by
  rw [enter_eq (h.lt_length hnext) h.rooted hnext]
  dsimp only
  rcases Nat.eq_or_lt_of_le (Nat.le_of_lt_succ hlt) with rfl | hlt'
  · obtain rfl : next = slot := Option.some.inj (hnext.symm.trans hi)
    have hnot : i ∉ p.replaced := fun hmem => Nat.lt_irrefl _ (h.replaced_lt hmem)
    rw [← h.status_next hnext, ← takes_iff hretry]
    split <;> simp_all
  · rw [← h.replaced_iff hi hretry hlt']
    split
    · rw [List.mem_cons, or_iff_right (by omega)]
    · rfl

lemma Midway.started_enter (hi : (Slot.ofScenario scenario)[i]? = some slot) :
    ((enter (Slot.ofScenario scenario) next k r p).board.mark i).started = true ↔ scenario.Executed rs slot.path ∨
      ∃ m below, (Slot.ofScenario scenario)[m]? = some below ∧ m < k + 1 ∧
        slot.path <+: below.path ∧ r.Shows below.path := by
  rw [h.mark_enter hnext]
  simp only [Bool.or_eq_true, Bool.and_eq_true, decide_eq_true_eq, h.started hi,
    Slot.mem_ancestors_concat_iff hi hnext]
  constructor
  · rintro ((hold | ⟨m, below, hm, hlt, hrest⟩) | ⟨hbegins, hprefix⟩)
    · exact Or.inl hold
    · exact Or.inr ⟨m, below, hm, by omega, hrest⟩
    · exact Or.inr ⟨k, next, hnext, Nat.lt_succ_self k, hprefix, shows_of_begins hbegins⟩
  · rintro (hold | ⟨m, below, hm, hlt, hprefix, hshown⟩)
    · exact Or.inl (Or.inl hold)
    · rcases Nat.eq_or_lt_of_le (Nat.le_of_lt_succ hlt) with rfl | hlt'
      · obtain rfl : next = below := Option.some.inj (hnext.symm.trans hm)
        rcases h.begins_or_executed hnext hshown with hbegins | hexecuted
        · exact Or.inr ⟨hbegins, hprefix⟩
        · exact Or.inl (Or.inl (hexecuted.of_prefix hprefix))
      · exact Or.inl (Or.inr ⟨m, below, hm, hlt', hprefix, hshown⟩)

/-- What was closed in the pass keeps its closing move. -/
lemma Midway.closing_enter (hknows : t.Knows scenario rs)
    (hi : (Slot.ofScenario scenario)[i]? = some slot)
    (hbefore : (t.board.mark i).closed = false) (hclosed : (p.board.mark i).closed = true)
    (result : StepReport → NodeResult) :
    (enter (Slot.ofScenario scenario) next k r p).board.closing slot i result = p.board.closing slot i result := by
  have hnot := h.not_prefix_of_closed hknows hi hnext hbefore hclosed
  have hik : k ≠ i := by
    rintro rfl
    obtain rfl : next = slot := Option.some.inj (hnext.symm.trans hi)
    exact hnot (List.prefix_refl _)
  have hsame : ((enter (Slot.ofScenario scenario) next k r p).board.mark i).started = (p.board.mark i).started := by
    simp [h.mark_enter hnext, Slot.mem_ancestors_concat_iff hi hnext, hnot]
  have hheld : ((enter (Slot.ofScenario scenario) next k r p).board.mark i).held = (p.board.mark i).held := by
    rw [h.mark_enter hnext]
    dsimp only
    rw [if_neg hik]
  rw [Board.closing, Board.closing, hsame, hheld]
  cases hunstarted : (p.board.mark i).started with
  | true => rfl
  | false =>
      have hparent : (enter (Slot.ofScenario scenario) next k r p).board.parentStarted slot =
          p.board.parentStarted slot := by
        unfold Board.parentStarted
        rcases Slot.parent?_spec hi with ⟨hnone, -⟩ | ⟨q, above, j, -, hq, hsome, hpath⟩
        · rw [hnone]
        · have hoff := h.parent_not_prefix_of_closed hknows hi hnext hpath hbefore hclosed
            hunstarted
          rw [hsome]
          dsimp only
          rw [h.mark_enter hnext]
          simp [Slot.mem_ancestors_concat_iff hq hnext, hoff]
      rw [hparent]

lemma Midway.moves_enter (hknows : t.Knows scenario rs)
    (hi : (Slot.ofScenario scenario)[i]? = some slot) :
    Move.ofSlot i (enter (Slot.ofScenario scenario) next k r p).board.moves =
      (if (t.board.mark i).started = false ∧ ((enter (Slot.ofScenario scenario) next k r p).board.mark i).started = true
        then [.started i] else []) ++
      (if (t.board.mark i).closed = false ∧ ((enter (Slot.ofScenario scenario) next k r p).board.mark i).closed = true
        then (enter (Slot.ofScenario scenario) next k r p).board.closing slot i (resultOf (some r) none slot) else []) := by
  have hstarted : ((enter (Slot.ofScenario scenario) next k r p).board.mark i).started = ((p.board.mark i).started ||
      (begins next r (p.board.mark k) && decide (i ∈ next.ancestors scenario ++ [k]))) := by
    rw [h.mark_enter hnext]
  rw [ofSlot_enter (h.lt_length hnext) h.rooted hnext (h.around_lt hnext), h.moves hi, h.closed_enter hnext]
  by_cases hpast : (t.board.mark i).closed = false ∧ (p.board.mark i).closed = true
  · -- the slot was closed in the pass, so that it does not start any more
    have hnot : i ∉ next.ancestors scenario ++ [k] := fun hmem =>
      h.not_prefix_of_closed hknows hi hnext hpast.1 hpast.2
        ((Slot.mem_ancestors_concat_iff hi hnext).mp hmem)
    have hnone : ¬(begins next r (p.board.mark k) = true ∧ i ∈ next.ancestors scenario ++ [k] ∧
        (p.board.mark i).started = false) := fun hall => hnot hall.2.1
    have hsame : ((enter (Slot.ofScenario scenario) next k r p).board.mark i).started = (p.board.mark i).started := by
      simp only [hstarted, hnot, decide_false, Bool.and_false, Bool.or_false]
    rw [h.closing_enter hnext hknows hi hpast.1 hpast.2, hsame, if_pos hpast, if_neg hnone,
      List.append_nil]
  · rw [if_neg hpast, if_neg hpast, List.append_nil, List.append_nil, hstarted]
    cases hnow : (p.board.mark i).started with
    | true => simp
    | false =>
        have hunstarted : (t.board.mark i).started = false := by
          rw [Bool.eq_false_iff]
          intro hstart
          rw [(h.started hi).mpr (Or.inl ((hknows.started hi).mp hstart))] at hnow
          exact absurd hnow (by simp)
        simp [hunstarted]

/-- **Entering the next slot.** -/
theorem midway_enter (hknows : t.Knows scenario rs) :
    Midway scenario t rs r (k + 1) left (enter (Slot.ofScenario scenario) next k r p) where
  length_marks := by rw [length_enter (h.lt_length hnext) h.rooted hnext, h.length_marks]
  held := h.held_enter hnext
  replaced_lt := h.replaced_lt_enter hnext
  replaced_iff := h.replaced_iff_enter hnext
  started := h.started_enter hnext
  left_stop := by
    intro a ha
    obtain ⟨around, hslot, hstop⟩ := h.left_stop ha
    exact ⟨around, hslot, by omega⟩
  closed := by
    intro i slot hi
    rw [h.closed_enter hnext, h.closed hi]
  moves := h.moves_enter hnext hknows

end Enter

/-! ### Leaving a slot -/

/-- The status that the pass holds on a slot behind it is that of the snapshot, if that has one. -/
lemma Midway.status_of_statusAt (h : Midway scenario t rs r k left p)
    (hi : (Slot.ofScenario scenario)[i]? = some slot) (hlt : i < k) {s : Status}
    (hs : r.statusAt? slot.path = some s) : (p.board.mark i).held.status = s := by
  rw [h.held hi, if_pos hlt, ExecutionReport.statusOf_concat, hs, Option.getD_some]

/-- A step that finishes has an outcome in the snapshot. -/
lemma Midway.decides_of_finishes (h : Midway scenario t rs r k left p)
    (ha : (Slot.ofScenario scenario)[a]? = some slot) (hlt : a < k)
    (hfinishes : finishes slot a p = true) : r.Decides slot.path := by
  simp only [finishes, Bool.and_eq_true, Bool.not_eq_true', List.contains_iff_mem] at hfinishes
  obtain ⟨⟨⟨⟨hreplaced, hterminal⟩, -⟩, -⟩, hdeferred⟩ := hfinishes
  obtain ⟨s, hs, -⟩ :=
    (h.replaced_iff ha (Slot.retryable_eq_false ha hdeferred) hlt).mp hreplaced
  exact ⟨s, hs, h.status_of_statusAt ha hlt hs ▸ hterminal⟩

/-- A step with an outcome in the snapshot that does not finish was closed before: the outcome is not
new, or a step around it has closed it. -/
lemma Midway.closed_of_decides (h : Midway scenario t rs r k left p)
    (ha : (Slot.ofScenario scenario)[a]? = some slot) (hlt : a < k)
    (hfinishes : ¬ finishes slot a p = true) (hdeferred : slot.deferred = false)
    (hdecides : r.Decides slot.path) : (p.board.mark a).closed = true := by
  have hshown := hdecides.shows
  obtain ⟨s, hs, hterminal⟩ := hdecides
  by_cases hold : s = statusOf rs slot.path
  · have hne : statusOf rs slot.path ≠ .notExecuted := fun hne => by
      simp [hold, hne, Status.isTerminal] at hterminal
    obtain ⟨r', hr', hs'⟩ := ExecutionReport.exists_of_statusOf hne
    obtain ⟨node, hnode, -⟩ := Slot.exists_node_of_getElem? ha
    have hretries : ¬ scenario.RetriesAlong slot.path := by
      rw [← Slot.deferred_iff_retriesAlong ha, hdeferred]
      exact Bool.false_ne_true
    exact (h.closed ha).mpr (Or.inl ⟨r', hr', slot.path, List.prefix_refl _, by rw [hnode]; rfl,
      hretries, _, hs', hold ▸ hterminal⟩)
  · have hreplaced : a ∈ p.replaced :=
      (h.replaced_iff ha (Slot.retryable_eq_false ha hdeferred) hlt).mpr ⟨s, hs, hold⟩
    have hstarted : (p.board.mark a).started = true :=
      (h.started ha).mpr (Or.inr ⟨a, slot, ha, hlt, List.prefix_refl _, hshown⟩)
    have hstatus := h.status_of_statusAt ha hlt hs
    by_contra hopen
    rw [Bool.not_eq_true] at hopen
    apply hfinishes
    simp [finishes, hreplaced, hstarted, hstatus, hterminal, hdeferred, hopen]

section Leave

variable (h : Midway scenario t rs r k left p) (ha : (Slot.ofScenario scenario)[a]? = some slot)
  (hstop : slot.stop = k)

include h ha hstop

lemma Midway.left_stop_leave {b : Nat} (hb : b ∈ a :: left) :
    ∃ around, (Slot.ofScenario scenario)[b]? = some around ∧ around.stop ≤ k := by
  rcases List.mem_cons.mp hb with rfl | hb
  · exact ⟨slot, ha, by omega⟩
  · exact h.left_stop hb

/-- A step that does not finish settles nothing that was not settled. -/
lemma Midway.leave_of_not_finishes (hfinishes : ¬ finishes slot a p = true) :
    Midway scenario t rs r k (a :: left) (leave (Slot.ofScenario scenario) slot a r p) := by
  have hlt : a < k := by
    have := (Slot.stop_le ha).1
    omega
  rw [leave, if_neg hfinishes]
  refine { h with left_stop := fun hb => h.left_stop_leave ha hstop hb, closed := ?_ }
  intro i s hi
  rw [h.closed hi]
  constructor
  · rintro (hsettled | ⟨b, around, hb, hrest⟩)
    · exact Or.inl hsettled
    · exact Or.inr ⟨b, around, List.mem_cons_of_mem _ hb, hrest⟩
  · rintro (hsettled | ⟨b, around, hb, hslot, hprefix, hdeferred, hdecides⟩)
    · exact Or.inl hsettled
    · rcases List.mem_cons.mp hb with rfl | hb
      · obtain rfl : slot = around := Option.some.inj (ha.symm.trans hslot)
        have hclosed := h.closed_of_decides ha hlt hfinishes hdeferred hdecides
        rcases (h.closed ha).mp hclosed with hsettled | ⟨c, outer, hc, houter, hpath, hrest⟩
        · exact Or.inl (hsettled.of_prefix hprefix)
        · exact Or.inr ⟨c, outer, hc, houter, hpath.trans hprefix, hrest⟩
      · exact Or.inr ⟨b, around, hb, hslot, hprefix, hdeferred, hdecides⟩

/-- A step that finishes is closed with everything below it. -/
lemma Midway.leave_of_finishes (hknows : t.Knows scenario rs)
    (hfinishes : finishes slot a p = true) :
    Midway scenario t rs r k (a :: left) (leave (Slot.ofScenario scenario) slot a r p) := by
  have hbounds := Slot.stop_le ha
  have hdecides := h.decides_of_finishes ha (by omega) hfinishes
  have hdeferred : slot.deferred = false := by
    simp only [finishes, Bool.and_eq_true, Bool.not_eq_true'] at hfinishes
    exact hfinishes.2
  have hlen : (Slot.ofScenario scenario).length = p.board.marks.length := h.length_marks.symm
  have hindices : ∀ j ∈ below slot a ++ [a], j < (Slot.ofScenario scenario).length := by
    intro j hj
    rw [mem_below_concat hbounds.1] at hj
    omega
  have hsame : Board.SameProgress (closeAll (Slot.ofScenario scenario) (some r) none
      (below slot a ++ [a]) p.board) p.board := Board.sameProgress_closeAll hlen hindices
  have hmem : ∀ {i s}, (Slot.ofScenario scenario)[i]? = some s →
      (i ∈ below slot a ++ [a] ↔ slot.path <+: s.path) := fun hi => by
    rw [mem_below_concat hbounds.1, Slot.path_prefix_iff ha hi]
  have hclosed : ∀ i, ((closeAll (Slot.ofScenario scenario) (some r) none
      (below slot a ++ [a]) p.board).mark i).closed
        = ((p.board.mark i).closed || decide (i ∈ below slot a ++ [a])) := by
    intro i
    rw [Board.mark_closeAll hlen hindices]
    split <;> simp_all
  rw [Tracker.leave_of_finishes ha hbounds.2 hlen hfinishes]
  refine
    { length_marks := by rw [Board.length_closeAll, h.length_marks]
      held := fun hi => by rw [(hsame _).2, h.held hi]
      replaced_lt := h.replaced_lt, replaced_iff := h.replaced_iff
      started := fun hi => by rw [(hsame _).1, h.started hi]
      left_stop := fun hb => h.left_stop_leave ha hstop hb, closed := ?_, moves := ?_ }
  · intro i s hi
    rw [hclosed, Bool.or_eq_true, decide_eq_true_eq, hmem hi, h.closed hi]
    constructor
    · rintro ((hsettled | ⟨b, around, hb, hrest⟩) | hprefix)
      · exact Or.inl hsettled
      · exact Or.inr ⟨b, around, List.mem_cons_of_mem _ hb, hrest⟩
      · exact Or.inr ⟨a, slot, List.mem_cons_self, ha, hprefix, hdeferred, hdecides⟩
    · rintro (hsettled | ⟨b, around, hb, hslot, hprefix, hrest⟩)
      · exact Or.inl (Or.inl hsettled)
      · rcases List.mem_cons.mp hb with rfl | hb
        · obtain rfl : slot = around := Option.some.inj (ha.symm.trans hslot)
          exact Or.inr hprefix
        · exact Or.inl (Or.inr ⟨b, around, hb, hslot, hprefix, hrest⟩)
  · intro i s hi
    rw [Board.ofSlot_closeAll hlen hindices hi, h.moves hi, hclosed, (hsame i).1,
      Board.closing_congr hsame, List.append_assoc]
    congr 1
    cases hpast : (p.board.mark i).closed with
    | true => simp
    | false =>
        have hbefore : (t.board.mark i).closed = false := by
          rw [Bool.eq_false_iff]
          intro hold
          rw [(h.closed hi).mpr (Or.inl ((hknows.closed hi).mp hold))] at hpast
          exact absurd hpast (by simp)
        simp [hbefore]

/-- **Leaving a slot.** -/
theorem midway_leave (hknows : t.Knows scenario rs) :
    Midway scenario t rs r k (a :: left) (leave (Slot.ofScenario scenario) slot a r p) := by
  by_cases hfinishes : finishes slot a p = true
  · exact h.leave_of_finishes ha hstop hknows hfinishes
  · exact h.leave_of_not_finishes ha hstop hfinishes

end Leave

/-! ## The whole pass -/

/-- **The walk keeps the invariant** and adds the slots that it leaves. -/
theorem midway_walk (hknows : t.Knows scenario rs) {visits : List Visit} {k' : Nat}
    (hwalk : Visit.Walk (Slot.ofScenario scenario) k visits k')
    (h : Midway scenario t rs r k left p) :
    ∃ left', (∀ a, a ∈ left' ↔ a ∈ left ∨ .leave a ∈ visits) ∧
      Midway scenario t rs r k' left'
        (visits.foldl (visit (Slot.ofScenario scenario) r) p) := by
  induction hwalk generalizing left p with
  | nil k => exact ⟨left, by simp, h⟩
  | enter hslot _ ih =>
      obtain ⟨left', hleft', hrest⟩ := ih (midway_enter h hslot hknows)
      refine ⟨left', fun a => by simp [hleft'], ?_⟩
      rw [List.foldl_cons]
      simpa only [visit, hslot] using hrest
  | leave hslot hstop _ ih =>
      obtain ⟨left', hleft', hrest⟩ := ih (midway_leave h hslot hstop hknows)
      refine ⟨left', fun a => ?_, ?_⟩
      · rw [hleft', List.mem_cons, List.mem_cons, Visit.leave.injEq]
        tauto
      · rw [List.foldl_cons]
        simpa only [visit, hslot] using hrest

/-- The pass of a snapshot ends with everything entered and everything left. -/
lemma midway_observe (hknows : t.Knows scenario rs) (r : ExecutionReport) :
    ∃ left, (∀ a, a < (Slot.ofScenario scenario).length → a ∈ left) ∧
      Midway scenario t rs r (Slot.ofScenario scenario).length left
        ((Visit.ofScenario scenario).foldl (visit (Slot.ofScenario scenario) r)
          ⟨t.board, []⟩) := by
  obtain ⟨left, hleft, h⟩ :=
    midway_walk hknows (Visit.walk_ofScenario scenario) (midway_start hknows r)
  exact ⟨left, fun a ha => (hleft a).mpr (Or.inr (Visit.leave_mem_ofScenario ha)), h⟩

lemma executed_singleton_iff {path : List Nat} :
    scenario.Executed [r] path ↔
      ∃ m below, (Slot.ofScenario scenario)[m]? = some below ∧
        m < (Slot.ofScenario scenario).length ∧ path <+: below.path ∧ r.Shows below.path := by
  constructor
  · rintro ⟨r', hr', below, hprefix, hstep, hshows⟩
    obtain rfl : r' = r := List.mem_singleton.mp hr'
    obtain ⟨node, hnode⟩ := Option.isSome_iff_exists.mp hstep
    obtain ⟨m, s, hm, rfl⟩ := Slot.exists_slot_of_step? hnode
    exact ⟨m, s, hm, (List.getElem?_eq_some_iff.mp hm).1, hprefix, hshows⟩
  · rintro ⟨m, s, hm, -, hprefix, hshows⟩
    obtain ⟨node, hnode, -⟩ := Slot.exists_node_of_getElem? hm
    exact ⟨r, List.mem_singleton_self r, s.path, hprefix, by rw [hnode]; rfl, hshows⟩

lemma settled_singleton_iff {path : List Nat} (hall : ∀ a, a < (Slot.ofScenario scenario).length →
    a ∈ left) :
    scenario.Settled [r] path ↔
      ∃ a around, a ∈ left ∧ (Slot.ofScenario scenario)[a]? = some around ∧
        around.path <+: path ∧ around.deferred = false ∧ r.Decides around.path := by
  constructor
  · rintro ⟨r', hr', around, hprefix, hstep, hretries, hdecides⟩
    obtain rfl : r' = r := List.mem_singleton.mp hr'
    obtain ⟨node, hnode⟩ := Option.isSome_iff_exists.mp hstep
    obtain ⟨a, s, ha, rfl⟩ := Slot.exists_slot_of_step? hnode
    rw [← Slot.deferred_iff_retriesAlong ha, Bool.not_eq_true] at hretries
    exact ⟨a, s, hall a (List.getElem?_eq_some_iff.mp ha).1, ha, hprefix, hretries, hdecides⟩
  · rintro ⟨a, s, -, ha, hprefix, hdeferred, hdecides⟩
    obtain ⟨node, hnode, -⟩ := Slot.exists_node_of_getElem? ha
    refine ⟨r, List.mem_singleton_self r, s.path, hprefix, by rw [hnode]; rfl, ?_, hdecides⟩
    rw [← Slot.deferred_iff_retriesAlong ha, hdeferred]
    exact Bool.false_ne_true

/-- **A snapshot more**: after observing it, the tracker knows the history with it. -/
theorem knows_observe (hknows : t.Knows scenario rs) (r : ExecutionReport) :
    (t.observe r).2.Knows scenario (rs ++ [r]) := by
  obtain ⟨left, hall, h⟩ := midway_observe hknows r
  have hlt : ∀ {i slot}, (Slot.ofScenario scenario)[i]? = some slot →
      i < (Slot.ofScenario scenario).length := fun hi => (List.getElem?_eq_some_iff.mp hi).1
  rw [observe, slots, hknows.scenario_eq, scan_ofScenario]
  refine
    { scenario_eq := rfl, length_marks := h.length_marks
      last_eq := List.getLast?_concat.symm, held := ?_, started := ?_, closed := ?_ }
  · intro i slot hi
    have hheld := h.held hi
    rwa [if_pos (hlt hi)] at hheld
  · intro i slot hi
    rw [Node.executed_append, executed_singleton_iff]
    exact h.started hi
  · intro i slot hi
    rw [Node.settled_append, settled_singleton_iff hall]
    exact h.closed hi

/-- **The moves of a slot** that a snapshot causes: it starts if it had not, and it is closed if it
was not. -/
theorem ofSlot_observe (hknows : t.Knows scenario rs) (r : ExecutionReport)
    (hi : (Slot.ofScenario scenario)[i]? = some slot) :
    Move.ofSlot i (t.observe r).1 =
      (if (t.board.mark i).started = false ∧ ((t.observe r).2.board.mark i).started = true
        then [.started i] else []) ++
      (if (t.board.mark i).closed = false ∧ ((t.observe r).2.board.mark i).closed = true
        then (t.observe r).2.board.closing slot i (resultOf (some r) none slot) else []) := by
  obtain ⟨left, -, h⟩ := midway_observe hknows r
  rw [observe, slots, hknows.scenario_eq, scan_ofScenario]
  exact h.moves hi

end Tracker

end ScenarioRunner

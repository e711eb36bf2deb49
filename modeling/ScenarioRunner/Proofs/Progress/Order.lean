import ScenarioRunner.Proofs.Progress.Reachable
import ScenarioRunner.Proofs.Progress.RollUp

/-!
# The order in which steps move

Entering a step starts the steps around it as well, as far as they have not started, and a step finishes
only when it is left.  This file says that the moves of one snapshot come in the order of the tree all
the same.

* `Move.starts` are the slots that some moves start.
* `Tracker.Ordered` is the invariant of the walk: what has started in the pass is sorted, and stands in
  front of the next slot.  `Tracker.Ordered.enter` and `Tracker.Ordered.leave` pass it on.
* `Tracker.pairwise_starts_observe`: the starts of a snapshot are sorted.
* `Tracker.exists_front`: when a step has been left that the snapshot settles, it has finished, and
  nothing behind it has started.
* `Tracker.inOrder_observe` puts both together for every state of a tracker.

A step around the next one that has not started has nothing below it that has, so that what is in front
of the next one and has started is in front of that step as well.
-/

namespace ScenarioRunner

/-! ## Starts -/

namespace Move

/-- The slot that a move starts. -/
def start? : Move → Option Nat
  | started i => some i
  | _ => none

/-- The slots that some moves start. -/
def starts (moves : List Move) : List Nat :=
  moves.filterMap start?

@[simp] lemma starts_append (moves more : List Move) :
    starts (moves ++ more) = starts moves ++ starts more :=
  List.filterMap_append ..

lemma mem_starts {i : Nat} {moves : List Move} : i ∈ starts moves ↔ .started i ∈ moves := by
  rw [starts, List.mem_filterMap]
  constructor
  · rintro ⟨m, hm, hstart⟩
    cases m with
    | started j =>
        obtain rfl := Option.some.inj hstart
        exact hm
    | finished => exact absurd hstart (by simp [start?])
    | skipped => exact absurd hstart (by simp [start?])
  · exact fun h => ⟨_, h, rfl⟩

end Move

namespace Board

variable {b : Board} {slots : List Slot} {last : Option ExecutionReport} {failure : Option String}

/-- Starting some slots one after the other starts those that have not started, in this order. -/
lemma starts_startAll {indices : List Nat} (hlt : ∀ j ∈ indices, j < b.marks.length)
    (hnodup : indices.Nodup) :
    Move.starts (indices.foldl ensure b).moves =
      Move.starts b.moves ++ indices.filter fun j => !(b.mark j).started := by
  induction indices generalizing b with
  | nil => simp
  | cons i indices ih =>
      obtain ⟨hnot, hnodup⟩ := List.nodup_cons.mp hnodup
      have hi : i < b.marks.length := hlt i List.mem_cons_self
      have hothers : ∀ j ∈ indices, (!((b.ensure i).mark j).started) = !(b.mark j).started := by
        intro j hj
        rw [mark_ensure hi, if_neg (by rintro rfl; exact hnot hj)]
      rw [List.foldl_cons, ih (fun j hj => by simpa using hlt j (List.mem_cons_of_mem _ hj)) hnodup,
        List.filter_congr hothers, moves_ensure, Move.starts_append, List.append_assoc,
        List.filter_cons]
      congr 1
      cases (b.mark i).started <;> rfl

lemma starts_closing (slot : Slot) (i : Nat) (result : StepReport → NodeResult) :
    Move.starts (b.closing slot i result) = [] := by
  unfold closing
  split
  · rfl
  · split <;> rfl

/-- Closing slots starts none. -/
lemma starts_closeAll (indices : List Nat) :
    Move.starts (Tracker.closeAll slots last failure indices b).moves = Move.starts b.moves := by
  induction indices generalizing b with
  | nil => rfl
  | cons i indices ih =>
      cases hslot : slots[i]? with
      | none =>
          have hskip : Tracker.closeAll slots last failure (i :: indices) b =
              Tracker.closeAll slots last failure indices b := by
            simp only [Tracker.closeAll, List.foldl_cons, hslot]
          rw [hskip, ih]
      | some slot =>
          rw [closeAll_cons hslot, ih, moves_close, Move.starts_append]
          split
          · exact List.append_nil _
          · rw [starts_closing, List.append_nil]

/-- A slot in front of another one that has started is in front of every slot at or around the latter
that has not. -/
lemma Records.lt_of_started {scenario : Node} {early : List Move}
    (h : Records scenario early b) {k a i : Nat} {next : Slot}
    (hnext : (Slot.ofScenario scenario)[k]? = some next) (ha : a ∈ next.ancestors scenario ++ [k])
    (hunstarted : (b.mark a).started = false) (hi : i < k) (hstarted : (b.mark i).started = true) :
    i < a := by
  obtain ⟨around, haround, hstop⟩ : ∃ around, (Slot.ofScenario scenario)[a]? = some around ∧
      k < around.stop := by
    rcases List.mem_append.mp ha with ha | ha
    · obtain ⟨around, haround, -, hstop⟩ := (Slot.mem_ancestors_iff hnext).mp ha
      exact ⟨around, haround, hstop⟩
    · obtain rfl := List.mem_singleton.mp ha
      exact ⟨next, hnext, (Slot.stop_le hnext).1⟩
  have hslot := List.getElem?_eq_getElem (l := Slot.ofScenario scenario) (i := i)
    (Nat.lt_trans hi (List.getElem?_eq_some_iff.mp hnext).1)
  by_contra hge
  rcases Nat.eq_or_lt_of_le (Nat.not_lt.mp hge) with rfl | hlt
  · exact absurd (hunstarted.symm.trans hstarted) Bool.false_ne_true
  · have hbelow := (Slot.below_iff hslot haround).mpr ⟨hlt, Nat.lt_trans hi hstop⟩
    exact absurd (hunstarted.symm.trans (h.started_of_below hbelow hstarted)) Bool.false_ne_true

end Board

/-! ## One snapshot -/

namespace Tracker

variable {scenario : Node} {t : Tracker} {rs : List ExecutionReport} {r : ExecutionReport}
  {k i a : Nat} {early : List Move} {p : Pass} {slot : Slot}

/-- What has started in the pass is sorted and stands in front of the next slot. -/
structure Ordered (k : Nat) (p : Pass) : Prop where
  sorted : (Move.starts p.board.moves).Pairwise (· < ·)
  lt : ∀ i ∈ Move.starts p.board.moves, i < k
  started : ∀ i ∈ Move.starts p.board.moves, (p.board.mark i).started = true

/-- The starts of entering a slot: those at and around it that have not started, from the outermost
one. -/
lemma starts_enter (h : p.board.Records scenario early) {next : Slot}
    (hnext : (Slot.ofScenario scenario)[k]? = some next) :
    Move.starts (enter (Slot.ofScenario scenario) next k r p).board.moves =
      Move.starts p.board.moves ++
        if begins next r (p.board.mark k) then
          (next.ancestors scenario ++ [k]).filter fun j => !(p.board.mark j).started
        else [] := by
  have hnodup : (next.ancestors scenario ++ [k]).Nodup :=
    (Slot.pairwise_ancestors_concat hnext).imp Nat.ne_of_lt
  have hsame : ∀ j ∈ next.ancestors scenario ++ [k],
      (!((p.board.change k (holding next r)).mark j).started) = !(p.board.mark j).started := by
    intro j _
    rw [Board.mark_change (h.lt_length hnext)]
    split
    · rw [holding_started]
    · rfl
  rw [enter_eq (h.lt_length hnext) h.rooted hnext]
  dsimp only
  split
  · rw [Board.startWithin, Board.starts_startAll (by simpa using h.around_lt hnext) hnodup,
      List.filter_congr hsame]
    rfl
  · exact (List.append_nil _).symm

/-- **Entering a slot** keeps the order. -/
theorem Ordered.enter (hordered : Ordered k p) (h : p.board.Records scenario early)
    {next : Slot} (hnext : (Slot.ofScenario scenario)[k]? = some next) :
    Ordered (k + 1) (Tracker.enter (Slot.ofScenario scenario) next k r p) := by
  have hmark := Tracker.mark_enter (r := r) (h.lt_length hnext) h.rooted hnext (h.around_lt hnext)
  have hmem : ∀ i ∈ Move.starts (Tracker.enter (Slot.ofScenario scenario) next k r p).board.moves,
      i ∈ Move.starts p.board.moves ∨
        begins next r (p.board.mark k) = true ∧ i ∈ next.ancestors scenario ++ [k] := by
    intro i hi
    rw [starts_enter h hnext, List.mem_append] at hi
    refine hi.imp_right fun hi => ?_
    split at hi
    · next hbegins => exact ⟨hbegins, (List.mem_filter.mp hi).1⟩
    · exact absurd hi List.not_mem_nil
  constructor
  · rw [starts_enter h hnext]
    split
    · refine List.pairwise_append.mpr ⟨hordered.sorted,
        (Slot.pairwise_ancestors_concat hnext).filter _, fun i hi a ha => ?_⟩
      obtain ⟨ha, hunstarted⟩ := List.mem_filter.mp ha
      exact h.lt_of_started hnext ha (by simpa using hunstarted) (hordered.lt i hi)
        (hordered.started i hi)
    · rw [List.append_nil]
      exact hordered.sorted
  · intro i hi
    rcases hmem i hi with hi | ⟨-, hi⟩
    · exact Nat.lt_succ_of_lt (hordered.lt i hi)
    · exact Nat.lt_succ_of_le (Slot.le_of_mem_ancestors_concat hnext hi)
  · intro i hi
    rw [hmark]
    rcases hmem i hi with hi | ⟨hbegins, hi⟩
    · simp [hordered.started i hi]
    · simp [hbegins, hi]

/-- Leaving a slot starts none. -/
lemma starts_leave (slots : List Slot) (slot : Slot) (a : Nat) (r : ExecutionReport) (p : Pass) :
    Move.starts (leave slots slot a r p).board.moves = Move.starts p.board.moves := by
  unfold leave
  split
  · dsimp only [Board.add, Board.change]
    rw [Move.starts_append, Board.starts_closeAll]
    exact List.append_nil _
  · rfl

/-- **Leaving a slot** keeps the order. -/
theorem Ordered.leave (hordered : Ordered k p) (h : p.board.Records scenario early)
    (ha : (Slot.ofScenario scenario)[a]? = some slot) :
    Ordered k (Tracker.leave (Slot.ofScenario scenario) slot a r p) := by
  have hstarts := starts_leave (Slot.ofScenario scenario) slot a r p
  refine ⟨hstarts ▸ hordered.sorted, hstarts ▸ hordered.lt, fun i hi => ?_⟩
  rw [mark_leave h ha]
  exact hordered.started i (hstarts ▸ hi)

/-- **The walk keeps the order.** -/
theorem Ordered.walk {visits : List Visit} {k' : Nat}
    (hwalk : Visit.Walk (Slot.ofScenario scenario) k visits k')
    (h : p.board.Records scenario early) (hordered : Ordered k p) :
    Ordered k' (visits.foldl (visit (Slot.ofScenario scenario) r) p) := by
  induction hwalk generalizing p with
  | nil => exact hordered
  | enter hslot _ ih =>
      rw [List.foldl_cons]
      simpa only [visit, hslot] using ih (records_enter h hslot) (hordered.enter h hslot)
  | leave hslot _ _ ih =>
      rw [List.foldl_cons]
      simpa only [visit, hslot] using ih (records_leave h hslot) (hordered.leave h hslot)

/-- Nothing has started when the walk begins. -/
lemma ordered_start (t : Tracker) : Ordered 0 ⟨t.board, []⟩ :=
  ⟨.nil, fun _ hi => absurd hi List.not_mem_nil, fun _ hi => absurd hi List.not_mem_nil⟩

/-- **The starts of a snapshot** come in the order of the tree. -/
theorem pairwise_starts_observe (h : t.board.Records scenario early)
    (hscenario : t.scenario = scenario) (r : ExecutionReport) :
    (Move.starts (t.observe r).1).Pairwise (· < ·) := by
  subst hscenario
  rw [observe, slots, scan_ofScenario]
  exact ((ordered_start t).walk (Visit.walk_ofScenario t.scenario) h).sorted

/-! ## Ends in front of starts -/

/-- Starting a step takes no move back. -/
lemma moves_prefix_start (slots : List Slot) (b : Board) (depth i : Nat) :
    b.moves <+: (b.start slots depth i).moves := by
  induction depth generalizing i with
  | zero => exact List.prefix_refl _
  | succ depth ih =>
      rw [Board.start]
      refine List.IsPrefix.trans ?_ (List.prefix_append ..)
      split
      · split
        · exact List.prefix_refl _
        · exact ih _
      · exact List.prefix_refl _

lemma moves_prefix_closeAll {slots : List Slot} {last : Option ExecutionReport}
    {failure : Option String} (indices : List Nat) (b : Board) :
    b.moves <+: (closeAll slots last failure indices b).moves := by
  refine List.foldlRecOn (motive := fun c : Board => b.moves <+: c.moves) indices _
    (List.prefix_refl _) ?_
  intro c hc i _
  split
  · rw [Board.moves_close]
    exact hc.trans (List.prefix_append ..)
  · exact hc

/-- A visit of a step takes no move back. -/
lemma moves_prefix_visit (slots : List Slot) (r : ExecutionReport) (p : Pass) (v : Visit) :
    p.board.moves <+: (visit slots r p v).board.moves := by
  cases v with
  | enter i =>
      rw [visit]
      split
      · unfold enter
        split
        · exact List.prefix_refl _
        · dsimp only
          split
          · dsimp only
            split
            · exact moves_prefix_start slots (p.board.change i _) _ i
            · exact List.prefix_refl _
          · exact List.prefix_refl _
      · exact List.prefix_refl _
  | leave i =>
      rw [visit]
      split
      · unfold leave
        split
        · exact (moves_prefix_closeAll _ p.board).trans (List.prefix_append ..)
        · exact List.prefix_refl _
      · exact List.prefix_refl _

lemma moves_prefix_visits (slots : List Slot) (r : ExecutionReport) (visits : List Visit)
    (p : Pass) : p.board.moves <+: (visits.foldl (visit slots r) p).board.moves := by
  refine List.foldlRecOn (motive := fun q : Pass => p.board.moves <+: q.board.moves) visits _
    (List.prefix_refl _) ?_
  exact fun q hq v _ => hq.trans (moves_prefix_visit slots r q v)

/-- An open step that the snapshot settles has finished when it has been left. -/
lemma Midway.exists_finished {left : List Nat} (h : Midway scenario t rs r k left p)
    (ha : (Slot.ofScenario scenario)[a]? = some slot) (hlt : a < k) (hleft : a ∈ left)
    (hdeferred : slot.deferred = false) (hopen : (t.board.mark a).closed = false)
    (hdecides : r.Decides slot.path) : ∃ result, .finished a result ∈ p.board.moves := by
  have hstarted : (p.board.mark a).started = true :=
    (h.started ha).mpr (Or.inr ⟨a, slot, ha, hlt, List.prefix_refl _, hdecides.shows⟩)
  have hclosed : (p.board.mark a).closed = true :=
    (h.closed ha).mpr (Or.inr ⟨a, slot, hleft, ha, List.prefix_refl _, hdeferred, hdecides⟩)
  have hown := h.moves ha
  rw [if_pos (c := _ ∧ (p.board.mark a).closed = true) ⟨hopen, hclosed⟩, Board.closing,
    if_pos hstarted] at hown
  exact ⟨_, (Move.mem_ofSlot.mp (hown ▸ List.mem_append_right _ (List.mem_singleton_self _))).1⟩

/-- **An open step that the snapshot settles** finishes before anything behind it starts. -/
theorem exists_front (hknows : t.Knows scenario rs) (h : t.board.Records scenario early)
    (ha : (Slot.ofScenario scenario)[a]? = some slot) (hretries : ¬ scenario.RetriesAlong slot.path)
    (hopen : (t.board.mark a).closed = false) (hdecides : r.Decides slot.path) :
    ∃ front back result, (t.observe r).1 = front ++ back ∧ .finished a result ∈ front ∧
      ∀ i, .started i ∈ front → i < slot.stop := by
  have hdeferred : slot.deferred = false := by
    rwa [← Slot.deferred_iff_retriesAlong ha, Bool.not_eq_true] at hretries
  have hlt := (List.getElem?_eq_some_iff.mp ha).1
  obtain ⟨visits, later, s, hsplit, hs, hwalk, -⟩ :=
    (Visit.walk_ofScenario scenario).exists_split (Visit.leave_mem_ofScenario hlt)
  obtain rfl : slot = s := Option.some.inj (ha.symm.trans hs)
  -- the walk up to the visit that leaves the step, and what comes behind that
  have hfront : Visit.Walk (Slot.ofScenario scenario) 0 (visits ++ [Visit.leave a]) slot.stop :=
    hwalk.append (.leave ha rfl (.nil _))
  obtain ⟨left, hleft, hmidway⟩ := midway_walk hknows hfront (midway_start hknows r)
  have hordered := (ordered_start t).walk (r := r) hfront h
  obtain ⟨result, hfinished⟩ := hmidway.exists_finished ha (Slot.stop_le ha).1
    ((hleft a).mpr (Or.inr (by simp))) hdeferred hopen hdecides
  obtain ⟨back, hback⟩ := moves_prefix_visits (Slot.ofScenario scenario) r later
    ((visits ++ [Visit.leave a]).foldl (visit (Slot.ofScenario scenario) r) ⟨t.board, []⟩)
  refine ⟨_, back, result, ?_, hfinished, fun i hi => hordered.lt i (Move.mem_starts.mpr hi)⟩
  rw [hback, ← List.foldl_append, List.append_assoc, List.singleton_append, ← hsplit, observe, slots,
    hknows.scenario_eq, scan_ofScenario]
  rfl

/-- **The order of the tree**: what the moves of one snapshot from a state are like. -/
structure InOrder (scenario : Node) (t : Tracker) (r : ExecutionReport) (moves : List Move) :
    Prop where
  /-- Steps start in the order of the tree. -/
  starts : (Move.starts moves).Pairwise (· < ·)
  /-- An open step that is never tried again, and that the snapshot shows with an outcome, finishes
  before anything starts at or below a step that is behind it and everything below it. -/
  ends_first : ∀ {a b : Nat} {slot : Slot}, (Slot.ofScenario scenario)[a]? = some slot →
    (∀ d below, (Slot.ofScenario scenario)[d]? = some below → slot.path <+: below.path → d < b) →
    ¬ scenario.RetriesAlong slot.path → (t.board.mark a).closed = false → r.Decides slot.path →
    ∃ before result after, moves = before ++ .finished a result :: after ∧
      (∀ m ∈ before ++ after, m.ends a = false) ∧
      ∀ i, i = b ∨ Slot.Below scenario i b → .started i ∉ before

/-- **The moves of a snapshot come in the order of the tree**, in every state. -/
theorem inOrder_observe (h : Reachable scenario t) (r : ExecutionReport) :
    InOrder scenario t r (t.observe r).1 := by
  obtain ⟨early, hrecords⟩ := h.records
  refine ⟨pairwise_starts_observe hrecords h.scenario_eq r, ?_⟩
  intro a b slot ha hbehind hretries hopen hdecides
  have hlt := (List.getElem?_eq_some_iff.mp ha).1
  obtain ⟨rs, hobserved⟩ := h.observed_or_closed.resolve_right fun hclosed =>
    absurd (hopen.symm.trans (hclosed a hlt)) Bool.false_ne_true
  have hknows : t.Knows scenario rs := hobserved ▸ knows_observeAll scenario rs
  obtain ⟨front, back, result, hmoves, hmem, hstarts⟩ :=
    exists_front hknows hrecords ha hretries hopen hdecides
  obtain ⟨before, middle, rfl⟩ := List.append_of_mem hmem
  refine ⟨before, result, middle ++ back, by simp [hmoves], fun m hm => ?_, fun i hi hstarted => ?_⟩
  · have hnested := (records_observe hrecords h.scenario_eq r).nested.wellNested
    have hsplit : (early ++ (t.observe r).1) ++ (t.observe r).2.board.moves =
        (early ++ before) ++ .finished a result :: (middle ++ back) := by
      simp [hmoves, board]
    refine hnested.ends_eq_false hsplit (by simp [Move.ends]) ?_
    rw [List.append_assoc]
    exact List.mem_append_right _ hm
  · -- the last slot at or below the step is in front of the other one
    obtain ⟨hfirst, hstop⟩ := Slot.stop_le ha
    have hlast := List.getElem?_eq_getElem (l := Slot.ofScenario scenario) (i := slot.stop - 1)
      (by omega)
    have hbefore := hbehind _ _ hlast ((Slot.path_prefix_iff ha hlast).mpr (by omega))
    have hstart := hstarts i (List.mem_append_left _ hstarted)
    rcases hi with rfl | hbelow
    · omega
    · have := hbelow.lt
      omega

/-- The first of two steps has succeeded when the second one starts, and it finishes before that. -/
theorem inOrder_observe_grouped :
    .started 2 ∈
        ((ofScenario grouped).observe (groupedSnapshot .running .running .success .running)).1 ∧
      ∃ before result after,
        ((ofScenario grouped).observe (groupedSnapshot .running .running .success .running)).1 =
          before ++ .finished 1 result :: after ∧ .started 2 ∉ before := by
  have hslot : (Slot.ofScenario grouped)[1]? = some ⟨[0, 0], some 0, 2, false, false⟩ := by decide
  have hbehind : ∀ d below, (Slot.ofScenario grouped)[d]? = some below →
      [0, 0] <+: below.path → d < 2 :=
    fun d below hd hbelow => ((Slot.path_prefix_iff hslot hd).mp hbelow).2
  have hretries : ¬ grouped.RetriesAlong [0, 0] := by
    rw [← Slot.deferred_iff_retriesAlong hslot]
    exact Bool.false_ne_true
  have hstart : Reachable grouped (ofScenario grouped) := .start
  obtain ⟨before, result, after, hmoves, -, hstarts⟩ :=
    (inOrder_observe hstart (groupedSnapshot .running .running .success .running)).ends_first
      hslot hbehind hretries (by decide) ⟨.success, by decide, by decide⟩
  exact ⟨by decide, before, result, after, hmoves, hstarts 2 (Or.inl rfl)⟩

end Tracker

end ScenarioRunner

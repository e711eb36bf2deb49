import ScenarioRunner.Proofs.Progress.Observation

/-!
# The life of a step

The moves of one step over a whole run of its scenario: some snapshots, and what closes the steps
that are open at the end.

* `Move.Life`: nothing, a skip, or a start and then an end.
* `Move.Relapse`: a start that nothing follows, in front of which the step may have been skipped.
* `Tracker.Stage` is the invariant of the run: where a step is in its life, by the history.
* `Tracker.stage_observe` passes it from snapshot to snapshot, and `Tracker.stage_observeAll` gives
  it for every history.
* `Tracker.life_iff_not_revived`: the moves of a step are a life exactly if it is not revived.

A step is closed with one around it, whether it has started or not.  Closing is remembered, but a
start does not ask for it, so that a later snapshot can start a step that was skipped.
-/

namespace ScenarioRunner

namespace Move

/-- The moves of a step that is treated once. -/
inductive Life (i : Nat) : List Move → Prop where
  | still : Life i []
  | skipped (reason : String) : Life i [.skipped i reason]
  | finished (result : NodeResult) : Life i [.started i, .finished i result]

/-- The moves of a step that starts when it is closed. -/
inductive Relapse (i : Nat) : List Move → Prop where
  | unnoticed : Relapse i [.started i]
  | skipped (reason : String) : Relapse i [.skipped i reason, .started i]

lemma Relapse.not_life {i : Nat} {moves : List Move} (h : Relapse i moves) : ¬ Life i moves := by
  intro hlife
  cases h <;> cases hlife

end Move

namespace Node

variable {scenario : Node} {rs : List ExecutionReport} {r : ExecutionReport} {path : List Nat}

lemma not_settled_of_nil : ¬ scenario.Settled rs [] := by
  rintro ⟨_, -, around, haround, hstep, -⟩
  rw [List.prefix_nil.mp haround] at hstep
  exact absurd hstep (by simp [step?, among?])

/-- A step that was settled without being executed was settled with the step around it. -/
lemma Settled.dropLast (h : scenario.Settled rs path) (hnot : ¬ scenario.Executed rs path) :
    scenario.Settled rs path.dropLast := by
  obtain ⟨r, hr, around, haround, hstep, hretries, hdecides⟩ := h
  refine ⟨r, hr, around, ?_, hstep, hretries, hdecides⟩
  have hne : around ≠ path := by
    rintro rfl
    exact hnot ⟨r, hr, around, List.prefix_refl _, hstep, hdecides.shows⟩
  obtain ⟨rest, rfl⟩ := haround
  have hrest : rest ≠ [] := by
    rintro rfl
    exact hne (List.append_nil around).symm
  rw [List.dropLast_append_of_ne_nil hrest]
  exact List.prefix_append ..

lemma Revived.settled (h : scenario.Revived rs path) : scenario.Settled rs path := by
  obtain ⟨early, late, rfl, hsettled, -⟩ := h
  exact hsettled.mono (List.subset_append_left _ _)

lemma Revived.executed (h : scenario.Revived rs path) : scenario.Executed rs path := by
  obtain ⟨early, late, rfl, -, -, hlate⟩ := h
  exact hlate.mono (List.subset_append_right _ _)

/-- A step that is open, or was executed when it was closed, is not revived by one more snapshot. -/
lemma not_revived_concat (h : ¬ scenario.Revived rs path)
    (hor : ¬ scenario.Settled rs path ∨ scenario.Executed rs path) :
    ¬ scenario.Revived (rs ++ [r]) path := by
  rw [revived_concat_iff]
  rintro (hrevived | ⟨hsettled, hnot, -⟩)
  · exact h hrevived
  · exact hor.elim (fun hopen => hopen hsettled) hnot

end Node

namespace Tracker

variable {scenario : Node} {t : Tracker} {rs : List ExecutionReport} {r : ExecutionReport}
  {i : Nat} {slot : Slot} {moves : List Move}

/-- The step around the one at some positions has been executed; the scenario itself has. -/
def Entered (scenario : Node) (rs : List ExecutionReport) (path : List Nat) : Prop :=
  path.dropLast = [] ∨ scenario.Executed rs path.dropLast

lemma Entered.not_settled_or_executed {path : List Nat} (h : Entered scenario rs path) :
    ¬ scenario.Settled rs path.dropLast ∨ scenario.Executed rs path.dropLast := by
  rcases h with hnil | hexecuted
  · rw [hnil]
    exact Or.inl Node.not_settled_of_nil
  · exact Or.inr hexecuted

/-- Where the step at some positions is in its life after a history, and its moves so far. -/
inductive Stage (scenario : Node) (rs : List ExecutionReport) (path : List Nat) (i : Nat) :
    List Move → Prop where
  | waiting (hopen : ¬ scenario.Settled rs path) (hnot : ¬ scenario.Executed rs path) :
    Stage scenario rs path i []
  | running (hopen : ¬ scenario.Settled rs path) (hexecuted : scenario.Executed rs path) :
    Stage scenario rs path i [.started i]
  | finished (result : NodeResult) (hsettled : scenario.Settled rs path)
    (hexecuted : scenario.Executed rs path) (hnot : ¬ scenario.Revived rs path) :
    Stage scenario rs path i [.started i, .finished i result]
  /-- The step was skipped, as the step around it had started before both were closed. -/
  | skipped (reason : String) (hsettled : scenario.Settled rs path)
    (hnot : ¬ scenario.Executed rs path) (hentered : Entered scenario rs path)
    (haround : ¬ scenario.Revived rs path.dropLast) :
    Stage scenario rs path i [.skipped i reason]
  /-- The step was closed without a move, and the step around it can have started only later. -/
  | passed (hsettled : scenario.Settled rs path) (hnot : ¬ scenario.Executed rs path)
    (haround : Entered scenario rs path → scenario.Revived rs path.dropLast) :
    Stage scenario rs path i []
  | relapsed {moves : List Move} (hrevived : scenario.Revived rs path)
    (hmoves : Move.Relapse i moves) : Stage scenario rs path i moves

/-! ## One snapshot -/

/-- What closes a step when it is settled: its end if it was executed, else a skip if the step around
it was entered, else nothing. -/
lemma Knows.closing_cases (h : t.Knows scenario rs)
    (hi : (Slot.ofScenario scenario)[i]? = some slot) (result : StepReport → NodeResult) :
    (scenario.Executed rs slot.path ∧
      ∃ result', t.board.closing slot i result = [.finished i result']) ∨
    (¬ scenario.Executed rs slot.path ∧ Entered scenario rs slot.path ∧
      ∃ reason, t.board.closing slot i result = [.skipped i reason]) ∨
    (¬ scenario.Executed rs slot.path ∧ ¬ Entered scenario rs slot.path ∧
      t.board.closing slot i result = []) := by
  unfold Board.closing
  rw [Entered, ← h.parentStarted_iff hi, ← h.started hi]
  cases (t.board.mark i).started <;> cases t.board.parentStarted slot <;> simp

/-- **One more snapshot** takes a step from stage to stage. -/
theorem stage_observe (hknows : t.Knows scenario rs) (r : ExecutionReport)
    (hi : (Slot.ofScenario scenario)[i]? = some slot) (h : Stage scenario rs slot.path i moves) :
    Stage scenario (rs ++ [r]) slot.path i (moves ++ Move.ofSlot i (t.observe r).1) := by
  classical
  have hnext := knows_observe hknows r
  have hexecuted : scenario.Executed rs slot.path → scenario.Executed (rs ++ [r]) slot.path :=
    fun h => h.mono (List.subset_append_left _ _)
  have hsettled : scenario.Settled rs slot.path → scenario.Settled (rs ++ [r]) slot.path :=
    fun h => h.mono (List.subset_append_left _ _)
  have hrevived : ∀ {path}, scenario.Settled rs path → ¬ scenario.Executed rs path →
      scenario.Executed (rs ++ [r]) path → scenario.Revived (rs ++ [r]) path := by
    intro path hs hnot hnow
    exact Node.revived_concat_iff.mpr
      (Or.inr ⟨hs, hnot, (Node.executed_append.mp hnow).resolve_left hnot⟩)
  have hmoves := ofSlot_observe hknows r hi
  simp only [← Bool.not_eq_true, hknows.started hi, hknows.closed hi, hnext.started hi,
    hnext.closed hi] at hmoves
  rw [hmoves]
  have hclosing := hnext.closing_cases hi (resultOf (some r) none slot)
  cases h with
  | waiting hopen hnot =>
      by_cases hs : scenario.Settled (rs ++ [r]) slot.path
      · rcases hclosing with ⟨hnow, result, heq⟩ | ⟨hnow, hentered, reason, heq⟩ |
          ⟨hnow, hentered, heq⟩
        · rw [if_pos ⟨hnot, hnow⟩, if_pos ⟨hopen, hs⟩, heq]
          exact .finished result hs hnow
            (Node.not_revived_concat (fun hr => hopen hr.settled) (Or.inl hopen))
        · rw [if_neg fun hboth => hnow hboth.2, if_pos ⟨hopen, hs⟩, heq]
          have haround : ¬ scenario.Settled rs slot.path.dropLast := fun haround =>
            hopen (haround.of_prefix (List.dropLast_prefix _))
          exact .skipped reason hs hnow hentered
            (Node.not_revived_concat (fun hr => haround hr.settled) (Or.inl haround))
        · rw [if_neg fun hboth => hnow hboth.2, if_pos ⟨hopen, hs⟩, heq]
          exact .passed hs hnow fun hentered' => absurd hentered' hentered
      · rw [if_neg fun hboth : _ ∧ _ => hs hboth.2]
        by_cases hnow : scenario.Executed (rs ++ [r]) slot.path
        · rw [if_pos ⟨hnot, hnow⟩]
          exact .running hs hnow
        · rw [if_neg fun hboth => hnow hboth.2]
          exact .waiting hs hnow
  | running hopen hexec =>
      rw [if_neg fun hboth => hboth.1 hexec]
      by_cases hs : scenario.Settled (rs ++ [r]) slot.path
      · rcases hclosing with ⟨hnow, result, heq⟩ | ⟨hnow, -⟩ | ⟨hnow, -⟩
        · rw [if_pos ⟨hopen, hs⟩, heq]
          exact .finished result hs hnow
            (Node.not_revived_concat (fun hr => hopen hr.settled) (Or.inl hopen))
        · exact absurd (hexecuted hexec) hnow
        · exact absurd (hexecuted hexec) hnow
      · rw [if_neg fun hboth => hs hboth.2]
        exact .running hs (hexecuted hexec)
  | finished result hs hexec hnot =>
      rw [if_neg fun hboth => hboth.1 hexec, if_neg fun hboth => hboth.1 hs]
      exact .finished result (hsettled hs) (hexecuted hexec)
        (Node.not_revived_concat hnot (Or.inr hexec))
  | skipped reason hs hnot hentered haround =>
      rw [if_neg (c := ¬ scenario.Settled rs slot.path ∧ _) fun hboth => hboth.1 hs]
      by_cases hnow : scenario.Executed (rs ++ [r]) slot.path
      · rw [if_pos ⟨hnot, hnow⟩]
        exact .relapsed (hrevived hs hnot hnow) (.skipped reason)
      · rw [if_neg fun hboth => hnow hboth.2]
        exact .skipped reason (hsettled hs) hnow
          (hentered.imp_right fun hup => hup.mono (List.subset_append_left _ _))
          (Node.not_revived_concat haround hentered.not_settled_or_executed)
  | passed hs hnot haround =>
      rw [if_neg (c := ¬ scenario.Settled rs slot.path ∧ _) fun hboth => hboth.1 hs]
      by_cases hnow : scenario.Executed (rs ++ [r]) slot.path
      · rw [if_pos ⟨hnot, hnow⟩]
        exact .relapsed (hrevived hs hnot hnow) .unnoticed
      · rw [if_neg fun hboth => hnow hboth.2]
        refine .passed (hsettled hs) hnow fun hentered => ?_
        by_cases hbefore : Entered scenario rs slot.path
        · exact (haround hbefore).append [r]
        · obtain ⟨hnil, hup⟩ := not_or.mp hbefore
          exact hrevived (hs.dropLast hnot) hup (hentered.resolve_left hnil)
  | relapsed hr hrelapse =>
      rw [if_neg fun hboth => hboth.1 hr.executed, if_neg fun hboth => hboth.1 hr.settled,
        List.append_nil, List.append_nil]
      exact .relapsed (hr.append [r]) hrelapse

/-- **Every history** has a stage for every step. -/
theorem stage_observeAll (rs : List ExecutionReport)
    (hi : (Slot.ofScenario scenario)[i]? = some slot) :
    Stage scenario rs slot.path i
      (Move.ofSlot i ((ofScenario scenario).observeAll rs).1) := by
  induction rs using List.reverseRecOn with
  | nil => exact .waiting Node.not_settled_nil Node.not_executed_nil
  | append_singleton rs r ih =>
      rw [observeAll_concat, Move.ofSlot_append]
      exact stage_observe (knows_observeAll scenario rs) r hi ih

/-! ## The end -/

/-- The moves over a whole run: some snapshots, and what closes the steps that are open at the
end. -/
def movesOver (scenario : Node) (rs : List ExecutionReport) (failure : Option String) :
    List Move :=
  ((ofScenario scenario).observeAll rs).1 ++
    (((ofScenario scenario).observeAll rs).2.finish failure).1

lemma ofSlot_finish (h : t.Knows scenario rs) (failure : Option String)
    (hi : (Slot.ofScenario scenario)[i]? = some slot) :
    Move.ofSlot i (t.finish failure).1 =
      if (t.board.mark i).closed = false then
        t.board.closing slot i (resultOf t.last failure slot)
      else [] := by
  have hlt := (List.getElem?_eq_some_iff.mp hi).1
  have hclose : Move.ofSlot i (closeAll (Slot.ofScenario scenario) t.last failure
      (List.range t.marks.length).reverse t.board).moves =
        Move.ofSlot i t.board.moves ++
          if i ∈ (List.range t.marks.length).reverse ∧ (t.board.mark i).closed = false then
            t.board.closing slot i (resultOf t.last failure slot)
          else [] :=
    Board.ofSlot_closeAll h.length_marks.symm (by simp [h.length_marks]) hi
  have hin : i ∈ (List.range t.marks.length).reverse := by simpa [h.length_marks] using hlt
  rw [finish, slots, h.scenario_eq]
  by_cases hopen : (t.board.mark i).closed = false
  · rw [if_pos ⟨hin, hopen⟩] at hclose
    rw [if_pos hopen]
    exact hclose
  · rw [if_neg fun hboth => hopen hboth.2] at hclose
    rw [if_neg hopen]
    exact hclose

/-- What the moves of a step over a whole run can be. -/
inductive Outcome (scenario : Node) (rs : List ExecutionReport) (path : List Nat) (i : Nat) :
    List Move → Prop where
  | finished (result : NodeResult) (hexecuted : scenario.Executed rs path)
    (hnot : ¬ scenario.Revived rs path) :
    Outcome scenario rs path i [.started i, .finished i result]
  | skipped (reason : String) (hnot : ¬ scenario.Executed rs path)
    (hentered : Entered scenario rs path) (haround : ¬ scenario.Revived rs path.dropLast) :
    Outcome scenario rs path i [.skipped i reason]
  | passed (hnot : ¬ scenario.Executed rs path)
    (haround : Entered scenario rs path → scenario.Revived rs path.dropLast) :
    Outcome scenario rs path i []
  | relapsed {moves : List Move} (hrevived : scenario.Revived rs path)
    (hmoves : Move.Relapse i moves) : Outcome scenario rs path i moves

/-- **A whole run** has an outcome for every step. -/
theorem outcome_movesOver (rs : List ExecutionReport) (failure : Option String)
    (hi : (Slot.ofScenario scenario)[i]? = some slot) :
    Outcome scenario rs slot.path i (Move.ofSlot i (movesOver scenario rs failure)) := by
  classical
  have hknows := knows_observeAll scenario rs
  have hstage := stage_observeAll rs hi
  have hclosing := hknows.closing_cases hi
    (resultOf ((ofScenario scenario).observeAll rs).2.last failure slot)
  rw [movesOver, Move.ofSlot_append, ofSlot_finish hknows failure hi]
  simp only [← Bool.not_eq_true, hknows.closed hi]
  generalize Move.ofSlot i ((ofScenario scenario).observeAll rs).1 = moves at hstage ⊢
  cases hstage with
  | waiting hopen hnot =>
      rw [if_pos hopen, List.nil_append]
      rcases hclosing with ⟨hnow, -⟩ | ⟨-, hentered, reason, heq⟩ | ⟨-, hentered, heq⟩
      · exact absurd hnow hnot
      · rw [heq]
        exact .skipped reason hnot hentered fun hrevived =>
          hopen (hrevived.settled.of_prefix (List.dropLast_prefix _))
      · rw [heq]
        exact .passed hnot fun hentered' => absurd hentered' hentered
  | running hopen hexecuted =>
      rw [if_pos hopen]
      rcases hclosing with ⟨-, result, heq⟩ | ⟨hnow, -⟩ | ⟨hnow, -⟩
      · rw [heq]
        exact .finished result hexecuted fun hrevived => hopen hrevived.settled
      · exact absurd hexecuted hnow
      · exact absurd hexecuted hnow
  | finished result hsettled hexecuted hnot =>
      rw [if_neg fun hopen => hopen hsettled]
      exact .finished result hexecuted hnot
  | skipped reason hsettled hnot hentered haround =>
      rw [if_neg fun hopen => hopen hsettled]
      exact .skipped reason hnot hentered haround
  | passed hsettled hnot haround =>
      rw [if_neg fun hopen => hopen hsettled]
      exact .passed hnot haround
  | relapsed hrevived hmoves =>
      rw [if_neg fun hopen => hopen hrevived.settled, List.append_nil]
      exact .relapsed hrevived hmoves

namespace Outcome

variable {path : List Nat}

/-- The moves of a step are a life exactly if the step is not revived. -/
lemma life_iff (h : Outcome scenario rs path i moves) :
    Move.Life i moves ↔ ¬ scenario.Revived rs path := by
  cases h with
  | finished result _ hnot => exact iff_of_true (.finished result) hnot
  | skipped reason hnot => exact iff_of_true (.skipped reason) fun hr => hnot hr.executed
  | passed hnot => exact iff_of_true .still fun hr => hnot hr.executed
  | relapsed hrevived hmoves =>
      exact iff_of_false hmoves.not_life fun hnot => hnot hrevived

/-- The moves of a step are a relapse if it is revived. -/
lemma relapse (h : Outcome scenario rs path i moves) (hrevived : scenario.Revived rs path) :
    Move.Relapse i moves := by
  cases h with
  | finished _ _ hnot => exact absurd hrevived hnot
  | skipped _ hnot => exact absurd hrevived.executed hnot
  | passed hnot => exact absurd hrevived.executed hnot
  | relapsed _ hmoves => exact hmoves

/-- A step has no moves exactly if it was not executed and the step around it was entered too late,
if at all. -/
lemma eq_nil_iff (h : Outcome scenario rs path i moves) :
    moves = [] ↔ ¬ scenario.Executed rs path ∧
      (Entered scenario rs path → scenario.Revived rs path.dropLast) := by
  cases h with
  | finished _ hexecuted => exact iff_of_false (by simp) fun hboth => hboth.1 hexecuted
  | skipped _ _ hentered haround =>
      exact iff_of_false (by simp) fun hboth => haround (hboth.2 hentered)
  | passed hnot haround => exact iff_of_true rfl ⟨hnot, haround⟩
  | relapsed hrevived hmoves =>
      exact iff_of_false (by rintro rfl; cases hmoves) fun hboth => hboth.1 hrevived.executed

end Outcome

lemma started_mem_movesOver_iff (rs : List ExecutionReport) (failure : Option String)
    (hi : (Slot.ofScenario scenario)[i]? = some slot) :
    .started i ∈ movesOver scenario rs failure ↔ scenario.Executed rs slot.path := by
  have hend : Move.started i ∉ (((ofScenario scenario).observeAll rs).2.finish failure).1 := by
    intro hmem
    have hmem' := Move.mem_ofSlot.mpr ⟨hmem, rfl⟩
    rw [Move.slot, ofSlot_finish (knows_observeAll scenario rs) failure hi] at hmem'
    split at hmem'
    · exact started_not_mem_closing _ slot i i _ hmem'
    · exact List.not_mem_nil hmem'
  rw [movesOver, List.mem_append, or_iff_left hend, started_mem_observeAll_iff rs hi]

/-- **A step lives once, unless it is revived.**  Over any snapshots and any end of the run, the moves
of a step are none, a skip, or a start and then an end, exactly if the step is not revived; otherwise
its last move is a start.  A step at the top always moves.  Another one has no moves although the
step around it starts exactly if the latter is revived and the step itself never executed. -/
theorem life_iff_not_revived (scenario : Node) (rs : List ExecutionReport)
    (failure : Option String) {i : Nat} {slot : Slot}
    (hi : (Slot.ofScenario scenario)[i]? = some slot) :
    (Move.Life i (Move.ofSlot i (movesOver scenario rs failure)) ↔
      ¬ scenario.Revived rs slot.path) ∧
    (scenario.Revived rs slot.path →
      Move.Relapse i (Move.ofSlot i (movesOver scenario rs failure))) ∧
    (slot.parent? = none → Move.ofSlot i (movesOver scenario rs failure) ≠ []) ∧
    ∀ (p : Nat) (above : Slot), slot.parent? = some p →
      (Slot.ofScenario scenario)[p]? = some above →
      ((Move.ofSlot i (movesOver scenario rs failure) = [] ∧
          .started p ∈ movesOver scenario rs failure) ↔
        scenario.Revived rs above.path ∧ ¬ scenario.Executed rs slot.path) := by
  have houtcome := outcome_movesOver rs failure hi
  refine ⟨houtcome.life_iff, houtcome.relapse, ?_, ?_⟩
  · intro hnone hnil
    obtain ⟨-, haround⟩ := houtcome.eq_nil_iff.mp hnil
    rcases Slot.parent?_spec hi with ⟨-, j, hpath⟩ | ⟨p, _, _, -, -, hsome, -⟩
    · rw [Entered, hpath, List.dropLast_singleton] at haround
      exact Node.not_settled_of_nil (haround (Or.inl rfl)).settled
    · rw [hnone] at hsome
      exact absurd hsome (by simp)
  · intro p above hparent habove
    rcases Slot.parent?_spec hi with ⟨hnone, -⟩ | ⟨p', above', j, -, habove', hsome, hpath⟩
    · rw [hnone] at hparent
      exact absurd hparent (by simp)
    · obtain rfl : p = p' := Option.some.inj (hparent.symm.trans hsome)
      obtain rfl : above = above' := Option.some.inj (habove.symm.trans habove')
      rw [houtcome.eq_nil_iff, started_mem_movesOver_iff rs failure habove, Entered, hpath,
        List.dropLast_concat]
      constructor
      · rintro ⟨⟨hnot, haround⟩, hup⟩
        exact ⟨haround (Or.inr hup), hnot⟩
      · rintro ⟨hrevived, hnot⟩
        exact ⟨⟨hnot, fun _ => hrevived⟩, hrevived.executed⟩

/-- A step that is never revived lives once. -/
theorem life_iff_not_revived_nested :
    (Slot.ofScenario nested)[1]? = some ⟨[0, 0], some 0, 2, false, false⟩ ∧
      ¬ nested.Revived [nestedSnapshot .running .running, nestedSnapshot .success .running]
        [0, 0] := by
  have hslot : (Slot.ofScenario nested)[1]? = some ⟨[0, 0], some 0, 2, false, false⟩ := by decide
  have h := life_iff_not_revived nested
    [nestedSnapshot .running .running, nestedSnapshot .success .running] none hslot
  have hmoves : Move.ofSlot 1 (movesOver nested
      [nestedSnapshot .running .running, nestedSnapshot .success .running] none) =
        [.started 1, .finished 1 (.failure "step '' ended with status RUNNING")] := by decide
  exact ⟨hslot, h.1.mp (hmoves ▸ .finished _)⟩

/-- **A step that was skipped may start.**  The step around it has succeeded without it, and a later
snapshot shows it as running.  It never finishes. -/
theorem not_life_nested :
    Move.ofSlot 1 (movesOver nested
        [nestedSnapshot .success .notExecuted, nestedSnapshot .success .running] none) =
      [.skipped 1 "not executed", .started 1] ∧
    ¬ Move.Life 1 (Move.ofSlot 1 (movesOver nested
      [nestedSnapshot .success .notExecuted, nestedSnapshot .success .running] none)) := by
  have hmoves : Move.ofSlot 1 (movesOver nested
      [nestedSnapshot .success .notExecuted, nestedSnapshot .success .running] none) =
        [.skipped 1 "not executed", .started 1] := by decide
  exact ⟨hmoves, hmoves ▸ Move.Relapse.not_life (.skipped "not executed")⟩

end Tracker

end ScenarioRunner

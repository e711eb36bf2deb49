import ScenarioRunner.Proofs.Progress.Lifecycle
import ScenarioRunner.Proofs.Progress.Results

/-!
# Steps that are tried again

A step with a retry at, around or below it stays open until the end of the run, so that only the last
snapshot counts.

* `Node.RetriesAlong.not_settled`: no history settles such a step, as whatever could close a step
  around it has the same retry below it.
* `Tracker.open_of_retriesAlong`: it only starts before the end, and its result then is that of the last
  snapshot.
-/

namespace ScenarioRunner

/-! ## Steps with retries along them -/

namespace Node

variable {scenario : Node} {rs : List ExecutionReport} {path around : List Nat}

/-- The steps around a step have its retries along them, too. -/
lemma RetriesAlong.of_prefix (h : scenario.RetriesAlong path) (haround : around <+: path) :
    scenario.RetriesAlong around := by
  obtain ⟨p, node, hp, hnode, hretryable⟩ := h
  refine ⟨p, node, ?_, hnode, hretryable⟩
  rcases hp with hp | hp
  · exact List.prefix_or_prefix_of_prefix hp haround
  · exact Or.inr (haround.trans hp)

/-- No snapshots settle a step with a retry along it. -/
theorem RetriesAlong.not_settled (h : scenario.RetriesAlong path) :
    ¬ scenario.Settled rs path := by
  rintro ⟨r, -, around, haround, -, hnone, -⟩
  exact hnone (h.of_prefix haround)

end Node

namespace Tracker

variable {scenario : Node} {t : Tracker} {rs : List ExecutionReport} {r : ExecutionReport}
  {i : Nat} {slot : Slot}

/-- A snapshot can only start a step with a retry along it. -/
lemma Knows.eq_started_of_retriesAlong (h : t.Knows scenario rs)
    (hi : (Slot.ofScenario scenario)[i]? = some slot) (hretries : scenario.RetriesAlong slot.path)
    {m : Move} (hm : m ∈ (t.observe r).1) (hslot : m.slot = i) : m = .started i := by
  have hopen : ¬ ((t.observe r).2.board.mark i).closed = true := fun hclosed =>
    hretries.not_settled (((knows_observe h r).closed hi).mp hclosed)
  have hmem : m ∈ Move.ofSlot i (t.observe r).1 := Move.mem_ofSlot.mpr ⟨hm, hslot⟩
  rw [ofSlot_observe h r hi, if_neg fun hboth : _ ∧ _ => hopen hboth.2, List.append_nil] at hmem
  split at hmem
  · exact List.mem_singleton.mp hmem
  · exact absurd hmem List.not_mem_nil

/-- The status that is held on a step that the last snapshot has is the one given there. -/
lemma Knows.status_held_of_last (h : t.Knows scenario rs)
    (hi : (Slot.ofScenario scenario)[i]? = some slot) (hlast : rs.getLast? = some r)
    {sub : StepReport} (hsub : r.report.at? slot.path = some sub) :
    (t.board.mark i).held.status = sub.status := by
  obtain ⟨front, rfl⟩ := List.getLast?_eq_some_iff.mp hlast
  rw [h.held hi, ExecutionReport.statusOf_concat, ExecutionReport.statusAt?, hsub]
  rfl

/-- The end of a run without a failure finishes a step that has started and is open.  The result is
that of the last snapshot. -/
lemma Knows.ofSlot_finish_of_open (h : t.Knows scenario rs)
    (hi : (Slot.ofScenario scenario)[i]? = some slot) (hopen : ¬ scenario.Settled rs slot.path)
    (hexecuted : scenario.Executed rs slot.path) (hlast : rs.getLast? = some r) :
    Move.ofSlot i (t.finish none).1 =
      [.finished i (.ofStep (t.board.mark i).held (r.report.at? slot.path))] := by
  have hclosed : (t.board.mark i).closed = false :=
    Bool.eq_false_iff.mpr fun hclosed => hopen ((h.closed hi).mp hclosed)
  rw [ofSlot_finish h none hi, if_pos hclosed, Board.closing, if_pos ((h.started hi).mpr hexecuted),
    resultOf, h.last_eq, hlast, Option.bind_some]

/-- **Retries keep a step open until the end.**  If a step is tried again itself, or one around it or
below it is, no snapshot finishes or skips it, whatever came before.  If it has started and the last
snapshot has it, an end of the run without a failure finishes it, with success exactly if the last
snapshot says so and shows no failure in its tree. -/
theorem open_of_retriesAlong (scenario : Node) {i : Nat} {slot : Slot}
    (hi : (Slot.ofScenario scenario)[i]? = some slot) (hretries : scenario.RetriesAlong slot.path)
    (rs : List ExecutionReport) :
    (∀ r, ∀ m ∈ (((ofScenario scenario).observeAll rs).2.observe r).1,
      m.slot = i → m = .started i) ∧
    ∀ last sub, .started i ∈ ((ofScenario scenario).observeAll rs).1 → rs.getLast? = some last →
      last.report.at? slot.path = some sub →
      ∃ result,
        Move.ofSlot i (((ofScenario scenario).observeAll rs).2.finish none).1 =
          [.finished i result] ∧
        (result.verdict = .success ↔ sub.status = .success ∧
          ∀ path below, sub.at? path = some below → below.status ≠ .failure) := by
  have hknows := knows_observeAll scenario rs
  refine ⟨fun r m hm hslot => hknows.eq_started_of_retriesAlong hi hretries hm hslot, ?_⟩
  intro last sub hstarted hlast hsub
  have hexecuted := (started_mem_observeAll_iff rs hi).mp hstarted
  refine ⟨_, hknows.ofSlot_finish_of_open hi hretries.not_settled hexecuted hlast, ?_⟩
  rw [hsub, NodeResult.verdict_ofStep_eq_success_iff, hknows.status_held_of_last hi hlast hsub]
  simp only [StepReport.Fails, not_exists, not_and, ne_eq]

/-- A scenario whose only step is tried again and groups another one. -/
def persistent : Node :=
  .ofScenario ((NodeId.engine NodeId.engineName).append "class" "a.A") "s"
    ⟨.ofStep "persistent"
      ⟨"outer", none, some (.retry "10 s" "1 s"), [.action "inner" (.ofAction "success")]⟩,
      "a.A", "p", none⟩
    true

/-- The step inside fails, succeeds and fails before it succeeds.  It only starts until then. -/
theorem open_of_retriesAlong_persistent :
    (Slot.ofScenario persistent)[1]? = some ⟨[0, 0], some 0, 2, true, true⟩ ∧
      persistent.RetriesAlong [0, 0] ∧
      ((ofScenario persistent).observeAll
        [nestedSnapshot .running .failure, nestedSnapshot .success .success,
          nestedSnapshot .running .failure]).1 = [.started 0, .started 1] ∧
      ∃ result : NodeResult,
        Move.ofSlot 1 (((ofScenario persistent).observeAll
          [nestedSnapshot .running .failure, nestedSnapshot .success .success,
            nestedSnapshot .running .failure, nestedSnapshot .success .success]).2.finish none).1 =
          [.finished 1 result] ∧ result.verdict = .success := by
  have hslot : (Slot.ofScenario persistent)[1]? = some ⟨[0, 0], some 0, 2, true, true⟩ := by decide
  have hretries : persistent.RetriesAlong [0, 0] :=
    (Slot.deferred_iff_retriesAlong hslot).mp rfl
  refine ⟨hslot, hretries, by decide, ?_⟩
  obtain ⟨result, hmoves, hverdict⟩ := (open_of_retriesAlong persistent hslot hretries
    [nestedSnapshot .running .failure, nestedSnapshot .success .success,
      nestedSnapshot .running .failure, nestedSnapshot .success .success]).2
    (nestedSnapshot .success .success) { StepReport.blank with status := .success }
    (by decide) rfl rfl
  refine ⟨result, hmoves, hverdict.mpr ⟨rfl, fun path below hbelow => ?_⟩⟩
  cases path with
  | nil => cases hbelow; decide
  | cons j path => simp [StepReport.at?, StepReport.blank] at hbelow

end Tracker

end ScenarioRunner

import ScenarioRunner.Proofs.Progress.Index
import ScenarioRunner.Proofs.Progress.Repetition

/-!
# What is held on a step, by its history

A tracker puts the report that it holds on a step together from two snapshots: one that replaced the
report as a whole, and the last one that has the step.  This file finds both in the history.

* `ExecutionReport.LastWith`: a report in the last of some snapshots with a property, which may look at
  the snapshots in front.
* `ExecutionReport.ShownAt` and `Node.Renews` are the two properties, and `StepReport.composed` is what
  the two reports make.
* `Node.Holds.concat` follows what is held over one more snapshot.
* `Tracker.held_by_history`: a tracker holds this on every step after every history, and a step that is
  held as executed has started.
-/

namespace ScenarioRunner

namespace ExecutionReport

/-- The report found in the last snapshot with a property, if any has it.  The property is one of the
snapshots in front, the snapshot and the report. -/
def LastWith (P : List ExecutionReport → ExecutionReport → StepReport → Prop)
    (rs : List ExecutionReport) : Option StepReport → Prop
  | none => ∀ early r late new, rs = early ++ r :: late → ¬ P early r new
  | some new => ∃ early r late, rs = early ++ r :: late ∧ P early r new ∧
      ∀ early' r' late' new', rs = early' ++ r' :: late' → P early' r' new' →
        early'.length ≤ early.length

/-- The snapshot shows a report on the step at some positions. -/
def ShownAt (path : List Nat) (_ : List ExecutionReport) (r : ExecutionReport) (new : StepReport) :
    Prop :=
  r.report.at? path = some new

variable {P : List ExecutionReport → ExecutionReport → StepReport → Prop}
  {rs : List ExecutionReport} {r : ExecutionReport} {new : StepReport} {found : Option StepReport}

lemma lastWith_nil : LastWith P [] none := by
  intro early r late new h
  exact absurd h (by simp)

/-- One more snapshot with the property is the last one. -/
lemma lastWith_concat (h : P rs r new) : LastWith P (rs ++ [r]) (some new) := by
  refine ⟨rs, r, [], rfl, h, fun early r' late new' heq _ => ?_⟩
  have hlength := congrArg List.length heq
  simp only [List.length_append, List.length_cons, List.length_nil] at hlength
  omega

/-- One more snapshot without the property changes nothing. -/
lemma LastWith.concat (h : LastWith P rs found) (hr : ∀ new, ¬ P rs r new) :
    LastWith P (rs ++ [r]) found := by
  cases found with
  | none =>
      intro early r' late new heq hnew
      rcases cases_of_concat_eq heq with ⟨rfl, rfl⟩ | ⟨late', rfl⟩
      · exact hr new hnew
      · exact h early r' late' new rfl hnew
  | some new =>
      obtain ⟨early, s, late, rfl, hnew, hlast⟩ := h
      refine ⟨early, s, late ++ [r], by simp, hnew, fun early' r' late' new' heq hnew' => ?_⟩
      rcases cases_of_concat_eq heq with ⟨rfl, rfl⟩ | ⟨late'', heq⟩
      · exact absurd hnew' (hr new')
      · exact hlast early' r' late'' new' heq hnew'

end ExecutionReport

namespace StepReport

/-- The report that two snapshots make: what tells the step apart and its errors come of the one that
renewed it, its status and what changes while it goes on of the one that showed it last.  It has no
steps. -/
def composed (renewed shown : StepReport) : StepReport :=
  { renewed with
    status := shown.status
    duration := shown.duration
    startDate := shown.startDate
    information := shown.information
    evaluatedInputs := shown.evaluatedInputs
    stepOutputs := shown.stepOutputs
    steps := [] }

@[simp] lemma composed_status (renewed shown : StepReport) :
    (renewed.composed shown).status = shown.status := rfl

lemma composed_self (new : StepReport) : new.composed new = new.alone := rfl

/-- A refreshed report keeps its status. -/
lemma refreshed_composed {renewed shown new : StepReport} (h : new.status = shown.status) :
    (renewed.composed shown).refreshed new = renewed.composed new := by
  unfold refreshed composed
  rw [h]

end StepReport

namespace Node

open ExecutionReport (LastWith ShownAt statusOf)

variable {scenario : Node} {rs : List ExecutionReport} {r : ExecutionReport} {i : Nat} {slot : Slot}

/-- The snapshot renews what is held on a step: it shows another status than before, or a failure of a
step that is tried again or lies below one that is. -/
def Renews (scenario : Node) (path : List Nat) (early : List ExecutionReport) (r : ExecutionReport)
    (new : StepReport) : Prop :=
  r.report.at? path = some new ∧
    (new.status ≠ statusOf early path ∨ new.status = .failure ∧ scenario.RetriesAround path)

/-- The report is what a history leaves on a step.  Before a snapshot has the step, it is blank. -/
def Holds (scenario : Node) (rs : List ExecutionReport) (path : List Nat) (held : StepReport) : Prop :=
  ∃ shown renewed, LastWith (ShownAt path) rs shown ∧ LastWith (scenario.Renews path) rs renewed ∧
    held = (renewed.getD .blank).composed (shown.getD .blank)

lemma holds_nil (scenario : Node) (path : List Nat) : scenario.Holds [] path .blank :=
  ⟨none, none, ExecutionReport.lastWith_nil, ExecutionReport.lastWith_nil, rfl⟩

/-- A snapshot renews what is held exactly if the tracker replaces it. -/
lemma renews_iff {held new : StepReport} (hi : (Slot.ofScenario scenario)[i]? = some slot)
    (hstatus : held.status = statusOf rs slot.path) :
    scenario.Renews slot.path rs r new ↔
      r.report.at? slot.path = some new ∧ new.replaces held slot.retryable = true := by
  rw [Renews, ← hstatus, ← Slot.retryable_iff_retriesAround hi, StepReport.replaces, Bool.or_eq_true,
    Bool.and_eq_true, bne_iff_ne, beq_iff_eq, and_comm (a := slot.retryable = true),
    ne_comm (a := held.status)]

/-- **One more snapshot** changes what is held as it changes the history. -/
theorem Holds.concat {m : Mark} (hi : (Slot.ofScenario scenario)[i]? = some slot)
    (h : scenario.Holds rs slot.path m.held) (hstatus : m.held.status = statusOf rs slot.path) :
    scenario.Holds (rs ++ [r]) slot.path (Tracker.holding slot r m).held := by
  obtain ⟨shown, renewed, hshown, hrenewed, hheld⟩ := h
  have hrenews : ∀ new, scenario.Renews slot.path rs r new ↔
      r.report.at? slot.path = some new ∧ new.replaces m.held slot.retryable = true :=
    fun _ => renews_iff hi hstatus
  unfold Tracker.holding
  cases hnew : r.report.at? slot.path with
  | none =>
      -- the snapshot does not have the step
      refine ⟨shown, renewed, hshown.concat fun new h => ?_, hrenewed.concat fun new h => ?_, hheld⟩
      · exact Option.some_ne_none new (h.symm.trans hnew)
      · exact Option.some_ne_none new (h.1.symm.trans hnew)
  | some new =>
      have hlast : LastWith (ShownAt slot.path) (rs ++ [r]) (some new) :=
        ExecutionReport.lastWith_concat hnew
      by_cases hreplaces : new.replaces m.held slot.retryable = true
      · refine ⟨some new, some new, hlast,
          ExecutionReport.lastWith_concat ((hrenews new).mpr ⟨hnew, hreplaces⟩), ?_⟩
        exact (if_pos hreplaces).trans new.composed_self.symm
      · refine ⟨some new, renewed, hlast, hrenewed.concat fun new' h => ?_, ?_⟩
        · obtain ⟨hnew', hreplaces'⟩ := (hrenews new').mp h
          obtain rfl := Option.some.inj (hnew.symm.trans hnew')
          exact hreplaces hreplaces'
        · -- the status is as before, so that the report that was renewed before stays
          have hsame : new.status = m.held.status := by
            by_contra hne
            exact hreplaces (by simp [StepReport.replaces, Ne.symm hne])
          have hshown : new.status = (shown.getD .blank).status :=
            hsame.trans (by rw [hheld, StepReport.composed_status])
          dsimp only
          rw [if_neg hreplaces, hheld, StepReport.refreshed_composed hshown, Option.getD_some]

end Node

namespace Tracker

open ExecutionReport (LastWith ShownAt)

variable {scenario : Node} {i : Nat} {slot : Slot}

lemma holds_observeAll (rs : List ExecutionReport)
    (hi : (Slot.ofScenario scenario)[i]? = some slot) :
    scenario.Holds rs slot.path (((ofScenario scenario).observeAll rs).2.board.mark i).held := by
  induction rs using List.reverseRecOn with
  | nil =>
      rw [observeAll, mark_board_ofScenario]
      exact scenario.holds_nil slot.path
  | append_singleton rs r ih =>
      have hstatus := (knows_observeAll scenario rs).held hi
      rw [observeAll_concat, (Reachable.start.observeAll rs).held_observe r hi]
      exact ih.concat hi hstatus

/-- **What is held follows the history.**  On every step, a tracker holds the status, duration, start
date, information, inputs and outputs that the last snapshot with the step shows, and the rest, the
name and the errors among it, of the last snapshot that has the step and shows another status than
before or a failure that is tried again.  Without such a snapshot these are blank, and no steps are
held at all.  A step that is held as executed has started. -/
theorem held_by_history (rs : List ExecutionReport)
    (hi : (Slot.ofScenario scenario)[i]? = some slot) :
    ∃ shown renewed : Option StepReport,
      LastWith (ShownAt slot.path) rs shown ∧
      LastWith (scenario.Renews slot.path) rs renewed ∧
      let m := ((ofScenario scenario).observeAll rs).2.board.mark i
      m.held = (renewed.getD .blank).composed (shown.getD .blank) ∧
      (m.held.status ≠ .notExecuted → m.started = true) := by
  obtain ⟨shown, renewed, hshown, hrenewed, hheld⟩ := holds_observeAll rs hi
  exact ⟨shown, renewed, hshown, hrenewed, hheld, (Reachable.start.observeAll rs).awake i⟩

/-- A snapshot in which the step inside has a name. -/
def namedSnapshot (name : String) (inner : Status) : ExecutionReport :=
  { ExecutionReport.blank with
    report :=
      { StepReport.blank with
        steps :=
          [{ StepReport.blank with
            steps := [{ StepReport.blank with name, status := inner, duration := 5 }] }] } }

/-- A step that is tried again is held with the name of its last failure, while another one keeps the
name that it had when its status changed.  A snapshot without the step changes nothing. -/
theorem held_by_history_named :
    let rs := [namedSnapshot "first" .failure, namedSnapshot "second" .failure, .blank]
    let again := ((ofScenario persistent).observeAll rs).2.board.mark 1
    let once := ((ofScenario nested).observeAll rs).2.board.mark 1
    (Slot.ofScenario persistent)[1]? = some ⟨[0, 0], some 0, 2, true, true⟩ ∧
      (Slot.ofScenario nested)[1]? = some ⟨[0, 0], some 0, 2, false, false⟩ ∧
      persistent.Holds rs [0, 0] again.held ∧ nested.Holds rs [0, 0] once.held ∧
      again.held.name = "second" ∧ once.held.name = "first" ∧
      again.held.duration = 5 ∧ again.started = true := by
  intro rs again once
  have hagain : (Slot.ofScenario persistent)[1]? = some ⟨[0, 0], some 0, 2, true, true⟩ := by decide
  have honce : (Slot.ofScenario nested)[1]? = some ⟨[0, 0], some 0, 2, false, false⟩ := by decide
  obtain ⟨shown, renewed, hshown, hrenewed, hheld, hstarted⟩ := held_by_history rs hagain
  obtain ⟨shown', renewed', hshown', hrenewed', hheld', -⟩ := held_by_history rs honce
  exact ⟨hagain, honce, ⟨shown, renewed, hshown, hrenewed, hheld⟩,
    ⟨shown', renewed', hshown', hrenewed', hheld'⟩, by decide, by decide, by decide,
    hstarted (by decide)⟩

end Tracker

end ScenarioRunner

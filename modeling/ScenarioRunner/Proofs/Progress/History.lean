import Mathlib.Data.List.Basic
import Mathlib.Data.List.Induction
import ScenarioRunner.Model.Report
import ScenarioRunner.Proofs.Progress.SlotTree

/-!
# What a history of snapshots says of a step

A tracker keeps marks that it changes from snapshot to snapshot.  This file defines the same facts
from the snapshots alone, for a scenario and the positions `path` of one of its steps, without a
tracker.

* `ExecutionReport.statusOf` is the status of a step in the last snapshot that has its positions.
* `Node.Executed`: some snapshot has shown the step or one below it as anything but not executed.
* `Node.Settled`: some snapshot has shown an outcome of the step or of one around it, where nothing
  at, around or below the latter is tried again.
* `Node.Revived`: the step was settled first, and executed only later.
-/

namespace ScenarioRunner

/-- A place in a list with one more element is the last one, or a place in the list. -/
lemma cases_of_concat_eq {α : Type} {xs before after : List α} {x y : α}
    (h : xs ++ [x] = before ++ y :: after) :
    (before = xs ∧ y = x) ∨ ∃ after', xs = before ++ y :: after' := by
  rcases List.eq_nil_or_concat after with rfl | ⟨after', last, rfl⟩
  · obtain ⟨rfl, hx⟩ := List.append_inj' h rfl
    exact Or.inl ⟨rfl, (List.singleton_inj.mp hx).symm⟩
  · rw [List.concat_eq_append, ← List.cons_append, ← List.append_assoc] at h
    exact Or.inr ⟨after', (List.append_inj' h rfl).1⟩

namespace ExecutionReport

/-- The status that a snapshot gives the step at some positions. -/
def statusAt? (r : ExecutionReport) (path : List Nat) : Option Status :=
  (r.report.at? path).map StepReport.status

/-- The snapshot shows the step at some positions as anything but not executed. -/
def Shows (r : ExecutionReport) (path : List Nat) : Prop :=
  ∃ s, r.statusAt? path = some s ∧ s ≠ .notExecuted

/-- The snapshot shows an outcome of the step at some positions. -/
def Decides (r : ExecutionReport) (path : List Nat) : Prop :=
  ∃ s, r.statusAt? path = some s ∧ s.isTerminal = true

lemma Decides.shows {r : ExecutionReport} {path : List Nat} (h : r.Decides path) :
    r.Shows path := by
  obtain ⟨s, hs, hterminal⟩ := h
  exact ⟨s, hs, fun hne => by simp [hne, Status.isTerminal] at hterminal⟩

/-- The status of a step in the last snapshot that has its positions; at first a step is not
executed. -/
def statusOf (rs : List ExecutionReport) (path : List Nat) : Status :=
  rs.foldl (fun s r => (r.statusAt? path).getD s) .notExecuted

@[simp] lemma statusOf_nil (path : List Nat) : statusOf [] path = .notExecuted := rfl

lemma statusOf_concat (rs : List ExecutionReport) (r : ExecutionReport) (path : List Nat) :
    statusOf (rs ++ [r]) path = (r.statusAt? path).getD (statusOf rs path) := by
  rw [statusOf, List.foldl_append]
  rfl

/-- A status other than the first one comes from a snapshot. -/
lemma exists_of_statusOf {rs : List ExecutionReport} {path : List Nat}
    (h : statusOf rs path ≠ .notExecuted) :
    ∃ r ∈ rs, r.statusAt? path = some (statusOf rs path) := by
  induction rs using List.reverseRecOn with
  | nil => exact absurd rfl h
  | append_singleton rs r ih =>
      rw [statusOf_concat] at h ⊢
      cases hr : r.statusAt? path with
      | none =>
          rw [hr] at h
          obtain ⟨r', hr', hstatus⟩ := ih h
          exact ⟨r', List.mem_append_left _ hr', hstatus⟩
      | some s => exact ⟨r, by simp, by simpa using hr⟩

end ExecutionReport

namespace Node

open ExecutionReport

variable {scenario : Node} {rs rs' : List ExecutionReport} {r : ExecutionReport}
  {path path' : List Nat}

/-- Some snapshot has shown the step or one below it as anything but not executed. -/
def Executed (scenario : Node) (rs : List ExecutionReport) (path : List Nat) : Prop :=
  ∃ r ∈ rs, ∃ below, path <+: below ∧ (scenario.step? below).isSome ∧ r.Shows below

/-- A step at, around or below the one at some positions is tried again. -/
def RetriesAlong (scenario : Node) (path : List Nat) : Prop :=
  ∃ p node, (p <+: path ∨ path <+: p) ∧ scenario.step? p = some node ∧ node.retryable = true

/-- Some snapshot has shown an outcome of the step or of one around it, which is final because nothing
at, around or below the latter is tried again. -/
def Settled (scenario : Node) (rs : List ExecutionReport) (path : List Nat) : Prop :=
  ∃ r ∈ rs, ∃ around, around <+: path ∧ (scenario.step? around).isSome ∧
    ¬ scenario.RetriesAlong around ∧ r.Decides around

/-- The step was settled before any snapshot showed it or one below it as executed, and a later
snapshot shows that. -/
def Revived (scenario : Node) (rs : List ExecutionReport) (path : List Nat) : Prop :=
  ∃ early late, rs = early ++ late ∧ scenario.Settled early path ∧
    ¬ scenario.Executed early path ∧ scenario.Executed late path

lemma Executed.mono (h : scenario.Executed rs path) (hsub : rs ⊆ rs') :
    scenario.Executed rs' path := by
  obtain ⟨r, hr, rest⟩ := h
  exact ⟨r, hsub hr, rest⟩

lemma Executed.of_prefix (h : scenario.Executed rs path') (hpath : path <+: path') :
    scenario.Executed rs path := by
  obtain ⟨r, hr, below, hbelow, rest⟩ := h
  exact ⟨r, hr, below, hpath.trans hbelow, rest⟩

lemma executed_append :
    scenario.Executed (rs ++ rs') path ↔
      scenario.Executed rs path ∨ scenario.Executed rs' path := by
  simp only [Executed, List.mem_append, or_and_right, exists_or]

lemma not_executed_nil : ¬ scenario.Executed [] path := by
  rintro ⟨r, hr, -⟩
  simp at hr

lemma Settled.mono (h : scenario.Settled rs path) (hsub : rs ⊆ rs') :
    scenario.Settled rs' path := by
  obtain ⟨r, hr, rest⟩ := h
  exact ⟨r, hsub hr, rest⟩

lemma Settled.of_prefix (h : scenario.Settled rs path) (hpath : path <+: path') :
    scenario.Settled rs path' := by
  obtain ⟨r, hr, around, haround, rest⟩ := h
  exact ⟨r, hr, around, haround.trans hpath, rest⟩

lemma settled_append :
    scenario.Settled (rs ++ rs') path ↔
      scenario.Settled rs path ∨ scenario.Settled rs' path := by
  simp only [Settled, List.mem_append, or_and_right, exists_or]

lemma not_settled_nil : ¬ scenario.Settled [] path := by
  rintro ⟨r, hr, -⟩
  simp at hr

lemma Revived.append (h : scenario.Revived rs path) (rs' : List ExecutionReport) :
    scenario.Revived (rs ++ rs') path := by
  obtain ⟨early, late, rfl, hsettled, hnot, hlate⟩ := h
  exact ⟨early, late ++ rs', List.append_assoc .., hsettled, hnot,
    hlate.mono (List.subset_append_left _ _)⟩

/-- One more snapshot revives a step that was settled without being executed, if it shows it. -/
lemma revived_concat_iff :
    scenario.Revived (rs ++ [r]) path ↔
      scenario.Revived rs path ∨
        (scenario.Settled rs path ∧ ¬ scenario.Executed rs path ∧
          scenario.Executed [r] path) := by
  constructor
  · rintro ⟨early, late, heq, hsettled, hnot, hlate⟩
    rcases List.eq_nil_or_concat' late with rfl | ⟨late, r', rfl⟩
    · exact absurd hlate not_executed_nil
    · rw [← List.append_assoc] at heq
      obtain ⟨rfl, hr⟩ := List.append_inj' heq rfl
      obtain rfl : r = r' := by simpa using hr
      rcases executed_append.mp hlate with hlate' | hlast
      · exact Or.inl ⟨early, late, rfl, hsettled, hnot, hlate'⟩
      · by_cases hexecuted : scenario.Executed late path
        · exact Or.inl ⟨early, late, rfl, hsettled, hnot, hexecuted⟩
        · refine Or.inr ⟨hsettled.mono (List.subset_append_left _ _), ?_, hlast⟩
          rw [executed_append]
          exact not_or.mpr ⟨hnot, hexecuted⟩
  · rintro (h | ⟨hsettled, hnot, hlast⟩)
    · exact h.append [r]
    · exact ⟨rs, [r], rfl, hsettled, hnot, hlast⟩

end Node

namespace Slot

variable {scenario : Node} {i : Nat} {s : Slot}

/-- The deferred slots are those of steps with retries at, around or below. -/
theorem deferred_iff_retriesAlong (hs : (ofScenario scenario)[i]? = some s) :
    s.deferred = true ↔ scenario.RetriesAlong s.path := by
  rw [deferred_iff hs]
  constructor
  · rintro ⟨p, hp, node, hnode, hretry⟩
    exact ⟨p, node, hp, hnode, hretry⟩
  · rintro ⟨p, node, hp, hnode, hretry⟩
    exact ⟨p, hp, node, hnode, hretry⟩

/-- A slot that is not deferred is not retryable. -/
theorem retryable_eq_false (hs : (ofScenario scenario)[i]? = some s) (h : s.deferred = false) :
    s.retryable = false := by
  rw [Bool.eq_false_iff] at h ⊢
  intro hretryable
  obtain ⟨p, hp, hretries⟩ := (retryable_iff hs).mp hretryable
  exact h ((deferred_iff hs).mpr ⟨p, Or.inl hp, hretries⟩)

end Slot

end ScenarioRunner

import Mathlib.Data.Set.Card
import ScenarioRunner.Proofs.Engine.Verdicts

/-!
# What a scope answers, by what was done with it

The scope of a class keeps a few numbers and a list.  This file reads them off the calls that were made,
in whatever order that was.

* `ScopeCall` is a call with what came of it, and a log lists the calls that were made.
* `ClassScope.Call`: a call that is possible behind a log, and `ClassScope.After`: the scope behind a
  whole log.
* `ClassScope.Accounts`: what the scope keeps is what the log says.  `ClassScope.Accounts.call` passes
  this on from call to call, and `ClassScope.After.accounts` has it of every log.
* `ClassScope.After.answers` is what a caller sees of it.

Permits and guards are given back only by those who have them, so that a call that gives one back needs
one that was taken before.  A caller that is refused a permit does not wait for it.
-/

namespace ScenarioRunner

/-- A call on the scope of a class, with what came of it. -/
inductive ScopeCall where
  /-- A permit is asked for and granted. -/
  | acquired
  /-- A permit is asked for in vain. -/
  | refused
  | released
  /-- A guard is made, which stands for a scenario that is not done. -/
  | guarded
  /-- A guard is dropped, which takes a scenario off the countdown. -/
  | dropped
  | entered (id : NodeId)
  | left (id : NodeId) (verdict : Verdict)
  | recorded (verdict : Verdict)
deriving DecidableEq, Repr

namespace ScopeCall

/-- The identifier that enters or leaves. -/
def id? : ScopeCall → Option NodeId
  | entered id | left id _ => some id
  | _ => none

/-- The verdict that is recorded. -/
def verdict? : ScopeCall → Option Verdict
  | left _ verdict | recorded verdict => some verdict
  | _ => none

variable {log : List ScopeCall} {call : ScopeCall} {id : NodeId}

/-- The permits that are held behind a log. -/
def held (log : List ScopeCall) : Nat :=
  log.count acquired - log.count released

/-- The latest call with which an identifier enters or leaves is one with which it enters. -/
def Flies (log : List ScopeCall) (id : NodeId) : Prop :=
  log.reverse.find? (·.id? = some id) = some (entered id)

/-- A failure was recorded. -/
def Fails (log : List ScopeCall) : Prop :=
  ∃ call ∈ log, call.verdict? = some .failure

instance : Decidable (Flies log id) :=
  inferInstanceAs (Decidable (_ = _))

instance : Decidable (Fails log) :=
  inferInstanceAs (Decidable (∃ call ∈ log, _))

lemma flies_concat :
    Flies (log ++ [call]) id ↔ if call.id? = some id then call = entered id else Flies log id := by
  unfold Flies
  rw [List.reverse_concat, List.find?_cons]
  split <;> simp_all

lemma fails_concat : Fails (log ++ [call]) ↔ Fails log ∨ call.verdict? = some .failure := by
  simp [Fails, or_and_right, exists_or]

end ScopeCall

open ScopeCall (held Flies Fails)

namespace ClassScope

/-- A call that is possible behind a log, and the scope behind it. -/
inductive Call (log : List ScopeCall) (s : ClassScope) : ScopeCall → ClassScope → Prop where
  | acquired {s' : ClassScope} (hgranted : s.acquire? = some s') : Call log s .acquired s'
  | refused (hrefused : s.acquire? = none) : Call log s .refused s
  | released (hheld : log.count .released < log.count .acquired) : Call log s .released s.release
  | guarded : Call log s .guarded s
  | dropped (hguarded : log.count .dropped < log.count .guarded) : Call log s .dropped s.countDown
  | entered (id : NodeId) : Call log s (.entered id) (s.enter id)
  | left (id : NodeId) (verdict : Verdict) : Call log s (.left id verdict) (s.leave id verdict).2
  | recorded (verdict : Verdict) : Call log s (.recorded verdict) (s.record verdict)

/-- The scope of a class behind a log. -/
inductive After (capacity scenarios : Nat) : List ScopeCall → ClassScope → Prop where
  | start : After capacity scenarios [] (ofClass capacity scenarios)
  | call {log : List ScopeCall} {s s' : ClassScope} {c : ScopeCall}
    (h : After capacity scenarios log s) (hcall : s.Call log c s') :
    After capacity scenarios (log ++ [c]) s'

variable {capacity scenarios : Nat} {log : List ScopeCall} {s s' : ClassScope} {c : ScopeCall}
  {id : NodeId}

/-! ## One call -/

lemma inFlight_leave (s : ClassScope) (id : NodeId) (verdict : Verdict) :
    (s.leave id verdict).2.inFlight = s.inFlight.filter (· != id) := rfl

namespace Call

variable (h : s.Call log c s')

include h

/-- Permits are neither made nor lost. -/
lemma permits : s'.free + [c].count .acquired = s.free + [c].count .released := by
  cases h with
  | acquired hgranted => exact (of_acquire? hgranted).2.1
  | entered id => exact (enter_permits s id).2.1
  | _ => rfl

lemma released_le (hle : log.count .released ≤ log.count .acquired) :
    (log ++ [c]).count .released ≤ (log ++ [c]).count .acquired := by
  rw [List.count_append, List.count_append]
  cases h with
  | acquired => exact Nat.le_succ_of_le hle
  | released hheld => exact hheld
  | _ => exact hle

/-- Only a guard that is dropped counts down. -/
lemma remaining : s'.remaining = s.remaining - [c].count .dropped := by
  cases h with
  | acquired hgranted => exact (of_acquire? hgranted).2.2
  | entered id => exact (enter_permits s id).2.2
  | _ => rfl

lemma nodup (hnodup : s.inFlight.Nodup) : s'.inFlight.Nodup := by
  cases h with
  | acquired hgranted => rwa [inFlight_of_acquire? hgranted]
  | entered id =>
      rw [inFlight_enter]
      split
      · exact hnodup
      · next hnot =>
        rw [← List.concat_eq_append]
        exact hnodup.concat hnot
  | left id verdict => exact hnodup.filter _
  | _ => exact hnodup

/-- Only a call with an identifier changes whether it is in flight. -/
lemma mem_inFlight_iff :
    id ∈ s'.inFlight ↔ if c.id? = some id then c = .entered id else id ∈ s.inFlight := by
  cases h with
  | acquired hgranted => rw [inFlight_of_acquire? hgranted]; rfl
  | entered id' =>
      rw [mem_enter_iff]
      by_cases hid : id' = id
      · simp [ScopeCall.id?, hid]
      · simp [ScopeCall.id?, hid, Ne.symm hid]
  | left id' verdict =>
      rw [inFlight_leave, List.mem_filter]
      by_cases hid : id' = id
      · simp [ScopeCall.id?, hid]
      · simp [ScopeCall.id?, hid, Ne.symm hid]
  | _ => rfl

lemma verdict_failure_iff :
    s'.verdict = .failure ↔ s.verdict = .failure ∨ c.verdict? = some .failure := by
  have hsame : s'.worst = s.worst → c.verdict? = none →
      (s'.verdict = .failure ↔ s.verdict = .failure ∨ c.verdict? = some .failure) := by
    intro hworst hnone
    simp [verdict_congr hworst, hnone]
  cases h with
  | acquired hgranted => exact hsame (worst_of_acquire? hgranted) rfl
  | entered id => exact hsame (worst_enter s id) rfl
  | left id verdict =>
      rw [ScopeCall.verdict?, Option.some.injEq]
      exact verdict_record { s with inFlight := s.inFlight.filter (· != id) } verdict
  | recorded verdict =>
      rw [ScopeCall.verdict?, Option.some.injEq]
      exact verdict_record s verdict
  | _ => exact hsame rfl rfl

end Call

/-! ## All calls -/

/-- What a scope keeps is what the log says. -/
structure Accounts (capacity scenarios : Nat) (log : List ScopeCall) (s : ClassScope) : Prop where
  released_le : log.count .released ≤ log.count .acquired
  permits : s.free + log.count .acquired = max capacity 1 + log.count .released
  remaining : s.remaining = scenarios - log.count .dropped
  nodup : s.inFlight.Nodup
  mem_inFlight_iff : ∀ id, id ∈ s.inFlight ↔ Flies log id
  verdict_failure_iff : s.verdict = .failure ↔ Fails log

lemma accounts_ofClass (capacity scenarios : Nat) :
    (ofClass capacity scenarios).Accounts capacity scenarios [] where
  released_le := Nat.le_refl 0
  permits := rfl
  remaining := rfl
  nodup := List.nodup_nil
  mem_inFlight_iff id := by simp [ofClass, Flies]
  verdict_failure_iff := by simp [ofClass, ClassScope.verdict, Fails]

/-- **One more call** keeps the accounts. -/
theorem Accounts.call (h : s.Accounts capacity scenarios log) (hcall : s.Call log c s') :
    s'.Accounts capacity scenarios (log ++ [c]) where
  released_le := hcall.released_le h.released_le
  permits := by
    have hpermits := h.permits
    have hkept := hcall.permits
    rw [List.count_append, List.count_append]
    omega
  remaining := by rw [hcall.remaining, h.remaining, List.count_append, Nat.sub_sub]
  nodup := hcall.nodup h.nodup
  mem_inFlight_iff id := by
    rw [hcall.mem_inFlight_iff, ScopeCall.flies_concat, h.mem_inFlight_iff]
  verdict_failure_iff := by
    rw [hcall.verdict_failure_iff, ScopeCall.fails_concat, h.verdict_failure_iff]

/-- **The accounts agree** behind every log. -/
theorem After.accounts (h : After capacity scenarios log s) :
    s.Accounts capacity scenarios log := by
  induction h with
  | start => exact accounts_ofClass capacity scenarios
  | call _ hcall ih => exact ih.call hcall

/-- A permit is granted while fewer are held than there are. -/
lemma Accounts.acquire_iff (h : s.Accounts capacity scenarios log) :
    (∃ s', s.acquire? = some s') ↔ held log < max capacity 1 := by
  have hpermits := h.permits
  have hle := h.released_le
  simp only [acquire?_eq_some_iff, exists_and_left, exists_eq, and_true, held]
  omega

/-- As many identifiers are held as are in flight. -/
lemma Accounts.length_inFlight (h : s.Accounts capacity scenarios log) :
    s.inFlight.length = {id | Flies log id}.ncard := by
  have hset : {id | Flies log id} = (s.inFlight.toFinset : Set NodeId) := by
    ext id
    simp [h.mem_inFlight_iff id]
  rw [hset, Set.ncard_coe_finset, List.toFinset_card_of_nodup h.nodup]

/-- **What a scope answers** follows from what was done with it.  A permit is granted exactly if fewer
are held than the capacity, which is one at least.  As many scenarios remain as there were, less the
guards that were dropped, and the wait is over exactly if none does.  As many are in flight as there
are identifiers whose latest call was to enter, and one that leaves was in flight exactly if it is
among them.  The class fails exactly if a failure was recorded, on its own or by one that left. -/
theorem After.answers (h : After capacity scenarios log s) :
    ((∃ s', s.acquire? = some s') ↔ held log < max capacity 1) ∧
    s.remaining = scenarios - log.count .dropped ∧
    (s.isDone = true ↔ s.remaining = 0) ∧
    s.inFlight.length = {id | Flies log id}.ncard ∧
    (∀ id verdict, (s.leave id verdict).1 = true ↔ Flies log id) ∧
    (s.verdict = .failure ↔ Fails log) := by
  have haccounts := h.accounts
  refine ⟨haccounts.acquire_iff, haccounts.remaining, beq_iff_eq, haccounts.length_inFlight,
    fun id verdict => ?_, haccounts.verdict_failure_iff⟩
  rw [← haccounts.mem_inFlight_iff]
  exact List.contains_iff_mem

/-- A busy log: a permit is refused while the only one is held, more guards are dropped than there are
scenarios, and a scenario leaves twice, the first time with a failure. -/
def busy : List ScopeCall :=
  [.acquired, .refused, .guarded, .guarded, .dropped, .dropped, .entered (.engine "a"),
    .entered (.engine "b"), .entered (.engine "a"), .left (.engine "a") .failure,
    .left (.engine "a") .success]

/-- The answers behind it: nothing is free and nothing remains, one identifier is in flight, and the
class has failed. -/
theorem answers_busy :
    ∃ s, After 0 1 busy s ∧ (¬ ∃ s', s.acquire? = some s') ∧ s.remaining = 0 ∧ s.isDone = true ∧
      s.inFlight.length = {id | Flies busy id}.ncard ∧
      (s.leave (.engine "b") .success).1 = true ∧ (s.leave (.engine "a") .success).1 = false ∧
      s.verdict = .failure := by
  have hstart : After 0 1 [] (ofClass 0 1) := .start
  have hgate := (hstart.call (.acquired rfl)).call (.refused rfl)
  have hlatch := (((hgate.call .guarded).call .guarded).call (.dropped (by decide))).call
    (.dropped (by decide))
  have hbook := ((((hlatch.call (.entered (.engine "a"))).call (.entered (.engine "b"))).call
    (.entered (.engine "a"))).call (.left (.engine "a") .failure)).call (.left (.engine "a") .success)
  have h : After 0 1 busy _ := hbook
  obtain ⟨hacquire, hremaining, hdone, hlength, hleave, hverdict⟩ := h.answers
  have hzero := hremaining.trans (by decide : 1 - busy.count .dropped = 0)
  refine ⟨_, h, fun hgranted => absurd (hacquire.mp hgranted) (by decide), hzero, hdone.mpr hzero,
    hlength, (hleave _ _).mpr (by decide), ?_, hverdict.mpr (by decide)⟩
  exact Bool.eq_false_iff.mpr fun hleft => absurd ((hleave _ _).mp hleft) (by decide)

end ClassScope

end ScenarioRunner

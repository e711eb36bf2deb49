import Mathlib.Tactic.Common
import ScenarioRunner.Backend.Scripted

/-!
# Backends with fixed answers

A backend may answer each scenario in each environment always in the same way, however many scenarios
are submitted and in whatever order their streams are opened.  Only the numbers of executions depend
on that order.

* `Answer` is what a backend answers, and `Answer.Gives` what a task gets of it.
* `Backend.Consults` relates the states of a backend before and behind one search for an environment,
  or none.
* `Backend.Steady` is the law of backends with fixed answers, which also find always the same.
* `ScriptBook.steady`: a backend that replays scripts is one of them.

The snapshots of an answer bear no number of an execution; `ExecutionReport.numbered` puts one in.
-/

namespace ScenarioRunner

/-- The snapshot of an execution with a number. -/
def ExecutionReport.numbered (id : ExecutionId) (r : ExecutionReport) : ExecutionReport :=
  { r with executionId := id }

/-- The stream of an execution with a number. -/
def Stream.numbered (id : ExecutionId) (items : List Item) : List Item :=
  items.map fun item => item.map (ExecutionReport.numbered id)

/-- What a backend answers to a scenario in an environment. -/
inductive Answer where
  /-- The scenario is turned down. -/
  | refused (e : Error)
  /-- There is no stream. -/
  | unopened (e : Error)
  | stream (items : List Item)

/-- What a task gets of an answer: an error, or the number of an execution and its stream. -/
inductive Answer.Gives : Answer → Except Error (ExecutionId × List Item) → Prop where
  | refused (e : Error) : Gives (.refused e) (.error e)
  | unopened (e : Error) : Gives (.unopened e) (.error e)
  | stream (items : List Item) (id : ExecutionId) :
    Gives (.stream items) (.ok (id, Stream.numbered id items))

/-- The states of a backend before and behind one search, or none. -/
inductive Backend.Consults {σ : Type} (b : Backend σ) (s : σ) : σ → Prop where
  | nothing : Consults b s s
  | asked {name : Except Error String} {s' : σ} (h : b.defaultEnvironment s = (name, s')) :
    Consults b s s'
  | found {name : String} {found : Except Error Environment} {s' : σ}
    (h : b.environment name s = (found, s')) : Consults b s s'

/-- **A backend with fixed answers.**  Whatever has happened to other scenarios, it turns a scenario
down or gives it a new number, and gives the stream of that number when it is asked for it.  What it
finds for a name is always the same. -/
structure Backend.Steady {σ : Type} (b : Backend σ) (answer : Scenario → Environment → Answer) where
  /-- The name of the default environment. -/
  name : Except Error String
  /-- What is found for a name. -/
  found : String → Except Error Environment
  asks : ∀ s, (b.defaultEnvironment s).1 = name
  finds : ∀ name s, (b.environment name s).1 = found name
  /-- So many scenarios can be submitted. -/
  ready : Nat → σ → Prop
  /-- What is still to be given to an execution with a number. -/
  owed : σ → ExecutionId → Option Answer
  refuses : ∀ {n : Nat} {s : σ} {scenario : Scenario} {environment : Environment}
    (constants : Table String) (dataset : Option String) {e : Error}, ready (n + 1) s →
    answer scenario environment = .refused e →
    ∃ s', b.submit scenario environment constants dataset s = (.error e, s') ∧ ready n s' ∧
      ∀ id, owed s' id = owed s id
  accepts : ∀ {n : Nat} {s : σ} {scenario : Scenario} {environment : Environment}
    (constants : Table String) (dataset : Option String), ready (n + 1) s →
    (∀ e, answer scenario environment ≠ .refused e) →
    ∃ id s', b.submit scenario environment constants dataset s = (.ok id, s') ∧ ready n s' ∧
      owed s id = none ∧ owed s' id = some (answer scenario environment) ∧
      ∀ id', id' ≠ id → owed s' id' = owed s id'
  opens : ∀ {n : Nat} {s : σ} {id : ExecutionId} {a : Answer}, ready n s → owed s id = some a →
    ∃ got s', b.notifications id s = (got, s') ∧
      a.Gives (got.map fun items => (id, items)) ∧ ready n s' ∧
      ∀ id', id' ≠ id → owed s' id' = owed s id'
  consults : ∀ {n : Nat} {s s' : σ}, ready n s → b.Consults s s' →
    ready n s' ∧ ∀ id, owed s' id = owed s id

namespace Backend.Steady

variable {σ : Type} {b : Backend σ} {answer : Scenario → Environment → Answer} (h : b.Steady answer)
  {n : Nat} {s s' : σ} {scenario : Scenario} {environment : Environment} {constants : Table String}
  {dataset : Option String} {id : ExecutionId}

/-- The name of an environment that is looked for: the given one, or that of the default one. -/
def nameFor : Option String → Except Error String
  | some name => .ok name
  | none => h.name

/-- What is found for a given name, or for the default one. -/
def environmentFor (name : Option String) : Except Error Environment :=
  match h.nameFor name with
  | .ok name => h.found name
  | .error e => .error e

include h

/-- A scenario that is turned down is answered so, and nothing else changes. -/
lemma of_refused {e : Error} (hready : h.ready (n + 1) s)
    (hsubmit : b.submit scenario environment constants dataset s = (.error e, s')) :
    answer scenario environment = .refused e ∧ h.ready n s' ∧ ∀ id, h.owed s' id = h.owed s id := by
  by_cases hanswer : ∃ e, answer scenario environment = .refused e
  · obtain ⟨e', hanswer⟩ := hanswer
    obtain ⟨s'', hsubmit', hready', howed⟩ := h.refuses constants dataset hready hanswer
    obtain ⟨he, rfl⟩ := Prod.mk.inj (hsubmit.symm.trans hsubmit')
    obtain rfl := Except.error.inj he
    exact ⟨hanswer, hready', howed⟩
  · obtain ⟨id, s'', hsubmit', -⟩ :=
      h.accepts constants dataset hready fun e he => hanswer ⟨e, he⟩
    exact absurd (Prod.mk.inj (hsubmit.symm.trans hsubmit')).1 (by simp)

/-- A scenario that is not turned down is owed its answer under a new number. -/
lemma of_accepted (hready : h.ready (n + 1) s)
    (hsubmit : b.submit scenario environment constants dataset s = (.ok id, s')) :
    h.ready n s' ∧ h.owed s id = none ∧ h.owed s' id = some (answer scenario environment) ∧
      ∀ id', id' ≠ id → h.owed s' id' = h.owed s id' := by
  by_cases hanswer : ∃ e, answer scenario environment = .refused e
  · obtain ⟨e, hanswer⟩ := hanswer
    obtain ⟨s'', hsubmit', -⟩ := h.refuses constants dataset hready hanswer
    exact absurd (Prod.mk.inj (hsubmit.symm.trans hsubmit')).1 (by simp)
  · obtain ⟨id', s'', hsubmit', hready', hnone, hsome, hothers⟩ :=
      h.accepts constants dataset hready fun e he => hanswer ⟨e, he⟩
    obtain ⟨hid, rfl⟩ := Prod.mk.inj (hsubmit.symm.trans hsubmit')
    obtain rfl := Except.ok.inj hid
    exact ⟨hready', hnone, hsome, hothers⟩

/-- A stream that is asked for gives what is owed, and nothing else changes. -/
lemma of_opened {a : Answer} {got : Except Error (List Item)} (hready : h.ready n s)
    (howed : h.owed s id = some a) (hopen : b.notifications id s = (got, s')) :
    a.Gives (got.map fun items => (id, items)) ∧ h.ready n s' ∧
      ∀ id', id' ≠ id → h.owed s' id' = h.owed s id' := by
  obtain ⟨got', s'', hopen', hopened⟩ := h.opens hready howed
  obtain ⟨rfl, rfl⟩ := Prod.mk.inj (hopen.symm.trans hopen')
  exact hopened

end Backend.Steady

/-! ## Scripts -/

namespace Pending

/-- What an execution is to be given: its stream without a number. -/
def answer (p : Pending) : Answer :=
  .stream ({ p with id := 0 } : Pending).stream

lemma stream_eq (p : Pending) :
    p.stream = Stream.numbered p.id ({ p with id := 0 } : Pending).stream := by
  rw [stream, stream, Stream.numbered, List.map_map]
  refine List.map_congr_left fun item _ => ?_
  cases item <;> rfl

end Pending

namespace ScriptBook

variable {book : ScriptBook} {s : ScriptState} {n : Nat}

/-- What a script says of a scenario in an environment. -/
def answer (book : ScriptBook) (scenario : Scenario) (environment : Environment) : Answer :=
  match book.submitError? scenario with
  | some reason => .refused (.submission reason)
  | none => (Pending.mk 0 scenario.title environment.name (book.itemsFor scenario)).answer

/-- Scripts of other titles say nothing of a scenario. -/
lemma answer_congr {book' : ScriptBook} {scenario : Scenario}
    (h : book'.script? scenario.title = book.script? scenario.title) (environment : Environment) :
    book'.answer scenario environment = book.answer scenario environment := by
  simp only [answer, submitError?, itemsFor, h]

/-- Scripts say nothing of environments. -/
lemma environmentFor_congr {book' : ScriptBook} (h : book'.environments = book.environments)
    (name : Option String) : book'.environmentFor name = book.environmentFor name := by
  have hdefault : book'.defaultEnvironment = book.defaultEnvironment := by
    rw [defaultEnvironment, h, defaultEnvironment]
  have hfound : book'.environment = book.environment := by
    funext name
    rw [ScriptBook.environment, h, ScriptBook.environment]
  simp only [environmentFor, hdefault, hfound]

/-- A search finds what the scripts say. -/
lemma backend_environmentFor (book : ScriptBook) (name : Option String) (s : ScriptState) :
    book.backend.environmentFor name s = (book.environmentFor name, s) := by
  cases name with
  | some name => rfl
  | none =>
      simp only [Backend.environmentFor, environmentFor, backend]
      cases book.defaultEnvironment <;> rfl

/-- Searches change nothing. -/
lemma eq_of_consults {s' : ScriptState} (h : book.backend.Consults s s') : s' = s := by
  cases h with
  | nothing => rfl
  | asked hasked => exact (Prod.mk.inj hasked).2.symm
  | found hfound => exact (Prod.mk.inj hfound).2.symm

/-- There are numbers left for so many executions, and those that are pending bear earlier ones. -/
structure Ready (n : Nat) (s : ScriptState) : Prop where
  room : s.issued + n ≤ ScriptState.capacity
  earlier : ∀ p ∈ s.pending, p.id.toNat ≤ s.issued

/-- What is still to be given to an execution. -/
def owed (s : ScriptState) (id : ExecutionId) : Option Answer :=
  (s.pending.find? fun p => p.id == id).map Pending.answer

lemma toNat_next (h : s.issued + (n + 1) ≤ ScriptState.capacity) :
    (UInt64.ofNat (s.issued + 1)).toNat = s.issued + 1 := by
  have hlt : s.issued + 1 < 2 ^ 64 := by
    have hcapacity : ScriptState.capacity = 2 ^ 64 - 1 := rfl
    omega
  rw [UInt64.toNat_ofNat', Nat.mod_eq_of_lt hlt]

/-- The next number is new. -/
lemma owed_next (h : Ready (n + 1) s) : owed s (UInt64.ofNat (s.issued + 1)) = none := by
  rw [owed, Option.map_eq_none_iff, List.find?_eq_none]
  intro p hp hid
  have hearlier := h.earlier p hp
  rw [beq_iff_eq.mp hid, toNat_next h.room] at hearlier
  omega

/-- A submission that is not turned down. -/
lemma submit_accepted {scenario : Scenario} {environment : Environment}
    (dataset : Option String) (h : Ready (n + 1) s) (hnone : book.submitError? scenario = none) :
    ∃ s', book.submit scenario environment dataset s = (.ok (UInt64.ofNat (s.issued + 1)), s') ∧
      s'.issued = s.issued + 1 ∧
      s'.pending = s.pending ++
        [⟨UInt64.ofNat (s.issued + 1), scenario.title, environment.name, book.itemsFor scenario⟩] := by
  have hroom := h.room
  have hnumber : ¬ ScriptState.capacity ≤ s.issued := by omega
  simp [submit, hnone, hnumber]

lemma owed_of_find? {id : ExecutionId} {a : Answer} (h : owed s id = some a) :
    ∃ p, s.pending.find? (fun p => p.id == id) = some p ∧ p.id = id ∧ p.answer = a := by
  rw [owed, Option.map_eq_some_iff] at h
  obtain ⟨p, hp, rfl⟩ := h
  have hid := List.find?_some hp
  exact ⟨p, hp, by simpa using hid, rfl⟩

/-- **A backend that replays scripts** has fixed answers. -/
def steady (book : ScriptBook) : book.backend.Steady book.answer where
  name := book.defaultEnvironment
  found := book.environment
  asks := fun _ => rfl
  finds := fun _ _ => rfl
  ready := Ready
  owed := owed
  refuses := by
    intro n s scenario environment constants dataset e h hanswer
    rw [answer] at hanswer
    split at hanswer
    · next reason hreason =>
      obtain rfl := Answer.refused.inj hanswer
      refine ⟨s, ?_, ⟨by have := h.room; omega, h.earlier⟩, fun id => rfl⟩
      show book.submit scenario environment dataset s = _
      rw [submit, hreason]
    · exact absurd hanswer Answer.noConfusion
  accepts := by
    intro n s scenario environment constants dataset h hanswer
    have hnone : book.submitError? scenario = none := by
      cases hreason : book.submitError? scenario with
      | none => rfl
      | some reason => exact absurd (by rw [answer, hreason]) (hanswer (.submission reason))
    obtain ⟨s', hsubmit, hissued, hpending⟩ := submit_accepted dataset h hnone
    have hroom := h.room
    have hnew := toNat_next hroom
    refine ⟨_, s', hsubmit, ⟨by omega, fun p hp => ?_⟩, owed_next h, ?_, fun id' hne => ?_⟩
    · rw [hpending, List.mem_append, List.mem_singleton] at hp
      rcases hp with hp | rfl
      · have := h.earlier p hp
        omega
      · dsimp only
        omega
    · have hold := Option.map_eq_none_iff.mp (owed_next h)
      rw [owed, hpending, List.find?_append, hold, answer, hnone]
      simp [Pending.answer]
    · rw [owed, owed, hpending, List.find?_append]
      have hother : ([⟨UInt64.ofNat (s.issued + 1), scenario.title, environment.name,
          book.itemsFor scenario⟩] : List Pending).find? (fun p => p.id == id') = none := by
        simpa using Ne.symm hne
      rw [hother, Option.or_none]
  opens := by
    intro n s id a h howed
    obtain ⟨p, hp, hid, rfl⟩ := owed_of_find? howed
    have hopen : notifications id s = (.ok p.stream,
        { s with
          opened := s.opened ++ [id]
          pending := s.pending.filter fun q => q.id != id }) := by
      simp only [notifications, hp]
    refine ⟨_, _, hopen, ?_, ⟨h.room, fun q hq => h.earlier q (List.mem_filter.mp hq).1⟩, ?_⟩
    · rw [p.stream_eq, hid]
      exact .stream _ id
    · intro id' hne
      rw [owed, owed, List.find?_filter]
      congr 2
      funext q
      by_cases hq : q.id = id'
      · simp [hq, hne]
      · simp [hq]
  consults := by
    intro n s s' h hconsults
    rw [eq_of_consults hconsults]
    exact ⟨h, fun id => rfl⟩

/-- What is found for a name is what the scripts say. -/
lemma steady_environmentFor (book : ScriptBook) (name : Option String) :
    book.steady.environmentFor name = book.environmentFor name := by
  cases name with
  | some name => rfl
  | none =>
      simp only [Backend.Steady.environmentFor, Backend.Steady.nameFor, environmentFor, steady]
      cases book.defaultEnvironment <;> rfl

end ScriptBook

end ScenarioRunner

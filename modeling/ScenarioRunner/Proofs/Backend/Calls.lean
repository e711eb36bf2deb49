import Mathlib.Data.List.Nodup
import ScenarioRunner.Proofs.Backend.Steady

/-!
# What is asked of a backend

The calls that a backend gets one after the other, and what a backend of scripts keeps of them.

* `Backend.recorded` is a backend that takes down its calls, and `Call` is what it takes down.
* `Backend.Makes` relates the states of a backend before and behind one call, or none.
* `ScriptBook.Kept`: the state of a backend of scripts is what its calls say, and each submission was
  answered by its script.  `ScriptBook.Kept.makes` keeps that while there are numbers left.
* `ScriptBook.Kept.nodup`: the executions that were submitted have different numbers.
-/

namespace ScenarioRunner

/-- What is submitted to a backend. -/
structure SubmitRequest where
  scenario : Scenario
  environment : Environment
  constants : Table String
  dataset : Option String

/-- A call of a backend; a submission bears its answer. -/
inductive Call where
  | submit (request : SubmitRequest) (answer : Except Error ExecutionId)
  | notifications (id : ExecutionId)

namespace Call

/-- The execution that was started. -/
def started? : Call → Option ExecutionId
  | submit _ (.ok id) => some id
  | _ => none

/-- The execution whose stream was opened. -/
def opened? : Call → Option ExecutionId
  | notifications id => some id
  | submit _ _ => none

/-- The submission, if it was accepted. -/
def submission? : Call → Option Submission
  | submit request (.ok id) =>
    some ⟨id, request.scenario.title, request.environment.name, request.dataset⟩
  | _ => none

lemma map_id_submission? (calls : List Call) :
    (calls.filterMap submission?).map Submission.id = calls.filterMap started? := by
  rw [List.map_filterMap]
  refine List.filterMap_congr fun call _ => ?_
  cases call with
  | notifications id => rfl
  | submit request answer => cases answer <;> rfl

end Call

namespace Backend

variable {σ : Type} {b : Backend σ}

/-- A backend that takes down its calls, the first one in front, and else answers as before. -/
def recorded (b : Backend σ) : Backend (σ × List Call) where
  submit scenario environment constants dataset s :=
    let answered := b.submit scenario environment constants dataset s.1
    (answered.1, answered.2,
      s.2 ++ [.submit ⟨scenario, environment, constants, dataset⟩ answered.1])
  notifications id s :=
    let opened := b.notifications id s.1
    (opened.1, opened.2, s.2 ++ [.notifications id])
  defaultEnvironment s :=
    let asked := b.defaultEnvironment s.1
    (asked.1, asked.2, s.2)
  environment name s :=
    let found := b.environment name s.1
    (found.1, found.2, s.2)

/-- The states of a backend before and behind one call, or none.  A search for an environment is no
call. -/
inductive Makes (b : Backend σ) (s : σ) : List Call → σ → Prop where
  | nothing {s' : σ} (hconsults : b.Consults s s') : Makes b s [] s'
  | submit {request : SubmitRequest} {answer : Except Error ExecutionId} {s' : σ}
    (hsubmit : b.submit request.scenario request.environment request.constants request.dataset s =
      (answer, s')) :
    Makes b s [.submit request answer] s'
  | notifications {id : ExecutionId} {got : Except Error (List Item)} {s' : σ}
    (hopen : b.notifications id s = (got, s')) : Makes b s [.notifications id] s'

end Backend

/-! ## Scripts -/

namespace ScriptBook

variable {book : ScriptBook} {s s' : ScriptState} {calls more : List Call}

/-- A submission is answered by its script: it is turned down, or started under a number. -/
inductive Replies (book : ScriptBook) (request : SubmitRequest) :
    Except Error ExecutionId → Prop where
  | refused {reason : String} (h : book.submitError? request.scenario = some reason) :
    Replies book request (.error (.submission reason))
  | accepted (h : book.submitError? request.scenario = none) (id : ExecutionId) :
    Replies book request (.ok id)

/-- **The state of a backend of scripts is what its calls say.** -/
structure Kept (book : ScriptBook) (s : ScriptState) (calls : List Call) : Prop where
  submissions : s.submissions = calls.filterMap Call.submission?
  opened : s.opened = calls.filterMap Call.opened?
  /-- Numbers count up from one. -/
  numbers : s.submissions.map Submission.id = (List.range' 1 s.issued).map UInt64.ofNat
  room : s.issued ≤ ScriptState.capacity
  replies : ∀ request answer, .submit request answer ∈ calls → book.Replies request answer

lemma kept_initial (book : ScriptBook) : book.Kept .initial [] where
  submissions := rfl
  opened := rfl
  numbers := rfl
  room := Nat.zero_le _
  replies := fun _ _ hmem => absurd hmem List.not_mem_nil

namespace Kept

/-- A submission, while there are numbers left. -/
lemma submit (h : book.Kept s calls) {request : SubmitRequest} {answer : Except Error ExecutionId}
    (hroom : s.issued < ScriptState.capacity)
    (hsubmit : book.submit request.scenario request.environment request.dataset s = (answer, s')) :
    book.Kept s' (calls ++ [.submit request answer]) := by
  have hreplies : book.Replies request answer →
      ∀ request' answer', .submit request' answer' ∈ calls ++ [.submit request answer] →
        book.Replies request' answer' := by
    intro hreply request' answer' hmem
    rcases List.mem_append.mp hmem with hmem | hmem
    · exact h.replies request' answer' hmem
    · obtain ⟨rfl, rfl⟩ := Call.submit.inj (List.mem_singleton.mp hmem)
      exact hreply
  rw [ScriptBook.submit] at hsubmit
  split at hsubmit
  · next reason hreason =>
    obtain ⟨rfl, rfl⟩ := Prod.mk.inj hsubmit
    exact
      { submissions := by rw [List.filterMap_append, h.submissions]; exact (List.append_nil _).symm
        opened := by rw [List.filterMap_append, h.opened]; exact (List.append_nil _).symm
        numbers := h.numbers
        room := h.room
        replies := hreplies (.refused hreason) }
  · next hnone =>
    rw [if_neg (Nat.not_le_of_lt hroom)] at hsubmit
    obtain ⟨rfl, rfl⟩ := Prod.mk.inj hsubmit
    exact
      { submissions := by rw [List.filterMap_append, h.submissions]; rfl
        opened := by rw [List.filterMap_append, h.opened]; exact (List.append_nil _).symm
        numbers := by
          dsimp only
          rw [List.map_append, h.numbers, List.range'_concat, List.map_append, Nat.one_mul,
            Nat.add_comm 1]
          rfl
        room := hroom
        replies := hreplies (.accepted hnone _) }

/-- A stream is opened. -/
lemma notifications (h : book.Kept s calls) {id : ExecutionId} {got : Except Error (List Item)}
    (hopen : ScriptBook.notifications id s = (got, s')) :
    book.Kept s' (calls ++ [.notifications id]) := by
  have hstate : s'.submissions = s.submissions ∧ s'.opened = s.opened ++ [id] ∧
      s'.issued = s.issued := by
    rw [ScriptBook.notifications] at hopen
    split at hopen <;> obtain ⟨-, rfl⟩ := Prod.mk.inj hopen <;> exact ⟨rfl, rfl, rfl⟩
  obtain ⟨hsubmissions, hopened, hissued⟩ := hstate
  exact
    { submissions := by
        rw [hsubmissions, h.submissions, List.filterMap_append]
        exact (List.append_nil _).symm
      opened := by rw [hopened, h.opened, List.filterMap_append]; rfl
      numbers := by rw [hsubmissions, h.numbers, hissued]
      room := hissued ▸ h.room
      replies := fun request answer hmem => by
        rcases List.mem_append.mp hmem with hmem | hmem
        · exact h.replies request answer hmem
        · exact absurd (List.mem_singleton.mp hmem) Call.noConfusion }

/-- **A call** is kept, while there are numbers left. -/
theorem makes (h : book.Kept s calls) (hmakes : book.backend.Makes s more s')
    (hroom : ∀ request answer, .submit request answer ∈ more → s.issued < ScriptState.capacity) :
    book.Kept s' (calls ++ more) := by
  cases hmakes with
  | nothing hconsults => rwa [List.append_nil, eq_of_consults hconsults]
  | submit hsubmit => exact h.submit (hroom _ _ List.mem_cons_self) hsubmit
  | notifications hopen => exact h.notifications hopen

/-- **The executions** that were submitted have different numbers. -/
theorem nodup (h : book.Kept s calls) : (s.submissions.map Submission.id).Nodup := by
  rw [h.numbers]
  refine List.Nodup.map_on (fun m hm n hn heq => ?_) (List.nodup_range' ..)
  have hroom := h.room
  have hcapacity : ScriptState.capacity = 2 ^ 64 - 1 := rfl
  rw [List.mem_range'_1] at hm hn
  have hsame := congrArg UInt64.toNat heq
  rwa [UInt64.toNat_ofNat', UInt64.toNat_ofNat', Nat.mod_eq_of_lt (by omega),
    Nat.mod_eq_of_lt (by omega)] at hsame

end Kept

end ScriptBook

end ScenarioRunner

import Mathlib.Data.List.Nodup
import ScenarioRunner.Proofs.Backend.Calls

/-!
# Conversations with a backend

Some clients call one backend of scripts, each whenever it likes.  A call is carried out as a whole, so
that whatever they do comes to one list of calls.

* `Backend.converse` makes such calls one after the other, and an `Exchange` is a call with its answer.
* `ScriptBook.Awaits`: an execution was started, and its stream was given to nobody.
* `ScriptBook.Answers` says what a call is answered after others, and `ScriptBook.Remembers` what the
  state of the backend is then.  `ScriptBook.Remembers.exchange` keeps both from call to call.
* `ScriptBook.unmixed_of_converse`: each stream is given once, to the first client that asks for it after
  its execution was started, and holds what was scripted for this execution.

Whoever asks too early or too late is told that there is no such execution, and takes nothing away from
the others.
-/

namespace ScenarioRunner

/-- What a client asks of a backend. -/
inductive Ask where
  | submit (request : SubmitRequest)
  | notifications (id : ExecutionId)

/-- A call of a backend with its answer. -/
inductive Exchange where
  | submit (request : SubmitRequest) (answer : Except Error ExecutionId)
  | notifications (id : ExecutionId) (got : Except Error (List Item))

namespace Exchange

def ask : Exchange → Ask
  | submit request _ => .submit request
  | notifications id _ => .notifications id

/-- The call, as a backend takes it down. -/
def call : Exchange → Call
  | submit request answer => .submit request answer
  | notifications id _ => .notifications id

end Exchange

namespace Backend

variable {σ : Type}

/-- Makes a call. -/
def exchange (b : Backend σ) (s : σ) : Ask → Exchange × σ
  | .submit request =>
    let answered :=
      b.submit request.scenario request.environment request.constants request.dataset s
    (.submit request answered.1, answered.2)
  | .notifications id =>
    let opened := b.notifications id s
    (.notifications id opened.1, opened.2)

/-- Makes calls one after the other. -/
def converse (b : Backend σ) (s : σ) : List Ask → List Exchange × σ
  | [] => ([], s)
  | ask :: asks =>
    let (e, s) := b.exchange s ask
    let (es, s) := b.converse s asks
    (e :: es, s)

lemma ask_exchange (b : Backend σ) (s : σ) (ask : Ask) : (b.exchange s ask).1.ask = ask := by
  cases ask <;> rfl

/-- Every call is answered. -/
lemma map_ask_converse (b : Backend σ) (s : σ) (asks : List Ask) :
    (b.converse s asks).1.map Exchange.ask = asks := by
  induction asks generalizing s with
  | nil => rfl
  | cons ask asks ih => rw [converse, List.map_cons, ih, ask_exchange]

end Backend

/-- What a client gets for an element of a script, in the stream of an execution. -/
def ScriptItem.stamped (id : ExecutionId) (request : SubmitRequest) : ScriptItem → Item
  | report tree => .ok (.around id request.scenario.title request.environment.name tree)
  | broken reason => .error (.stream reason)

namespace ScriptBook

variable {book : ScriptBook} {s s' : ScriptState} {past : List Exchange} {id : ExecutionId}
  {request : SubmitRequest}

/-! ## What the backend does -/

/-- The error of a stream that is not there to be given. -/
def unknown (id : ExecutionId) : Error :=
  .stream ("unknown execution " ++ toString id.toNat)

/-- What is kept of a scenario that was submitted, until its stream is given. -/
def pendingFor (book : ScriptBook) (id : ExecutionId) (request : SubmitRequest) : Pending :=
  ⟨id, request.scenario.title, request.environment.name, book.itemsFor request.scenario⟩

lemma stream_pendingFor (book : ScriptBook) (id : ExecutionId) (request : SubmitRequest) :
    (book.pendingFor id request).stream =
      (book.itemsFor request.scenario).map (ScriptItem.stamped id request) := by
  refine List.map_congr_left fun item _ => ?_
  cases item <;> rfl

/-- **What a submission does**: the script turns it down, or there is no number left, or it starts an
execution under the next number. -/
lemma submit_cases (book : ScriptBook) (request : SubmitRequest) (s : ScriptState) :
    (∃ reason, book.submitError? request.scenario = some reason ∧
      book.backend.exchange s (.submit request) =
        (.submit request (.error (.submission reason)), s)) ∨
    (book.submitError? request.scenario = none ∧ ScriptState.capacity ≤ s.issued ∧
      book.backend.exchange s (.submit request) =
        (.submit request (.error (.internal "no execution number is left")), s)) ∨
    (book.submitError? request.scenario = none ∧ s.issued < ScriptState.capacity ∧
      book.backend.exchange s (.submit request) =
        (.submit request (.ok (UInt64.ofNat (s.issued + 1))),
          { s with
            issued := s.issued + 1
            submissions := s.submissions ++ [⟨UInt64.ofNat (s.issued + 1), request.scenario.title,
              request.environment.name, request.dataset⟩]
            pending := s.pending ++ [book.pendingFor (UInt64.ofNat (s.issued + 1)) request] })) := by
  simp only [Backend.exchange, backend, submit]
  cases hreason : book.submitError? request.scenario with
  | some reason => exact Or.inl ⟨reason, rfl, rfl⟩
  | none =>
      by_cases hroom : ScriptState.capacity ≤ s.issued
      · exact Or.inr (Or.inl ⟨rfl, hroom, by simp only [if_pos hroom]⟩)
      · exact Or.inr (Or.inr ⟨rfl, Nat.lt_of_not_le hroom, by simp only [if_neg hroom]; rfl⟩)

/-- **What a call for a stream does**: it is given what is kept under its number, or an error. -/
lemma notifications_cases (book : ScriptBook) (id : ExecutionId) (s : ScriptState) :
    (∃ p ∈ s.pending, p.id = id ∧
      book.backend.exchange s (.notifications id) =
        (.notifications id (.ok p.stream),
          { s with
            opened := s.opened ++ [id]
            pending := s.pending.filter fun q => q.id != id })) ∨
    ((∀ p ∈ s.pending, p.id ≠ id) ∧
      book.backend.exchange s (.notifications id) =
        (.notifications id (.error (unknown id)), { s with opened := s.opened ++ [id] })) := by
  simp only [Backend.exchange, backend, notifications]
  cases hfind : s.pending.find? fun p => p.id == id with
  | some p =>
      exact Or.inl ⟨p, List.mem_of_find?_eq_some hfind, by simpa using List.find?_some hfind, rfl⟩
  | none =>
      exact Or.inr ⟨fun p hp => by simpa using List.find?_eq_none.mp hfind p hp, rfl⟩

/-! ## What is remembered -/

/-- The executions that were started. -/
def started (past : List Exchange) : List ExecutionId :=
  (past.map Exchange.call).filterMap Call.started?

lemma mem_started_iff : id ∈ started past ↔ ∃ request, .submit request (.ok id) ∈ past := by
  rw [started, List.mem_filterMap]
  constructor
  · rintro ⟨call, hcall, hstarted⟩
    obtain ⟨e, he, rfl⟩ := List.mem_map.mp hcall
    cases e with
    | notifications id got => cases hstarted
    | submit request answer =>
        cases answer with
        | error e => cases hstarted
        | ok id' =>
            obtain rfl := Option.some.inj hstarted
            exact ⟨request, he⟩
  · rintro ⟨request, hmem⟩
    exact ⟨_, List.mem_map_of_mem hmem, rfl⟩

/-- **An execution awaits a client**: it was started for a request, and its stream was given to
nobody. -/
structure Awaits (past : List Exchange) (id : ExecutionId) (request : SubmitRequest) : Prop where
  started : .submit request (.ok id) ∈ past
  waits : ∀ items, .notifications id (.ok items) ∉ past

/-- **What a call is answered** after some exchanges. -/
inductive Answers (book : ScriptBook) (past : List Exchange) : Exchange → Prop where
  | refused {request : SubmitRequest} {reason : String}
    (h : book.submitError? request.scenario = some reason) :
    Answers book past (.submit request (.error (.submission reason)))
  | exhausted {request : SubmitRequest} (h : book.submitError? request.scenario = none)
    (hnumber : ScriptState.capacity ≤ (started past).length) :
    Answers book past (.submit request (.error (.internal "no execution number is left")))
  | accepted {request : SubmitRequest} (h : book.submitError? request.scenario = none)
    (hnumber : (started past).length < ScriptState.capacity) :
    Answers book past (.submit request (.ok (UInt64.ofNat ((started past).length + 1))))
  | given {id : ExecutionId} {request : SubmitRequest} (h : Awaits past id request) :
    Answers book past (.notifications id
      (.ok ((book.itemsFor request.scenario).map (ScriptItem.stamped id request))))
  | unknown {id : ExecutionId} (h : ∀ request, ¬ Awaits past id request) :
    Answers book past (.notifications id (.error (unknown id)))

/-- Each call is answered as it has to be after the calls before it. -/
def Answered (book : ScriptBook) (exchanges : List Exchange) : Prop :=
  ∀ before e after, exchanges = before ++ e :: after → book.Answers before e

/-- **The state of a backend of scripts** after some exchanges: what was submitted under which numbers,
which streams were asked for, and which executions await a client. -/
structure Remembers (book : ScriptBook) (s : ScriptState) (past : List Exchange) : Prop where
  submissions : s.submissions = (past.map Exchange.call).filterMap Call.submission?
  opened : s.opened = (past.map Exchange.call).filterMap Call.opened?
  /-- Numbers count up from one. -/
  numbers : (started past).map UInt64.toNat = List.range' 1 s.issued
  room : s.issued ≤ ScriptState.capacity
  /-- Streams are given of executions only that were started. -/
  given : ∀ id items, .notifications id (.ok items) ∈ past → id ∈ started past
  pending : ∀ p, p ∈ s.pending ↔ ∃ request, Awaits past p.id request ∧ p = book.pendingFor p.id request

lemma remembers_initial (book : ScriptBook) : book.Remembers .initial [] where
  submissions := rfl
  opened := rfl
  numbers := rfl
  room := Nat.zero_le _
  given := fun _ _ hmem => absurd hmem List.not_mem_nil
  pending := fun p => by
    refine iff_of_false List.not_mem_nil ?_
    rintro ⟨request, hawaits, -⟩
    exact List.not_mem_nil hawaits.started

lemma started_concat (past : List Exchange) (e : Exchange) :
    started (past ++ [e]) = started past ++ e.call.started?.toList := by
  rw [started, List.map_append, List.filterMap_append]
  cases h : e.call.started? <;> simp [started, h]

lemma awaits_concat_iff {e : Exchange} :
    Awaits (past ++ [e]) id request ↔
      (.submit request (.ok id) ∈ past ∨ .submit request (.ok id) = e) ∧
        ∀ items, .notifications id (.ok items) ∉ past ∧ .notifications id (.ok items) ≠ e := by
  constructor
  · rintro ⟨hstarted, hwaits⟩
    simp only [List.mem_append, List.mem_singleton, not_or] at hstarted hwaits
    exact ⟨hstarted, hwaits⟩
  · rintro ⟨hstarted, hwaits⟩
    refine ⟨?_, fun items => ?_⟩
    · rw [List.mem_append, List.mem_singleton]
      exact hstarted
    · rw [List.mem_append, List.mem_singleton, not_or]
      exact hwaits items

namespace Remembers

variable (h : book.Remembers s past)

include h

lemma length_started : (started past).length = s.issued := by
  have hlength := congrArg List.length h.numbers
  rwa [List.length_map, List.length_range'] at hlength

/-- No number is given to two executions. -/
lemma nodup_started : (started past).Nodup := by
  refine List.Nodup.of_map UInt64.toNat ?_
  rw [h.numbers]
  exact List.nodup_range' ..

/-- The next number is new. -/
lemma next_not_mem_started (hroom : s.issued < ScriptState.capacity) :
    UInt64.ofNat (s.issued + 1) ∉ started past := by
  intro hmem
  have hnumber := List.mem_map_of_mem (f := UInt64.toNat) hmem
  rw [h.numbers, toNat_next (n := 0) hroom, List.mem_range'_1] at hnumber
  omega

/-- An exchange that neither starts an execution nor gives a stream. -/
lemma silent {e : Exchange} {opened : List ExecutionId} (hsubmission : e.call.submission? = none)
    (hstarted : e.call.started? = none) (hother : ∀ id items, .notifications id (.ok items) ≠ e)
    (hopened : opened = s.opened ++ e.call.opened?.toList) :
    book.Remembers { s with opened } (past ++ [e]) where
  submissions := by
    rw [List.map_append, List.filterMap_append, h.submissions]
    simp [hsubmission]
  opened := by
    rw [List.map_append, List.filterMap_append, ← h.opened, hopened]
    cases hcall : e.call.opened? <;> simp [hcall]
  numbers := by
    rw [started_concat, hstarted, Option.toList_none, List.append_nil]
    exact h.numbers
  room := h.room
  given id items hmem := by
    rw [List.mem_append, List.mem_singleton, or_iff_left (hother id items)] at hmem
    rw [started_concat]
    exact List.mem_append_left _ (h.given id items hmem)
  pending p := by
    have hawaits (id : ExecutionId) (request : SubmitRequest) :
        Awaits (past ++ [e]) id request ↔ Awaits past id request := by
      have hne : Exchange.submit request (.ok id) ≠ e := by
        rintro rfl
        cases hstarted
      rw [awaits_concat_iff, or_iff_left hne]
      constructor
      · exact fun hawaits => ⟨hawaits.1, fun items => (hawaits.2 items).1⟩
      · exact fun hawaits => ⟨hawaits.started, fun items => ⟨hawaits.waits items, hother id items⟩⟩
    simp only [hawaits]
    exact h.pending p

/-- An execution is started under the next number. -/
lemma accepted (hroom : s.issued < ScriptState.capacity) (request : SubmitRequest) :
    book.Remembers
      { s with
        issued := s.issued + 1
        submissions := s.submissions ++ [⟨UInt64.ofNat (s.issued + 1), request.scenario.title,
          request.environment.name, request.dataset⟩]
        pending := s.pending ++ [book.pendingFor (UInt64.ofNat (s.issued + 1)) request] }
      (past ++ [.submit request (.ok (UInt64.ofNat (s.issued + 1)))]) where
  submissions := by
    rw [List.map_append, List.filterMap_append, h.submissions]
    rfl
  opened := by
    rw [List.map_append, List.filterMap_append, h.opened]
    exact (List.append_nil _).symm
  numbers := by
    rw [started_concat, List.map_append, h.numbers, List.range'_concat, Nat.one_mul, Nat.add_comm 1]
    exact congrArg (_ ++ [·]) (toNat_next (n := 0) hroom)
  room := hroom
  given id items hmem := by
    rw [List.mem_append, List.mem_singleton, or_iff_left Exchange.noConfusion] at hmem
    rw [started_concat]
    exact List.mem_append_left _ (h.given id items hmem)
  pending p := by
    rw [List.mem_append, List.mem_singleton, h.pending]
    simp only [awaits_concat_iff, Exchange.submit.injEq, Except.ok.injEq, ne_eq, reduceCtorEq,
      not_false_eq_true, and_true]
    constructor
    · rintro (⟨request', hawaits, hp⟩ | rfl)
      · exact ⟨request', ⟨Or.inl hawaits.started, hawaits.waits⟩, hp⟩
      · refine ⟨request, ⟨Or.inr ⟨rfl, rfl⟩, fun items hmem => ?_⟩, rfl⟩
        exact h.next_not_mem_started hroom (h.given _ items hmem)
    · rintro ⟨request', ⟨hstarted | ⟨rfl, hid⟩, hwaits⟩, hp⟩
      · exact Or.inl ⟨request', ⟨hstarted, hwaits⟩, hp⟩
      · exact Or.inr (hid ▸ hp)

/-- A stream is given. -/
lemma given_away (hawaits : Awaits past id request) (items : List Item) :
    book.Remembers
      { s with
        opened := s.opened ++ [id]
        pending := s.pending.filter fun q => q.id != id }
      (past ++ [.notifications id (.ok items)]) where
  submissions := by
    rw [List.map_append, List.filterMap_append, h.submissions]
    exact (List.append_nil _).symm
  opened := by
    rw [List.map_append, List.filterMap_append, h.opened]
    rfl
  numbers := by
    rw [started_concat]
    exact (congrArg _ (List.append_nil _)).trans h.numbers
  room := h.room
  given id' items' hmem := by
    rw [started_concat]
    refine List.mem_append_left _ ?_
    rw [List.mem_append, List.mem_singleton] at hmem
    rcases hmem with hmem | heq
    · exact h.given id' items' hmem
    · rw [(Exchange.notifications.inj heq).1]
      exact mem_started_iff.mpr ⟨request, hawaits.started⟩
  pending p := by
    rw [List.mem_filter, h.pending, bne_iff_ne]
    simp only [awaits_concat_iff, Exchange.notifications.injEq, Except.ok.injEq, ne_eq, not_and,
      reduceCtorEq, or_false]
    constructor
    · rintro ⟨⟨request', hawaits', hp⟩, hne⟩
      exact ⟨request', ⟨hawaits'.started, fun items' =>
        ⟨hawaits'.waits items', fun heq => absurd heq hne⟩⟩, hp⟩
    · rintro ⟨request', ⟨hstarted, hwaits⟩, hp⟩
      exact ⟨⟨request', ⟨hstarted, fun items' => (hwaits items').1⟩, hp⟩,
        fun heq => (hwaits items).2 heq rfl⟩

/-- **A call** is answered as it has to be after the calls before it, and is remembered. -/
theorem exchange (ask : Ask) :
    book.Answers past (book.backend.exchange s ask).1 ∧
      book.Remembers (book.backend.exchange s ask).2 (past ++ [(book.backend.exchange s ask).1]) := by
  cases ask with
  | submit request =>
      rcases book.submit_cases request s with
        ⟨reason, hreason, heq⟩ | ⟨hnone, hroom, heq⟩ | ⟨hnone, hroom, heq⟩ <;> rw [heq]
      · refine ⟨.refused hreason, ?_⟩
        exact h.silent rfl rfl (by simp) (List.append_nil _).symm
      · refine ⟨.exhausted hnone (h.length_started ▸ hroom), ?_⟩
        exact h.silent rfl rfl (by simp) (List.append_nil _).symm
      · refine ⟨?_, h.accepted hroom request⟩
        rw [← h.length_started]
        exact .accepted hnone (h.length_started ▸ hroom)
  | notifications id =>
      rcases book.notifications_cases id s with ⟨p, hp, rfl, heq⟩ | ⟨hnone, heq⟩ <;> rw [heq]
      · obtain ⟨request, hawaits, hpending⟩ := (h.pending p).mp hp
        refine ⟨?_, h.given_away hawaits _⟩
        rw [hpending, stream_pendingFor]
        exact .given hawaits
      · refine ⟨.unknown fun request hawaits => ?_, h.silent rfl rfl (by simp) rfl⟩
        exact hnone _ ((h.pending (book.pendingFor id request)).mpr ⟨request, hawaits, rfl⟩) rfl

/-- **Calls** one after the other are answered as they have to be. -/
theorem converse (asks : List Ask) :
    book.Remembers (book.backend.converse s asks).2 (past ++ (book.backend.converse s asks).1) ∧
      ∀ before e after, (book.backend.converse s asks).1 = before ++ e :: after →
        book.Answers (past ++ before) e := by
  induction asks generalizing s past with
  | nil =>
      refine ⟨?_, fun before e after heq => absurd heq (List.append_ne_nil_of_right_ne_nil _ ?_).symm⟩
      · rw [Backend.converse, List.append_nil]
        exact h
      · exact List.cons_ne_nil e after
  | cons ask asks ih =>
      obtain ⟨hanswers, hremembers⟩ := h.exchange ask
      obtain ⟨hend, hlater⟩ := ih hremembers
      rw [Backend.converse]
      refine ⟨?_, fun before e after heq => ?_⟩
      · rw [List.append_assoc] at hend
        exact hend
      · cases before with
        | nil =>
            obtain ⟨rfl, -⟩ := List.cons.inj heq
            rw [List.append_nil]
            exact hanswers
        | cons first before =>
            obtain ⟨rfl, hrest⟩ := List.cons.inj heq
            have hanswer := hlater before e after hrest
            rw [List.append_assoc] at hanswer
            exact hanswer

end Remembers

/-! ## Streams are given once -/

section

variable {exchanges before between after : List Exchange} {got got' : Except Error (List Item)}

lemma Awaits.of_not_given (h : .submit request (.ok id) ∈ past)
    (hwaits : ¬ ∃ items, .notifications id (.ok items) ∈ past) : Awaits past id request :=
  ⟨h, fun items hmem => hwaits ⟨items, hmem⟩⟩

/-- A number that is given to one execution only stands nowhere else. -/
lemma not_mem_started_of_nodup
    (h : (started (before ++ .submit request (.ok id) :: after)).Nodup) :
    id ∉ started before ∧ id ∉ started after := by
  have hsplit : started (before ++ .submit request (.ok id) :: after) =
      started before ++ id :: started after := by
    rw [started, List.map_append, List.filterMap_append]
    rfl
  rw [hsplit, List.nodup_append] at h
  obtain ⟨-, hafter, hbefore⟩ := h
  exact ⟨fun hmem => hbefore id hmem id List.mem_cons_self rfl, (List.nodup_cons.mp hafter).1⟩

/-- Nothing is given of an execution that was not started. -/
lemma Answered.error_of_not_started (h : book.Answered exchanges)
    (heq : exchanges = before ++ .notifications id got :: after) (hstarted : id ∉ started before) :
    got = .error (unknown id) := by
  cases h before _ after heq with
  | given hawaits => exact absurd (mem_started_iff.mpr ⟨_, hawaits.started⟩) hstarted
  | unknown _ => rfl

/-- What is given was started before. -/
lemma Answered.mem_started_of_given (h : book.Answered exchanges) (heq : exchanges = before ++ after)
    {items : List Item} (hgiven : .notifications id (.ok items) ∈ before) : id ∈ started before := by
  obtain ⟨front, behind, rfl⟩ := List.append_of_mem hgiven
  rw [List.append_assoc, List.cons_append] at heq
  cases h front _ _ heq with
  | given hawaits => exact mem_started_iff.mpr ⟨_, List.mem_append_left _ hawaits.started⟩

/-- Nothing is given twice. -/
lemma Answered.error_of_given (h : book.Answered exchanges)
    (heq : exchanges = before ++ .notifications id got :: after)
    (hgiven : ∃ items, .notifications id (.ok items) ∈ before) : got = .error (unknown id) := by
  obtain ⟨items, hmem⟩ := hgiven
  cases h before _ after heq with
  | given hawaits => exact absurd hmem (hawaits.waits items)
  | unknown _ => rfl

/-- Whoever asks first after an execution was started is given its stream. -/
lemma Answered.eq_ok_of_first (h : book.Answered exchanges) (hnodup : (started exchanges).Nodup)
    (heq : exchanges =
      before ++ .submit request (.ok id) :: (between ++ .notifications id got :: after))
    (hfirst : ∀ got', .notifications id got' ∉ between) :
    got = .ok ((book.itemsFor request.scenario).map (ScriptItem.stamped id request)) := by
  obtain ⟨hbefore, hbehind⟩ := not_mem_started_of_nodup (heq ▸ hnodup)
  have hbetween : id ∉ started between := fun hmem => by
    obtain ⟨request', hmem⟩ := mem_started_iff.mp hmem
    exact hbehind (mem_started_iff.mpr ⟨request', List.mem_append_left _ hmem⟩)
  have hsplit : exchanges =
      (before ++ .submit request (.ok id) :: between) ++ .notifications id got :: after := by
    rw [heq, List.append_assoc, List.cons_append]
  cases h _ _ after hsplit with
  | given hawaits =>
      have hstarted := hawaits.started
      rw [List.mem_append, List.mem_cons] at hstarted
      rcases hstarted with hmem | heq | hmem
      · exact absurd (mem_started_iff.mpr ⟨_, hmem⟩) hbefore
      · rw [(Exchange.submit.inj heq).1]
      · exact absurd (mem_started_iff.mpr ⟨_, hmem⟩) hbetween
  | unknown hnone =>
      -- whoever came before the start was too early
      refine absurd (Awaits.of_not_given ?_ ?_) (hnone request)
      · exact List.mem_append_right _ List.mem_cons_self
      · rintro ⟨items, hmem⟩
        rw [List.mem_append, List.mem_cons] at hmem
        rcases hmem with hmem | heq' | hmem
        · exact hbefore (h.mem_started_of_given heq hmem)
        · cases heq'
        · exact hfirst _ hmem

/-- Whoever asks again is given nothing. -/
lemma Answered.error_of_further (h : book.Answered exchanges)
    (heq : exchanges =
      before ++ .submit request (.ok id) :: (between ++ .notifications id got :: after))
    (hfurther : .notifications id got' ∈ between) : got = .error (unknown id) := by
  obtain ⟨front, behind, rfl⟩ := List.append_of_mem hfurther
  have hfirst : exchanges =
      (before ++ .submit request (.ok id) :: front) ++ .notifications id got' ::
        (behind ++ .notifications id got :: after) := by
    simpa using heq
  have hsecond : exchanges =
      (before ++ .submit request (.ok id) :: (front ++ .notifications id got' :: behind)) ++
        .notifications id got :: after := by
    simpa using heq
  refine h.error_of_given hsecond ?_
  have hmem : .notifications id got' ∈
      before ++ .submit request (.ok id) :: (front ++ .notifications id got' :: behind) := by simp
  by_contra hnone
  have hwaits : Awaits (before ++ .submit request (.ok id) :: front) id request := by
    refine .of_not_given (List.mem_append_right _ List.mem_cons_self) ?_
    rintro ⟨items, hgiven⟩
    refine hnone ⟨items, ?_⟩
    simp only [List.mem_append, List.mem_cons] at hgiven ⊢
    tauto
  cases h _ _ _ hfirst with
  | given hawaits => exact hnone ⟨_, hmem⟩
  | unknown hother => exact hother request hwaits

end

/-! ## Executions are not mixed up -/

/-- **No execution is mixed up with another one**, in the exchanges with a backend of scripts and in the
state behind them. -/
structure Unmixed (book : ScriptBook) (exchanges : List Exchange) (s : ScriptState) : Prop where
  /-- What is taken down are the submissions that were accepted, with their numbers. -/
  submissions : s.submissions = (exchanges.map Exchange.call).filterMap Call.submission?
  /-- They are numbered from one on. -/
  numbers : s.submissions.map (fun submission => submission.id.toNat) =
    List.range' 1 s.submissions.length
  opened : s.opened = (exchanges.map Exchange.call).filterMap Call.opened?
  answered : book.Answered exchanges
  /-- The first client that asks for an execution is given what was scripted for it. -/
  first : ∀ {before between after request id got},
    exchanges = before ++ .submit request (.ok id) :: (between ++ .notifications id got :: after) →
    (∀ got', .notifications id got' ∉ between) →
      got = .ok ((book.itemsFor request.scenario).map (ScriptItem.stamped id request))
  further : ∀ {before between after request id got got'},
    exchanges = before ++ .submit request (.ok id) :: (between ++ .notifications id got :: after) →
    .notifications id got' ∈ between → got = .error (unknown id)
  unstarted : ∀ {before after id got}, exchanges = before ++ .notifications id got :: after →
    (∀ request, .submit request (.ok id) ∉ before) → got = .error (unknown id)
  /-- What is kept are the executions that await a client. -/
  pending : ∀ p, p ∈ s.pending ↔ ∃ request, Awaits exchanges p.id request ∧
    p = book.pendingFor p.id request
  /-- A call for a stream changes nothing if it is given none, and else nothing for the others. -/
  undisturbed : ∀ id,
    ((∀ items, (book.backend.notifications id s).1 ≠ .ok items) →
      (book.backend.notifications id s).2.pending = s.pending) ∧
    ∀ p, p.id ≠ id → (p ∈ (book.backend.notifications id s).2.pending ↔ p ∈ s.pending)

lemma undisturbed_notifications (book : ScriptBook) (s : ScriptState) (id : ExecutionId) :
    ((∀ items, (book.backend.notifications id s).1 ≠ .ok items) →
      (book.backend.notifications id s).2.pending = s.pending) ∧
    ∀ p, p.id ≠ id → (p ∈ (book.backend.notifications id s).2.pending ↔ p ∈ s.pending) := by
  have hexchange : book.backend.exchange s (.notifications id) =
      (.notifications id (book.backend.notifications id s).1,
        (book.backend.notifications id s).2) := rfl
  rcases book.notifications_cases id s with ⟨p, hp, hid, heq⟩ | ⟨hnone, heq⟩ <;>
    obtain ⟨hgot, hstate⟩ := Prod.mk.inj (hexchange.symm.trans heq) <;> rw [hstate]
  · refine ⟨fun hnot => absurd (Exchange.notifications.inj hgot).2 (hnot _), fun q hne => ?_⟩
    rw [List.mem_filter, and_iff_left (bne_iff_ne.mpr hne)]
  · exact ⟨fun _ => rfl, fun q _ => Iff.rfl⟩

lemma Remembers.unmixed {exchanges : List Exchange} (h : book.Remembers s exchanges)
    (hanswered : book.Answered exchanges) : book.Unmixed exchanges s where
  submissions := h.submissions
  numbers := by
    have hids : s.submissions.map Submission.id = started exchanges := by
      rw [h.submissions, Call.map_id_submission?, started]
    have hlength : s.submissions.length = s.issued := by
      rw [← h.length_started, ← hids, List.length_map]
    rw [hlength, ← h.numbers, ← hids, List.map_map]
    rfl
  opened := h.opened
  answered := hanswered
  first := hanswered.eq_ok_of_first h.nodup_started
  further := hanswered.error_of_further
  unstarted heq hnone := hanswered.error_of_not_started heq fun hmem => by
    obtain ⟨request, hstarted⟩ := mem_started_iff.mp hmem
    exact hnone request hstarted
  pending := h.pending
  undisturbed := undisturbed_notifications book s

/-- **Executions are not mixed up**, whatever is asked of a backend of scripts and in whatever order:
every call is answered.  The executions that were accepted are numbered from one on without gaps.  The
first call for a stream after its execution was started is given what was scripted for this scenario,
under its number, its title and its environment.  All other calls for streams fail and change nothing for
the executions that still await a client. -/
theorem unmixed_of_converse (book : ScriptBook) (asks : List Ask) :
    (book.backend.converse .initial asks).1.map Exchange.ask = asks ∧
      book.Unmixed (book.backend.converse .initial asks).1
        (book.backend.converse .initial asks).2 := by
  obtain ⟨hremembers, hanswered⟩ := book.remembers_initial.converse asks
  exact ⟨book.backend.map_ask_converse .initial asks, Remembers.unmixed hremembers hanswered⟩

end ScriptBook

end ScenarioRunner

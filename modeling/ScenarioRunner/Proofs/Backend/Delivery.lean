import Mathlib.Logic.Relation
import ScenarioRunner.Backend.Replay
import ScenarioRunner.Proofs.Backend.Lines

/-!
# The items of a body are delivered

The body of a reply is read by a task of its own, which puts the items into a queue with little
room.  Who follows the execution takes them out at the other end.

* `Delivery` is the state of both, and `Delivery.Step` what either of them can do next.
* `Delivery.Step.all_eq`: a step loses, adds and reorders nothing.
* `Delivery.exists_step` and `Delivery.Step.measure_eq`: until the end is reached somebody can go
  on, and the steps to the end are counted.
* `HttpReply.delivers_items`: the items are those of the events of all bytes in one piece, whichever
  way the two tasks take turns.

If the body breaks off, what is left of an incomplete event never gets into the queue.
-/

namespace ScenarioRunner

/-! ## The decoder -/

namespace EventDecoder

open EventStream

/-- The events that bytes complete. -/
def completed (bytes : List UInt8) : List ServerEvent :=
  (empty.push bytes).1

/-- **Chunks** leave a decoder as it is left by their bytes in one chunk, and complete the same
events. -/
lemma pushAll_eq_push (chunks : List (List UInt8)) :
    empty.pushAll chunks = empty.push chunks.flatten := by
  have hempty : ¬ blank <:+: empty.buffer := no_blank_of_length_lt (by decide)
  obtain ⟨blocks, hcut, hevents⟩ := exists_cut_of_pushAll chunks empty hempty
  obtain ⟨blocks', hcut', hevents'⟩ := exists_cut_of_pushAll [chunks.flatten] empty hempty
  rw [List.flatten_singleton] at hcut'
  obtain ⟨rfl, hleft⟩ := hcut.unique hcut'
  have hone : empty.pushAll [chunks.flatten] = empty.push chunks.flatten :=
    Prod.ext (List.append_nil _) rfl
  rw [← hone]
  exact Prod.ext (hevents.trans hevents'.symm) (congrArg mk hleft)

lemma eventsOf_eq_completed (bytes : List UInt8) :
    eventsOf bytes = completed bytes ++ (empty.push bytes).2.finish.1.toList := rfl

/-- The events that bytes complete are those of the blocks up to the last cut.  All events are
those, and the one of what is left. -/
lemma exists_cut_of_completed (bytes : List UInt8) :
    ∃ blocks left, Cut (bytes.filter (· != 13)) blocks left ∧
      completed bytes = blocks.filterMap ServerEvent.ofBlock? ∧
      eventsOf bytes = (blocks ++ [left]).filterMap ServerEvent.ofBlock? := by
  obtain ⟨blocks, hcut, hevents⟩ :=
    exists_cut_of_pushAll [bytes] empty (no_blank_of_length_lt (by decide))
  rw [pushAll_eq_push, List.flatten_singleton] at hcut hevents
  refine ⟨blocks, _, hcut, hevents, ?_⟩
  rw [eventsOf, hevents, List.filterMap_append, finish]
  cases h : ServerEvent.ofBlock? (empty.push bytes).2.buffer with
  | none => simp [h]
  | some event => simp [h]

end EventDecoder

/-! ## Items -/

namespace Snapshot

/-- The text is that of a report. -/
def IsReport (text : String) (report : ExecutionReport) : Prop :=
  Document.ofText ExecutionReport.decode text = .ok report

/-- **The item of an event**: what broke, a report, or an error that says why the data is none. -/
structure Reads (e : ServerEvent) (item : Item) : Prop where
  broken : e.name = some "error" → item = .error (.stream e.data)
  report : e.name ≠ some "error" → ∀ report, IsReport e.data report → item = .ok report
  unreadable : e.name ≠ some "error" → (¬ ∃ report, IsReport e.data report) →
    ∃ reason, item = .error (.stream ("invalid report snapshot: " ++ reason))

lemma reads_ofEvent (e : ServerEvent) : Reads e (ofEvent e) := by
  unfold ofEvent
  by_cases hname : e.name = some "error"
  · rw [if_pos hname]
    exact ⟨fun _ => rfl, fun h => absurd hname h, fun h => absurd hname h⟩
  · rw [if_neg hname]
    cases hdata : Document.ofText ExecutionReport.decode e.data with
    | ok report =>
        refine ⟨fun h => absurd h hname, fun _ report' h => ?_, fun _ h => absurd ⟨report, hdata⟩ h⟩
        rw [IsReport, hdata] at h
        rw [Except.ok.inj h]
    | error cause =>
        refine ⟨fun h => absurd h hname, fun _ report h => ?_, fun _ _ => ⟨cause.message, rfl⟩⟩
        rw [IsReport, hdata] at h
        exact absurd h (by simp)

end Snapshot

/-! ## Two tasks and a queue -/

namespace HttpReply

/-- What is put into the queue when the body ends: what broke, or the event that is left. -/
def lastItems (isCut : Bool) (decoder : EventDecoder) : List Item :=
  if isCut then [.error (.stream unreadable)]
  else (decoder.finish.1.map Snapshot.ofEvent).toList

end HttpReply

/-- The task that reads a body. -/
inductive BodyReader where
  | reading (chunks : List (List UInt8)) (decoder : EventDecoder)
  /-- The end of the body has come. -/
  | ended
  /-- Nothing will be put into the queue any more. -/
  | gone

namespace BodyReader

/-- The items that are still to be read. -/
def rest (isCut : Bool) : BodyReader → List Item
  | reading chunks decoder =>
    (decoder.pushAll chunks).1.map Snapshot.ofEvent ++
      HttpReply.lastItems isCut (decoder.pushAll chunks).2
  | ended => []
  | gone => []

/-- The number of steps that the reader makes beside putting items. -/
def steps : BodyReader → Nat
  | reading chunks _ => chunks.length + 2
  | ended => 1
  | gone => 0

end BodyReader

/-- A body that is delivered. -/
structure Delivery where
  reader : BodyReader
  /-- The items that are read, and not in the queue yet. -/
  waiting : List Item
  queue : List Item
  /-- The items that have been taken out of the queue. -/
  taken : List Item
  /-- It is known that there are no more items. -/
  isOver : Bool

/-- The delivery of a body of which nothing is read. -/
def HttpReply.delivery (r : HttpReply) : Delivery :=
  ⟨.reading r.chunks .empty, [], [], [], false⟩

namespace Delivery

/-- The room in the queue. -/
def capacity : Nat := 32

/-- **What can happen next.**  The reader puts an item if there is room, reads on when no item
waits, and goes when the body has ended.  The other task takes an item if there is one, and knows of
the end when the queue is empty and the reader is gone. -/
inductive Step (isCut : Bool) : Delivery → Delivery → Prop where
  | put {reader : BodyReader} {item : Item} {waiting queue taken : List Item} {isOver : Bool}
    (hroom : queue.length < capacity) :
    Step isCut ⟨reader, item :: waiting, queue, taken, isOver⟩
      ⟨reader, waiting, queue ++ [item], taken, isOver⟩
  | read {chunk : List UInt8} {chunks : List (List UInt8)} {decoder : EventDecoder}
    {queue taken : List Item} {isOver : Bool} :
    Step isCut ⟨.reading (chunk :: chunks) decoder, [], queue, taken, isOver⟩
      ⟨.reading chunks (decoder.push chunk).2, (decoder.push chunk).1.map Snapshot.ofEvent, queue,
        taken, isOver⟩
  | finish {decoder : EventDecoder} {queue taken : List Item} {isOver : Bool} :
    Step isCut ⟨.reading [] decoder, [], queue, taken, isOver⟩
      ⟨.ended, HttpReply.lastItems isCut decoder, queue, taken, isOver⟩
  | leave {queue taken : List Item} {isOver : Bool} :
    Step isCut ⟨.ended, [], queue, taken, isOver⟩ ⟨.gone, [], queue, taken, isOver⟩
  | take {reader : BodyReader} {item : Item} {waiting queue taken : List Item} {isOver : Bool} :
    Step isCut ⟨reader, waiting, item :: queue, taken, isOver⟩
      ⟨reader, waiting, queue, taken ++ [item], isOver⟩
  | stop {waiting taken : List Item} :
    Step isCut ⟨.gone, waiting, [], taken, false⟩ ⟨.gone, waiting, [], taken, true⟩

/-- Some steps lead from one state to another one. -/
abbrev Runs (isCut : Bool) : Delivery → Delivery → Prop :=
  Relation.ReflTransGen (Step isCut)

variable {isCut : Bool} {d d' : Delivery} {reply : HttpReply}

/-- All items: those that have been taken, those on their way, and those still to be read. -/
def all (isCut : Bool) (d : Delivery) : List Item :=
  d.taken ++ d.queue ++ d.waiting ++ d.reader.rest isCut

/-- **A step loses, adds and reorders nothing.** -/
theorem Step.all_eq (h : Step isCut d d') : d'.all isCut = d.all isCut := by
  cases h with
  | put | take => simp [all]
  | read => simp [all, BodyReader.rest, EventDecoder.pushAll]
  | finish => simp [all, BodyReader.rest, EventDecoder.pushAll]
  | leave | stop => simp [all, BodyReader.rest]

/-- What the two tasks keep: there is room for what is in the queue, nothing waits when the reader
is gone, and it is gone when the end is known. -/
structure Orderly (d : Delivery) : Prop where
  room : d.queue.length ≤ capacity
  gone : d.reader = .gone → d.waiting = []
  known : d.isOver = true → d.reader = .gone ∧ d.queue = []

lemma Step.orderly (h : Step isCut d d') (hd : d.Orderly) : d'.Orderly := by
  obtain ⟨hroom, hgone, hover⟩ := hd
  cases h with
  | put hspace =>
      refine ⟨?_, fun h => (nomatch hgone h), fun h => (nomatch hgone (hover h).1)⟩
      rw [List.length_append]
      exact hspace
  | read => exact ⟨hroom, nofun, fun h => (nomatch (hover h).1)⟩
  | finish => exact ⟨hroom, nofun, fun h => (nomatch (hover h).1)⟩
  | leave => exact ⟨hroom, fun _ => rfl, fun h => (nomatch (hover h).1)⟩
  | take => exact ⟨Nat.le_of_succ_le hroom, hgone, fun h => (nomatch (hover h).2)⟩
  | stop => exact ⟨hroom, hgone, fun _ => ⟨rfl, rfl⟩⟩

/-! ### The end is reached -/

/-- **Until the end is known** one of the tasks can go on. -/
theorem exists_step (hover : d.isOver = false) : ∃ d', Step isCut d d' := by
  obtain ⟨reader, waiting, queue, taken, isOver⟩ := d
  obtain rfl : isOver = false := hover
  cases queue with
  | cons item queue => exact ⟨_, .take⟩
  | nil =>
      cases waiting with
      | cons item waiting => exact ⟨_, .put (by decide)⟩
      | nil =>
          cases reader with
          | reading chunks decoder =>
              cases chunks with
              | nil => exact ⟨_, .finish⟩
              | cons chunk chunks => exact ⟨_, .read⟩
          | ended => exact ⟨_, .leave⟩
          | gone => exact ⟨_, .stop⟩

/-- The number of steps to the end: each item is put and taken. -/
def measure (isCut : Bool) (d : Delivery) : Nat :=
  2 * (d.waiting.length + (d.reader.rest isCut).length) + d.queue.length + d.reader.steps +
    (!d.isOver).toNat

/-- **Every step is one of those to the end.** -/
theorem Step.measure_eq (h : Step isCut d d') : d.measure isCut = d'.measure isCut + 1 := by
  cases h with
  | put | take =>
      simp only [measure, List.length_append, List.length_cons, List.length_nil]
      omega
  | read | finish =>
      -- what is read leaves the rest and waits
      simp only [measure, BodyReader.rest, BodyReader.steps, EventDecoder.pushAll,
        List.length_append, List.length_cons, List.length_map, List.length_nil]
      omega
  | leave =>
      simp only [measure, BodyReader.rest, BodyReader.steps, List.length_nil]
      omega
  | stop => rfl

lemma wellFounded_step (isCut : Bool) : WellFounded fun d' d => Step isCut d d' :=
  Subrelation.wf (fun h => by rw [InvImage, h.measure_eq]; exact Nat.lt_succ_self _)
    (InvImage.wf (measure isCut) Nat.lt_wfRel.wf)

/-! ### Runs -/

lemma Runs.all_eq (h : Runs isCut d d') : d'.all isCut = d.all isCut := by
  induction h with
  | refl => rfl
  | tail _ hstep ih => rw [hstep.all_eq, ih]

lemma Runs.orderly (h : Runs isCut d d') (hd : d.Orderly) : d'.Orderly := by
  induction h with
  | refl => exact hd
  | tail _ hstep ih => exact hstep.orderly ih

lemma all_delivery (reply : HttpReply) : reply.delivery.all reply.isCut = reply.items := rfl

lemma orderly_delivery (reply : HttpReply) : reply.delivery.Orderly :=
  ⟨Nat.zero_le _, nofun, nofun⟩

/-- When the end is known, all items have been taken. -/
lemma Orderly.taken_eq_all (hd : d.Orderly) (hover : d.isOver = true) : d.taken = d.all isCut := by
  obtain ⟨hgone, hqueue⟩ := hd.known hover
  rw [all, hqueue, hd.gone hgone, hgone]
  simp [BodyReader.rest]

end Delivery

/-- **How the body of a reply is delivered.** -/
structure HttpReply.Delivers (r : HttpReply) : Prop where
  /-- A body that is complete gives all of its events. -/
  whole : r.isCut = false →
    r.items = (EventDecoder.eventsOf r.chunks.flatten).map Snapshot.ofEvent
  /-- A body that breaks off gives the events that are complete, and one error. -/
  cut : r.isCut = true → ∃ reason,
    r.items =
      (EventDecoder.completed r.chunks.flatten).map Snapshot.ofEvent ++ [.error (.stream reason)]
  /-- The events stand between pairs of newlines, and the last one behind the last pair. -/
  events : ∃ blocks left, EventStream.Cut (r.chunks.flatten.filter (· != 13)) blocks left ∧
    EventDecoder.completed r.chunks.flatten = blocks.filterMap ServerEvent.ofBlock? ∧
    EventDecoder.eventsOf r.chunks.flatten = (blocks ++ [left]).filterMap ServerEvent.ofBlock?
  /-- Each event has an item of its own. -/
  reads : ∀ e, Snapshot.Reads e (Snapshot.ofEvent e)
  /-- What has been taken are items in their order, and there is room for those in the queue. -/
  running : ∀ d, Delivery.Runs r.isCut r.delivery d →
    d.taken <+: r.items ∧ d.queue.length ≤ Delivery.capacity
  /-- The tasks go on until the end is known. -/
  proceeds : ∀ d, Delivery.Runs r.isCut r.delivery d → d.isOver = false →
    ∃ d', Delivery.Step r.isCut d d'
  /-- They do not go on for ever. -/
  ends : WellFounded fun d' d => Delivery.Step r.isCut d d'
  /-- When the end is known, exactly the items have been taken. -/
  complete : ∀ d, Delivery.Runs r.isCut r.delivery d → d.isOver = true → d.taken = r.items

namespace HttpReply

lemma items_eq (r : HttpReply) :
    r.items =
      (EventDecoder.completed r.chunks.flatten).map Snapshot.ofEvent ++
        lastItems r.isCut (EventDecoder.empty.push r.chunks.flatten).2 := by
  rw [EventDecoder.completed, ← EventDecoder.pushAll_eq_push]
  rfl

/-- **Nothing is lost and nothing changes places**, however a body is cut into chunks and whichever
way the tasks take turns. -/
theorem delivers_items (r : HttpReply) : r.Delivers where
  whole hcut := by
    rw [items_eq, hcut, EventDecoder.eventsOf_eq_completed, List.map_append, lastItems]
    cases (EventDecoder.empty.push r.chunks.flatten).2.finish.1 <;> rfl
  cut hcut := ⟨_, by rw [items_eq, hcut, lastItems, if_pos rfl]⟩
  events := EventDecoder.exists_cut_of_completed r.chunks.flatten
  reads := Snapshot.reads_ofEvent
  running d hruns := by
    have hall := hruns.all_eq
    rw [Delivery.all_delivery, Delivery.all, List.append_assoc, List.append_assoc] at hall
    exact ⟨⟨_, hall⟩, (hruns.orderly (Delivery.orderly_delivery r)).room⟩
  proceeds _ _ hover := Delivery.exists_step hover
  ends := Delivery.wellFounded_step r.isCut
  complete d hruns hover := by
    rw [(hruns.orderly (Delivery.orderly_delivery r)).taken_eq_all hover, hruns.all_eq,
      Delivery.all_delivery]

end HttpReply

namespace RemoteService

variable {σ : Type} {reply : HttpReply} {s s' : σ}

/-- **Streams of snapshots lose and reorder nothing.**  When a server answers the opening of a
stream with success, the items are those of the events that the bytes of the body make in one piece:
with the event that is left at the end if the body is complete, and with one error in its place if
the body breaks off.  Whoever takes them out of the queue gets exactly these items, and then the
end. -/
theorem delivers_notifications (service : RemoteService) (transport : Transport σ)
    (id : ExecutionId)
    (hsend : send transport .get
      (service.resource ("executions/" ++ toString id.toNat ++ "/reports")) "text/event-stream" none
      s = (.ok reply, s'))
    (hsuccess : StatusCode.isSuccess reply.code = true) :
    service.notifications transport id s = (.ok reply.items, s') ∧ reply.Delivers := by
  refine ⟨?_, reply.delivers_items⟩
  rw [notifications]
  simp only [hsend, readNotifications, hsuccess, if_true]

/-- A body with an error, a report and the start of another one, behind which it breaks off. -/
def brokenBody : HttpReply :=
  ⟨200,
    ["event: error\ndata: engine".toUTF8.toList, " crashed\n\ndata: \x7b\"status\": ".toUTF8.toList,
      "\"RUNNING\"\x7d\n\ndata: \x7b\"sta".toUTF8.toList],
    true⟩

/-- The body gives an error, a report and another error. -/
theorem delivers_notifications_broken :
    ∃ (service : RemoteService) (server server' : ReplayServer),
      send ReplayServer.transport .get
          (service.resource ("executions/" ++ toString (7 : ExecutionId).toNat ++ "/reports"))
          "text/event-stream" none server = (.ok brokenBody, server') ∧
      StatusCode.isSuccess brokenBody.code = true ∧
      service.notifications ReplayServer.transport 7 server = (.ok brokenBody.items, server') ∧
      brokenBody.Delivers ∧
      brokenBody.items.map Except.isOk = [false, true, false] := by
  let service : RemoteService := ⟨"http://localhost/", ⟨⟨.empty, []⟩, "environments"⟩⟩
  have hread : Url.read
      (service.resource ("executions/" ++ toString (7 : ExecutionId).toNat ++ "/reports")) =
      .ok ⟨"http", "localhost", none, "/api/v1/executions/7/reports", none, none⟩ := by
    decide +kernel
  have hsend : ∃ server', send ReplayServer.transport .get
      (service.resource ("executions/" ++ toString (7 : ExecutionId).toNat ++ "/reports"))
      "text/event-stream" none (.ofReplies [] [brokenBody]) = (.ok brokenBody, server') := by
    rw [send, hread]
    exact ⟨_, rfl⟩
  obtain ⟨server', hsend⟩ := hsend
  obtain ⟨hitems, hdelivers⟩ :=
    delivers_notifications service ReplayServer.transport 7 hsend (by decide)
  exact ⟨service, _, server', hsend, by decide, hitems, hdelivers, by decide +kernel⟩

end RemoteService

end ScenarioRunner

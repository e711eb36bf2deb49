import Mathlib.Data.List.Forall2
import ScenarioRunner.Proofs.Backend.Steady
import ScenarioRunner.Proofs.Engine.JobEvents
import ScenarioRunner.Proofs.Progress.Board
import ScenarioRunner.Proofs.Progress.Walk

/-!
# Numbers of executions in what a scenario tells

What a task tells depends on the number of its execution in two texts only: that of the final report,
and the message about a stream without reports.

* `Change.Alike` and `Event.Alike` hold of two things that are told of two executions, if they are the
  same but for their numbers.
* `Tracker.exists_follow_numbered`: a tracker makes the same moves whatever the number is.
* `Job.alike_followed`: what two executions get of one answer leads to the same moves and results.
* `Job.alike_actions`: what they tell is alike.
-/

namespace ScenarioRunner

/-- Two changes are the same but for the numbers of two executions. -/
inductive Change.Alike (id id' : ExecutionId) : Change → Change → Prop where
  | same (change : Change) : Alike id id' change change
  | published (report : ExecutionReport) :
    Alike id id' (.published (report.numbered id)) (.published (report.numbered id'))
  | unreported :
    Alike id id' (.finished (.failure (Error.noReport id).message))
      (.finished (.failure (Error.noReport id').message))

/-- Two events are the same but for the numbers of two executions. -/
structure Event.Alike (id id' : ExecutionId) (e e' : Event) : Prop where
  subject : e.subject = e'.subject
  node : e.node = e'.node
  change : e.change.Alike id id' e'.change

namespace Event.Alike

variable {id id' : ExecutionId}

lemma refl (id id' : ExecutionId) (e : Event) : Event.Alike id id' e e :=
  ⟨rfl, rfl, .same e.change⟩

lemma forall₂_refl (id id' : ExecutionId) (events : List Event) :
    List.Forall₂ (Event.Alike id id') events events :=
  List.forall₂_same.mpr fun e _ => refl id id' e

end Event.Alike

/-! ## Trackers -/

namespace Board

/-- No step has started. -/
def IsIdle (b : Board) : Prop :=
  ∀ i, (b.mark i).started = false

variable {b : Board} {slots : List Slot} {last : Option ExecutionReport}

/-- Closing a step that has not started does not ask for its result. -/
lemma IsIdle.close (h : b.IsIdle) (slot : Slot) (i : Nat) (result result' : StepReport → NodeResult) :
    b.close slot i result = b.close slot i result' ∧ (b.close slot i result).IsIdle := by
  have hchange : (b.change i fun m => { m with closed := true }).IsIdle := by
    intro j
    have hj := h j
    simp only [mark, change, List.getD_eq_getElem?_getD, List.getElem?_modify] at hj ⊢
    cases hmark : b.marks[j]? with
    | none => rfl
    | some m =>
        rw [hmark] at hj
        by_cases hij : i = j
        · simpa [hij] using hj
        · simpa [hij] using hj
  simp only [Board.close, h i, Bool.false_eq_true, if_false]
  refine ⟨trivial, ?_⟩
  split
  · exact h
  · split
    · exact hchange
    · exact hchange

lemma IsIdle.closeAll (h : b.IsIdle) (failure failure' : Option String) (indices : List Nat) :
    Tracker.closeAll slots last failure indices b =
      Tracker.closeAll slots last failure' indices b := by
  induction indices generalizing b with
  | nil => rfl
  | cons i indices ih =>
      simp only [Tracker.closeAll, List.foldl_cons] at ih ⊢
      cases slots[i]? with
      | none => exact ih h
      | some slot =>
          obtain ⟨hsame, hidle⟩ :=
            h.close slot i (Tracker.resultOf last failure slot) (Tracker.resultOf last failure' slot)
          dsimp only
          rw [← hsame]
          exact ih hidle

end Board

namespace Tracker

/-- The tracker of an execution with a number. -/
def numbered (id : ExecutionId) (t : Tracker) : Tracker :=
  { t with last := t.last.map (ExecutionReport.numbered id) }

lemma finish_numbered (id : ExecutionId) (t : Tracker) (failure : Option String) :
    ((t.numbered id).finish failure).1 = (t.finish failure).1 := by
  have hresult : resultOf (t.last.map (ExecutionReport.numbered id)) failure =
      resultOf t.last failure := by
    cases t.last <;> rfl
  simp only [finish, closeAll, numbered, slots, hresult]

/-- If no step has started, the moves at the end do not depend on what broke the run. -/
lemma finish_ofScenario (node : Node) (failure failure' : Option String) :
    ((ofScenario node).finish failure).1 = ((ofScenario node).finish failure').1 := by
  have hidle : (⟨(ofScenario node).marks, []⟩ : Board).IsIdle := by
    intro i
    simp only [Board.mark, ofScenario, List.getD_eq_getElem?_getD, List.getElem?_replicate]
    split <;> rfl
  rw [finish, finish, hidle.closeAll failure failure']

end Tracker

/-! ## Following a stream -/

namespace Followed

/-- What the stream of an execution with a number has done. -/
def numbered (id : ExecutionId) (f : Followed) : Followed :=
  ⟨f.moves, f.tracker.numbered id, f.outcome.map (ExecutionReport.numbered id)⟩

/-- What the streams of two executions have done, if it is the same but for their numbers. -/
inductive Alike (id id' : ExecutionId) : Followed → Followed → Prop where
  | numbered (f : Followed) : Alike id id' (f.numbered id) (f.numbered id')
  | unreported (node : Node) :
    Alike id id' ⟨[], .ofScenario node, .error (.noReport id)⟩
      ⟨[], .ofScenario node, .error (.noReport id')⟩

variable {id id' : ExecutionId} {f f' : Followed}

lemma failure?_numbered (id : ExecutionId) (f : Followed) :
    (f.numbered id).failure? = f.failure? := by
  unfold failure? numbered
  cases f.outcome <;> rfl

lemma result_numbered (id : ExecutionId) (f : Followed) : (f.numbered id).result = f.result := by
  unfold result numbered
  cases f.outcome <;> rfl

lemma closing_numbered (id : ExecutionId) (f : Followed) : (f.numbered id).closing = f.closing := by
  rw [closing, failure?_numbered, closing]
  exact Tracker.finish_numbered ..

/-- The verdict does not depend on the number. -/
lemma Alike.verdict (h : Alike id id' f f') : f.result.verdict = f'.result.verdict := by
  cases h with
  | numbered f => rw [result_numbered, result_numbered]
  | unreported => rfl

end Followed

/-- A tracker does not look at the number of a snapshot. -/
lemma Tracker.observe_numbered (id : ExecutionId) (t : Tracker) (r : ExecutionReport) :
    (t.numbered id).observe (r.numbered id) = ((t.observe r).1, (t.observe r).2.numbered id) := by
  rw [observe, observe, slots, slots, scan_ofScenario, scan_ofScenario]
  rfl

lemma Tracker.follow_numbered_cons (id : ExecutionId) (t : Tracker) (r : ExecutionReport)
    (items : List Item) :
    (t.numbered id).follow id (Stream.numbered id (.ok r :: items)) =
      let f := ((t.observe r).2.numbered id).follow id (Stream.numbered id items)
      { f with moves := (t.observe r).1 ++ f.moves } := by
  have hstep : (t.numbered id).follow id (Stream.numbered id (.ok r :: items)) =
      let f := ((t.numbered id).observe (r.numbered id)).2.follow id (Stream.numbered id items)
      { f with moves := ((t.numbered id).observe (r.numbered id)).1 ++ f.moves } := rfl
  rw [hstep, observe_numbered]

/-- **A tracker makes the same moves whatever the number of the execution is**, if there is a
snapshot at all. -/
theorem Tracker.exists_follow_numbered (t : Tracker) (r : ExecutionReport) (items : List Item) :
    ∃ f : Followed, ∀ id,
      (t.numbered id).follow id (Stream.numbered id (.ok r :: items)) = f.numbered id := by
  induction items generalizing t r with
  | nil =>
      refine ⟨⟨(t.observe r).1, (t.observe r).2, .ok r⟩, fun id => ?_⟩
      rw [follow_numbered_cons]
      exact congrArg (Followed.mk · _ _) (List.append_nil _)
  | cons item items ih =>
      cases item with
      | error e =>
          refine ⟨⟨(t.observe r).1, (t.observe r).2, .error e⟩, fun id => ?_⟩
          rw [follow_numbered_cons]
          exact congrArg (Followed.mk · _ _) (List.append_nil _)
      | ok r' =>
          obtain ⟨f, hf⟩ := ih (t.observe r).2 r'
          refine ⟨⟨(t.observe r).1 ++ f.moves, f.tracker, f.outcome⟩, fun id => ?_⟩
          rw [follow_numbered_cons, hf id]
          rfl

namespace Job

variable {job : Job} {options options' : RunOptions}
  {opened opened' : Except Error (ExecutionId × List Item)} {a : Answer}

/-- **What two executions get of one answer** does the same to a scenario. -/
theorem alike_followed (job : Job) (h : a.Gives opened) (h' : a.Gives opened') :
    ∃ id id', Followed.Alike id id' (job.followed opened) (job.followed opened') := by
  cases h with
  | refused e =>
      cases h'
      exact ⟨0, 0, .numbered (.unopened (.ofScenario job.node) e)⟩
  | unopened e =>
      cases h'
      exact ⟨0, 0, .numbered (.unopened (.ofScenario job.node) e)⟩
  | stream items id =>
      cases h' with
      | stream _ id' =>
          refine ⟨id, id', ?_⟩
          cases items with
          | nil => exact .unreported job.node
          | cons item items =>
              cases item with
              | error e => exact .numbered ⟨[], .ofScenario job.node, .error e⟩
              | ok r =>
                  obtain ⟨f, hf⟩ := (Tracker.ofScenario job.node).exists_follow_numbered r items
                  have hfollowed : ∀ id,
                      job.followed (.ok (id, Stream.numbered id (.ok r :: items))) = f.numbered id :=
                    hf
                  rw [hfollowed id, hfollowed id']
                  exact .numbered f

/-- The verdict of a scenario depends on the answer only. -/
lemma verdict_eq (job : Job) (h : a.Gives opened) (h' : a.Gives opened') :
    (job.followed opened).result.verdict = (job.followed opened').result.verdict := by
  obtain ⟨id, id', halike⟩ := job.alike_followed h h'
  exact halike.verdict

/-- What is told of the final report. -/
lemma forall₂_published {id id' : ExecutionId} (f : Followed) :
    List.Forall₂ (Event.Alike id id') (toldBy (job.publish options (f.numbered id)))
      (toldBy (job.publish options' (f.numbered id'))) := by
  rw [toldBy_publish, toldBy_publish]
  cases houtcome : f.outcome with
  | error e =>
      simp only [Followed.numbered, houtcome, Except.map]
      exact .nil
  | ok report =>
      simp only [Followed.numbered, houtcome, Except.map]
      exact .cons ⟨rfl, rfl, .published report⟩ .nil

/-- **What two executions tell** of a scenario is alike, if they get it of one answer. -/
theorem alike_actions (job : Job) (options options' : RunOptions) (h : a.Gives opened)
    (h' : a.Gives opened') :
    ∃ id id', List.Forall₂ (Event.Alike id id') (toldBy (job.actions options opened))
      (toldBy (job.actions options' opened')) := by
  obtain ⟨id, id', halike⟩ := job.alike_followed h h'
  refine ⟨id, id', ?_⟩
  rw [toldBy_actions, toldBy_actions]
  generalize job.followed opened = f at halike
  generalize job.followed opened' = f' at halike
  cases halike with
  | numbered f =>
      rw [innerEvents, innerEvents, Followed.closing_numbered, Followed.closing_numbered,
        Followed.result_numbered, Followed.result_numbered]
      have hmoves := Event.Alike.forall₂_refl id id' (f.moves.filterMap job.stepEvent?)
      have hclosing := Event.Alike.forall₂_refl id id' (f.closing.filterMap job.stepEvent?)
      have hfinish := Event.Alike.forall₂_refl id id' [job.event (.finished f.result)]
      exact List.rel_append
        (List.rel_append (List.rel_append hmoves (forall₂_published f)) hclosing) hfinish
  | unreported node =>
      -- nothing has started, so that the message does not come up before the end
      have hclosing : Followed.closing ⟨[], .ofScenario node, .error (.noReport id)⟩ =
          Followed.closing ⟨[], .ofScenario node, .error (.noReport id')⟩ :=
        Tracker.finish_ofScenario ..
      rw [innerEvents, innerEvents, toldBy_publish, toldBy_publish, hclosing]
      exact List.rel_append (Event.Alike.forall₂_refl id id' _) (.cons ⟨rfl, rfl, .unreported⟩ .nil)

end Job

end ScenarioRunner

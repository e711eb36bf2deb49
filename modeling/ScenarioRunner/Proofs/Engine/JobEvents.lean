import Mathlib.Tactic.Common
import ScenarioRunner.Engine.ClassRun

/-!
# What a scenario tells

The events of one scenario, in the order in which its own task tells them.

* `Job.toldBy` picks the events out of the actions of a job.
* `Job.IsInner` holds of the events between the start of a scenario and its end: those of its steps,
  and its final report.
* `Job.toldBy_actions`: whatever a stream does, a job tells inner events and then its end.
* `Job.StageBy` relates how far the task of a scenario is to the events told of the scenario, and
  `Job.Course` says what such relations have in common until the task is launched.
-/

namespace ScenarioRunner

/-- The event says that a scenario starts. -/
def Event.startsScenario (e : Event) : Bool :=
  match e.subject, e.change with
  | .scenarioAt _ _, .started => true
  | _, _ => false

namespace Phase

/-- The task of the scenario has been launched. -/
def isLaunched : Phase → Bool
  | waiting | granted => false
  | _ => true

end Phase

/-- The event that an action tells. -/
def JobAction.event? : JobAction → Option Event
  | .emit e => some e
  | _ => none

namespace Job

variable {job : Job} {options : RunOptions} {opened : Except Error (ExecutionId × List Item)}

/-- The events that some actions tell. -/
def toldBy (actions : List JobAction) : List Event :=
  actions.filterMap JobAction.event?

@[simp] lemma toldBy_nil : toldBy [] = [] := rfl

@[simp] lemma toldBy_append (actions more : List JobAction) :
    toldBy (actions ++ more) = toldBy actions ++ toldBy more :=
  List.filterMap_append ..

/-- The event lies at the scenario or below it. -/
def Covers (job : Job) (e : Event) : Prop :=
  e.subject.isWithinScenario job.group job.place = true

instance (job : Job) (e : Event) : Decidable (job.Covers e) :=
  inferInstanceAs (Decidable (_ = true))

/-- The event lies between the start of the scenario and its end: it is about a step, or it is the
final report. -/
def IsInner (job : Job) (e : Event) : Prop :=
  (∃ slot, e.subject = .stepAt job.group job.place slot) ∨
    ∃ report, e = job.event (.published report)

lemma covers_event (job : Job) (change : Change) : job.Covers (job.event change) := by
  simp [Covers, event, subject, Subject.isWithinScenario]

lemma IsInner.covers {e : Event} (h : job.IsInner e) : job.Covers e := by
  rcases h with ⟨slot, hslot⟩ | ⟨report, rfl⟩
  · simp [Covers, hslot, Subject.isWithinScenario]
  · exact covers_event ..

lemma isInner_of_stepEvent? {m : Move} {e : Event} (h : job.stepEvent? m = some e) :
    job.IsInner e := by
  rw [stepEvent?, Option.map_eq_some_iff] at h
  obtain ⟨node, -, rfl⟩ := h
  exact Or.inl ⟨m.slot, rfl⟩

lemma toldBy_emitAll (job : Job) (moves : List Move) :
    toldBy (job.emitAll moves) = moves.filterMap job.stepEvent? := by
  rw [toldBy, emitAll, List.filterMap_map]
  exact List.filterMap_some

lemma toldBy_publish (job : Job) (options : RunOptions) (f : Followed) :
    toldBy (job.publish options f) =
      match f.outcome with
      | .error _ => []
      | .ok report => [job.event (.published report)] := by
  unfold publish
  cases f.outcome with
  | error e => rfl
  | ok report => cases options.folder <;> rfl

/-- The events between the start of a scenario and its end. -/
def innerEvents (job : Job) (options : RunOptions) (f : Followed) : List Event :=
  f.moves.filterMap job.stepEvent? ++ toldBy (job.publish options f) ++
    f.closing.filterMap job.stepEvent?

/-- What a job does before it leaves. -/
def work (job : Job) (options : RunOptions) (f : Followed) : List JobAction :=
  job.emitAll f.moves ++ job.publish options f ++ job.emitAll f.closing

/-- A job works, leaves and tells its end. -/
lemma actions_eq (job : Job) (options : RunOptions)
    (opened : Except Error (ExecutionId × List Item)) :
    job.actions options opened =
      job.work options (job.followed opened) ++
        [.leave (job.followed opened).result.verdict,
          .emit (job.event (.finished (job.followed opened).result))] := by
  simp only [actions, wrapUp, conclude, work, List.append_assoc]

lemma toldBy_work (job : Job) (options : RunOptions) (f : Followed) :
    toldBy (job.work options f) = job.innerEvents options f := by
  rw [work, toldBy_append, toldBy_append, toldBy_emitAll, toldBy_emitAll, innerEvents]

/-- **What a job tells** are inner events, and then its end. -/
theorem toldBy_actions (job : Job) (options : RunOptions)
    (opened : Except Error (ExecutionId × List Item)) :
    toldBy (job.actions options opened) =
      job.innerEvents options (job.followed opened) ++
        [job.event (.finished (job.followed opened).result)] := by
  rw [actions_eq, toldBy_append, toldBy_work]
  rfl

/-- An inner event is that of a step that moves, or the final report. -/
lemma exists_of_mem_innerEvents {f : Followed} {e : Event} (h : e ∈ job.innerEvents options f) :
    (∃ m, job.stepEvent? m = some e) ∨ ∃ report, e = job.event (.published report) := by
  rw [innerEvents, toldBy_publish, List.mem_append, List.mem_append, List.mem_filterMap,
    List.mem_filterMap] at h
  rcases h with (⟨m, -, hm⟩ | hpublished) | ⟨m, -, hm⟩
  · exact Or.inl ⟨m, hm⟩
  · split at hpublished
    · exact absurd hpublished List.not_mem_nil
    · next report _ => exact Or.inr ⟨report, List.mem_singleton.mp hpublished⟩
  · exact Or.inl ⟨m, hm⟩

/-- Events that steps move are inner events, and so is the final report. -/
theorem isInner_of_mem_innerEvents {f : Followed} {e : Event}
    (h : e ∈ job.innerEvents options f) : job.IsInner e := by
  rcases exists_of_mem_innerEvents h with ⟨m, hm⟩ | hpublished
  · exact isInner_of_stepEvent? hm
  · exact Or.inr hpublished

lemma IsInner.startsScenario {e : Event} (h : job.IsInner e) : e.startsScenario = false := by
  rcases h with ⟨slot, hslot⟩ | ⟨report, rfl⟩
  · rw [Event.startsScenario, hslot]
  · rfl

/-- What a job has told before its last action are inner events. -/
lemma isInner_of_unfinished {done rest : List JobAction} {action : JobAction}
    (hactions : job.actions options opened = done ++ action :: rest) {e : Event}
    (he : e ∈ toldBy done) : job.IsInner e := by
  have hlast : (done ++ action :: rest).dropLast =
      job.work options (job.followed opened) ++ [.leave (job.followed opened).result.verdict] := by
    rw [← hactions, actions_eq]
    simp
  rw [List.dropLast_append_of_ne_nil (List.cons_ne_nil action rest)] at hlast
  have hmem : e ∈ toldBy (job.work options (job.followed opened) ++
      [.leave (job.followed opened).result.verdict]) := by
    rw [← hlast, toldBy_append]
    exact List.mem_append_left _ he
  rw [toldBy_append, toldBy_work] at hmem
  exact isInner_of_mem_innerEvents (by simpa [toldBy, JobAction.event?] using hmem)

/-- What the task of a job tells is about its scenario, and no start. -/
lemma covers_of_mem_toldBy {e : Event} (h : e ∈ toldBy (job.actions options opened)) :
    job.Covers e ∧ e.startsScenario = false := by
  rw [toldBy_actions, List.mem_append, List.mem_singleton] at h
  rcases h with h | rfl
  · exact ⟨(isInner_of_mem_innerEvents h).covers, (isInner_of_mem_innerEvents h).startsScenario⟩
  · exact ⟨covers_event .., rfl⟩

/-- **How far a scenario is**: the phase of its task and the events told of it, when nothing cuts the
task off and the backend gives one of some answers. -/
inductive StageBy (answers : Job → Except Error (ExecutionId × List Item) → Prop)
    (options : RunOptions) (job : Job) : Phase → List Event → Prop where
  | waiting : StageBy answers options job .waiting []
  | granted : StageBy answers options job .granted []
  | begun : StageBy answers options job .granted [job.event .started]
  | submitting : StageBy answers options job .submitting [job.event .started]
  | opening (id : ExecutionId) : StageBy answers options job (.opening id) [job.event .started]
  | acting (opened : Except Error (ExecutionId × List Item)) {done rest : List JobAction}
    (hactions : job.actions options opened = done ++ rest) (hanswer : answers job opened) :
    StageBy answers options job (.acting rest) (job.event .started :: toldBy done)
  | complete (opened : Except Error (ExecutionId × List Item)) {phase : Phase}
    (hphase : phase = .releasing ∨ phase = .counting ∨ phase = .done)
    (hanswer : answers job opened) :
    StageBy answers options job phase
      (job.event .started :: toldBy (job.actions options opened))

/-- How far a scenario is, whatever the backend answers. -/
abbrev Stage (options : RunOptions) (job : Job) : Phase → List Event → Prop :=
  StageBy (fun _ _ => True) options job

/-- **The beginning of a course**: what a job has told by the phase of its task until it is launched.
A task that has been launched has told something. -/
structure Course (stage : Job → Phase → List Event → Prop) : Prop where
  waiting : ∀ job, stage job .waiting []
  granted : ∀ job, stage job .granted []
  begun : ∀ job, stage job .granted [job.event .started]
  submitting : ∀ job, stage job .submitting [job.event .started]
  cases_granted : ∀ {job events}, stage job .granted events →
    events = [] ∨ events = [job.event .started]
  not_launched : ∀ {job phase}, stage job phase [] → phase.isLaunched = false

lemma course_stageBy (answers : Job → Except Error (ExecutionId × List Item) → Prop)
    (options : RunOptions) : Course (StageBy answers options) where
  waiting _ := .waiting
  granted _ := .granted
  begun _ := .begun
  submitting _ := .submitting
  cases_granted := by
    intro job events h
    cases h with
    | granted => exact Or.inl rfl
    | begun => exact Or.inr rfl
    | complete _ hphase => simp at hphase
  not_launched := by
    intro job phase h
    cases h <;> rfl

/-- A task that is done has told all that its job tells. -/
lemma StageBy.of_done {answers : Job → Except Error (ExecutionId × List Item) → Prop}
    {events : List Event} (h : job.StageBy answers options .done events) :
    ∃ opened, answers job opened ∧
      events = job.event .started :: toldBy (job.actions options opened) := by
  cases h with
  | complete opened _ hanswer => exact ⟨opened, hanswer, rfl⟩

end Job

end ScenarioRunner

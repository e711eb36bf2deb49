import ScenarioRunner.Engine.Measure

/-!
# One schedule

The order in which steps are made when a run is carried out: the engine comes first, then the classes
in the order of the tree, then the scenarios in the order in which they start.  Each task goes on
until it has to wait.

* `Listener` says which events a listener rejects; the task that tells such an event is cut off.
* `Run.execute` carries out a run to its end.
* `Run.reaches_execute`: what is carried out is a run that choices lead to, so that what holds of all
  those holds of it.
-/

namespace ScenarioRunner

/-- What is told of the events of a run. -/
structure Listener where
  /-- Why an event is rejected, if it is. -/
  rejection : Event → Option String

/-- A listener that rejects no event. -/
def Listener.quiet : Listener :=
  ⟨fun _ => none⟩

namespace Run

variable {σ : Type}

/-- The choice of a task: its next step, unless it tells an event that the listener rejects. -/
def choiceOf (listener : Listener) (r : Run σ) (actor : Actor) : Choice :=
  match (r.nextEvent? actor).bind listener.rejection with
  | some reason => .crash actor reason
  | none => .advance actor

/-- The tasks in the order in which they are asked: scenarios are asked in the order of `queue`. -/
def actors (r : Run σ) (queue : List Actor) : List Actor :=
  .engine :: (List.range r.classes.length).map .classTask ++ queue

/-- The scenario that the next step of a task starts. -/
def started? (r : Run σ) : Actor → Option Actor
  | .classTask k =>
    match (r.classes[k]?).map ClassRun.phase with
    | some (.running (.start l :: _)) => some (.scenarioTask k l)
    | _ => none
  | _ => none

/-- The first task that does not have to wait, with its choice and the run behind it. -/
def next? (b : Backend σ) (options : RunOptions) (listener : Listener) (r : Run σ) :
    List Actor → Option (Actor × Choice × Run σ)
  | [] => none
  | actor :: rest =>
    match r.step? b options (r.choiceOf listener actor) with
    | some r' => some (actor, r.choiceOf listener actor, r')
    | none => next? b options listener r rest

theorem step?_of_next? {b : Backend σ} {options : RunOptions} {listener : Listener} {r r' : Run σ}
    {actors : List Actor} {actor : Actor} {choice : Choice}
    (h : r.next? b options listener actors = some (actor, choice, r')) :
    r.step? b options choice = some r' := by
  induction actors with
  | nil => simp [next?] at h
  | cons a rest ih =>
    simp only [next?] at h
    split at h
    · next r'' hr =>
      simp only [Option.some.injEq, Prod.mk.injEq] at h
      obtain ⟨-, rfl, rfl⟩ := h
      exact hr
    · exact ih h

/-- Carries out a run, where the scenarios in `queue` have started. -/
def drive (b : Backend σ) (options : RunOptions) (listener : Listener) (queue : List Actor)
    (r : Run σ) : Run σ :=
  match h : r.next? b options listener (r.actors queue) with
  | none => r
  | some (actor, _, r') =>
    have : Closer r' r := closer_of_step? (step?_of_next? h)
    drive b options listener (queue ++ (r.started? actor).toList) r'
termination_by (r.ahead, r.coarse, r.fine)
decreasing_by exact lex_of_closer this

/-- Carries out the run of a request. -/
def execute (b : Backend σ) (options : RunOptions) (listener : Listener) (request : RunRequest)
    (s : σ) : Run σ :=
  drive b options listener [] (ofRequest options request s)

/-- What is carried out is a run that choices lead to. -/
theorem reaches_drive (b : Backend σ) (options : RunOptions) (listener : Listener)
    (queue : List Actor) (r : Run σ) :
    ∃ choices, Reaches b options r choices (drive b options listener queue r) := by
  induction queue, r using drive.induct b options listener with
  | case1 queue r h =>
    refine ⟨[], ?_⟩
    unfold drive
    split
    · exact .refl r
    · next h' => simp [h] at h'
  | case2 queue r actor choice r' h closer ih =>
    obtain ⟨choices, hr⟩ := ih
    refine ⟨choice :: choices, ?_⟩
    unfold drive
    split
    · next h' => simp [h] at h'
    · next actor' choice' r'' h' =>
      rw [h] at h'
      simp only [Option.some.injEq, Prod.mk.injEq] at h'
      obtain ⟨rfl, rfl, rfl⟩ := h'
      exact .step (step?_of_next? h) hr

/-- **What is carried out is a run that choices lead to.** -/
theorem reaches_execute (b : Backend σ) (options : RunOptions) (listener : Listener)
    (request : RunRequest) (s : σ) :
    ∃ choices,
      Reaches b options (ofRequest options request s) choices
        (execute b options listener request s) :=
  reaches_drive b options listener [] _

end Run

end ScenarioRunner

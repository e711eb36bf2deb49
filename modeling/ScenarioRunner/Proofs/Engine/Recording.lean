import ScenarioRunner.Proofs.Backend.Calls
import ScenarioRunner.Proofs.Engine.Counts
import ScenarioRunner.Proofs.Engine.Search

/-!
# The calls of a run

What the tasks of a run call, read off a backend that takes down its calls.

* `Run.calls` are the calls that some choices make, each with the node whose task makes it.
* `Run.step?_recording`: a backend that takes down its calls changes nothing else, and takes down what
  `Run.asks` says.
* `Run.makes_of_advance`: a step makes one call, or none.
* `Run.calls_induct`: what each step keeps of a run and its calls is true at the end.
-/

namespace ScenarioRunner

/-! ## What a step calls -/

/-- The task of a choice. -/
def Choice.actor : Choice → Actor
  | advance actor => actor
  | crash actor _ => actor

/-- What the task of a job submits. -/
def Job.request (options : RunOptions) (job : Job) : SubmitRequest :=
  ⟨job.source.definition, job.environment, options.constants, job.source.definition.defaultDataset⟩

/-- What the task of a job calls next. -/
def Phase.asks {σ : Type} (b : Backend σ) (options : RunOptions) (job : Job) (s : σ) :
    Phase → List Call
  | submitting =>
    [.submit (job.request options)
      (b.submit job.source.definition job.environment options.constants
        job.source.definition.defaultDataset s).1]
  | opening id => [.notifications id]
  | _ => []

/-- What lies outside, with the backend in another state. -/
def Outside.map {σ τ : Type} (f : σ → τ) (o : Outside σ) : Outside τ :=
  ⟨f o.backend, o.events, o.written⟩

namespace ClassRun

variable {σ τ : Type} {c : ClassRun} {k : Nat} {job : Job} {phase : Phase}

/-- The task of a class does the same if its calls are taken down, and makes none. -/
lemma advance?_recorded (b : Backend σ) (c : ClassRun) (o : Outside σ) :
    c.advance? b.recorded (o.map fun s => (s, [])) =
      (c.advance? b o).map (Prod.map id (Outside.map fun s => (s, []))) := by
  unfold advance?
  cases c.phase with
  | running actions =>
      cases actions with
      | nil => rfl
      | cons action rest =>
          cases action with
          | askDefault candidate =>
              simp only [act, askDefault, Option.map_some]
              cases hasked : b.defaultEnvironment o.backend with
              | mk named s =>
                  have hrecorded : b.recorded.defaultEnvironment (o.backend, []) =
                      (named, s, []) := by
                    simp only [Backend.recorded, hasked]
                  cases named <;> simp [Outside.map, hrecorded]
          | openGate =>
              simp only [act]
              split <;> rfl
          | grant k =>
              simp only [act, Option.map_map]
              rfl
          | awaitAll =>
              simp only [act]
              split <;> rfl
          | _ => rfl
  | _ => rfl

/-- The task of a scenario does the same if its calls are taken down. -/
lemma advanceScenario?_recorded (b : Backend σ) (options : RunOptions)
    (hk : c.scenarios[k]? = some ⟨job, phase⟩) (o : Outside σ) :
    c.advanceScenario? b.recorded options k (o.map fun s => (s, [])) =
      (c.advanceScenario? b options k o).map
        (Prod.map id (Outside.map fun s => (s, phase.asks b options job o.backend))) := by
  unfold advanceScenario?
  rw [hk]
  cases phase with
  | submitting =>
      cases hsubmit : b.submit job.source.definition job.environment options.constants
        job.source.definition.defaultDataset o.backend with
      | mk answer s =>
          have hrecorded : b.recorded.submit job.source.definition job.environment
              options.constants job.source.definition.defaultDataset (o.backend, []) =
                (answer, s, [.submit (job.request options) answer]) := by
            simp only [Backend.recorded, hsubmit, List.nil_append]
            rfl
          cases answer <;>
            simp [submitScenario, Outside.map, Phase.asks, hsubmit, hrecorded]
  | opening id =>
      cases hopen : b.notifications id o.backend with
      | mk got s =>
          have hrecorded : b.recorded.notifications id (o.backend, []) =
              (got, s, [.notifications id]) := by
            simp only [Backend.recorded, hopen, List.nil_append]
          cases got <;> simp [openScenario, Outside.map, Phase.asks, hopen, hrecorded]
  | acting actions =>
      cases actions with
      | nil => rfl
      | cons action rest => cases action <;> rfl
  | _ => rfl

/-- The task of a scenario makes the call that it asks for next. -/
lemma ScenarioStep.makes {b : Backend σ} {options : RunOptions} {phase' : Phase}
    {scope scope' : ClassScope} {o o' : Outside σ}
    (h : ScenarioStep b options job phase scope o phase' scope' o') :
    b.Makes o.backend (phase.asks b options job o.backend) o'.backend := by
  cases h with
  | submitted hsubmit =>
      rw [Phase.asks, hsubmit]
      exact .submit hsubmit
  | refused hsubmit =>
      rw [Phase.asks, hsubmit]
      exact .submit hsubmit
  | opened hopen => exact .notifications hopen
  | unopened hopen => exact .notifications hopen
  | @acted _ _ action => cases action <;> exact .nothing .nothing
  | _ => exact .nothing .nothing

end ClassRun

namespace Run

variable {σ τ : Type} {b : Backend σ} {options : RunOptions}

/-- The run, with the backend in another state. -/
def map (f : σ → τ) (r : Run σ) : Run τ :=
  ⟨r.root, r.actions, r.classes, r.outside.map f⟩

/-- The run, on a backend that takes down its calls from now on. -/
def recording (r : Run σ) : Run (σ × List Call) :=
  r.map fun s => (s, [])

/-- The scenario at a place among those of a class that run. -/
def task? (r : Run σ) (k l : Nat) : Option ScenarioRun :=
  (r.classes[k]?).bind fun c => c.scenarios[l]?

/-- What a choice calls. -/
def callsOf (b : Backend σ) (options : RunOptions) (r : Run σ) (choice : Choice) : List Call :=
  match r.recording.step? b.recorded options choice with
  | some r' => r'.outside.backend.2
  | none => []

/-- The node whose task is an actor. -/
def subjectOf (r : Run σ) : Actor → Subject
  | .engine => .engine
  | .classTask k => (r.classes[k]?).elim .engine fun c => .classAt c.place
  | .scenarioTask k l => (r.task? k l).elim .engine fun s => s.job.subject

/-- **The calls of a run**, the first one in front: what some choices call, with the node whose task
makes the call. -/
def calls (b : Backend σ) (options : RunOptions) (r : Run σ) (choices : List Choice) :
    List (Subject × Call) :=
  r.trace
    (fun r choice =>
      (r.callsOf b options choice).map fun call => (r.subjectOf choice.actor, call))
    b options choices

/-! ## Taking down calls -/

/-- What the task of a choice calls next. -/
def asks (b : Backend σ) (options : RunOptions) (r : Run σ) : Choice → List Call
  | .advance (.scenarioTask k l) =>
    (r.task? k l).elim [] fun s => s.phase.asks b options s.job r.outside.backend
  | _ => []

/-- The engine never looks at the backend. -/
lemma act_map (f : σ → τ) (r : Run σ) (rest : List EngineAction) (action : EngineAction) :
    (r.map f).act rest action = (r.act rest action).map (map f) := by
  cases action with
  | awaitAll =>
      simp only [act, apply_ite (Option.map (map f))]
      rfl
  | _ => rfl

/-- Neither does who cuts off a task. -/
lemma crash?_map (f : σ → τ) (r : Run σ) (reason : String) (actor : Actor) :
    (r.map f).crash? reason actor = (r.crash? reason actor).map (map f) := by
  cases actor with
  | engine =>
      simp only [crash?, apply_ite (Option.map (map f))]
      rfl
  | classTask k =>
      simp only [crash?, map, Option.bind_eq_bind]
      cases r.classes[k]? with
      | none => rfl
      | some c =>
          simp only [Option.bind_some]
          cases c.crash? <;> rfl
  | scenarioTask k l =>
      simp only [crash?, map, Option.bind_eq_bind]
      cases r.classes[k]? with
      | none => rfl
      | some c =>
          simp only [Option.bind_some]
          cases c.crashScenario? l reason <;> rfl

/-- **A backend that takes down its calls changes nothing else**, and takes down what the task of the
choice calls next. -/
theorem step?_recording (b : Backend σ) (options : RunOptions) (r : Run σ) (choice : Choice) :
    r.recording.step? b.recorded options choice =
      (r.step? b options choice).map (map fun s => (s, r.asks b options choice)) := by
  cases choice with
  | crash actor reason => exact crash?_map (fun s => (s, [])) r reason actor
  | advance actor =>
      cases actor with
      | engine =>
          simp only [step?, advance?, recording, map]
          cases r.actions with
          | nil => rfl
          | cons action rest => exact act_map (fun s => (s, [])) r rest action
      | classTask k =>
          simp only [step?, advance?, recording, map, Option.bind_eq_bind]
          cases r.classes[k]? with
          | none => rfl
          | some c =>
              simp only [Option.bind_some, ClassRun.advance?_recorded]
              cases c.advance? b r.outside <;> rfl
      | scenarioTask k l =>
          simp only [step?, advance?, recording, map, asks, task?, Option.bind_eq_bind]
          cases r.classes[k]? with
          | none => rfl
          | some c =>
              simp only [Option.bind_some]
              cases hl : c.scenarios[l]? with
              | none => simp [ClassRun.advanceScenario?, hl]
              | some s =>
                  rw [ClassRun.advanceScenario?_recorded b options hl]
                  cases c.advanceScenario? b options l r.outside <;> rfl

lemma callsOf_eq {r r' : Run σ} {choice : Choice} (hstep : r.step? b options choice = some r') :
    r.callsOf b options choice = r.asks b options choice := by
  rw [callsOf, step?_recording, hstep]
  rfl

/-! ## One call a step -/

/-- **A step makes one call, or none.** -/
theorem makes_of_advance {r r' : Run σ} {actor : Actor}
    (hadvance : r.advance? b options actor = some r') :
    b.Makes r.outside.backend (r.asks b options (.advance actor)) r'.outside.backend := by
  cases actor with
  | engine =>
      obtain ⟨⟨more, houtside, -⟩, -⟩ := scenarios_of_engine hadvance
      rw [houtside]
      exact .nothing .nothing
  | classTask k =>
      obtain ⟨c, c', o', hk, hnext, rfl⟩ := advance_classTask_iff.mp hadvance
      exact .nothing (ClassRun.taskTurn_of_advance hnext).consults
  | scenarioTask k l =>
      obtain ⟨c, c', o', hk, hnext, rfl⟩ := advance_scenarioTask_iff.mp hadvance
      obtain ⟨job, phase, phase', scope', hl, hstep, rfl⟩ :=
        ClassRun.scenarioStep_of_advance hnext
      have hasks : r.asks b options (.advance (.scenarioTask k l)) =
          phase.asks b options job r.outside.backend := by
        simp [asks, task?, hk, hl]
      rw [hasks]
      exact hstep.makes

/-! ## Step by step -/

/-- **What each step keeps** of a run and of its calls so far is true at the end, if no task is cut
off.  Each step starts where some of the choices have led to. -/
theorem calls_induct {motive : Run σ → List (Subject × Call) → Prop} {r r' : Run σ}
    {choices : List Choice} (hreaches : Reaches b options r choices r') (hquiet : Quiet choices)
    (hfirst : motive r [])
    (hstep : ∀ {before r₁ log actor r₂}, Reaches b options r before r₁ → Quiet before →
      before ++ [.advance actor] <+: choices → motive r₁ log →
      r₁.advance? b options actor = some r₂ →
      motive r₂ (log ++ (r₁.asks b options (.advance actor)).map fun call =>
        (r₁.subjectOf actor, call))) :
    motive r' (r.calls b options choices) := by
  refine trace_induct hreaches hfirst fun {before log r₁ choice r₂} hbefore hfront hmotive first => ?_
  obtain ⟨actor, rfl⟩ := hquiet choice (hfront.subset (by simp))
  rw [callsOf_eq first]
  exact hstep hbefore (fun choice hmem => hquiet choice (hfront.subset (by simp [hmem]))) hfront
    hmotive first

end Run

end ScenarioRunner

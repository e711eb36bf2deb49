import ScenarioRunner.Proofs.Engine.JobEvents

/-!
# The steps of the task of a scenario

Every step that the task of a scenario can make, once and for all, so that what is proved of such
steps never opens `ClassRun.advanceScenario?`.

* `ClassRun.ScenarioStep` lists the steps: the phase, the scope of the class and what lies outside,
  before and behind.  `ClassRun.ScenarioTurn` adds that the task is cut off.
* `ClassRun.scenarioStep_of_advance` and `ClassRun.exposed_of_crash`: what becomes of the task is in
  the lists.
* `ClassRun.isSome_advanceScenario?`: a task that has been launched and is not done can go on.
* `Job.StageBy.passes`: a step takes a stage to a stage, if the backend gives one of the answers.
-/

namespace ScenarioRunner

namespace Phase

/-- The phase of a task that is cut off: the end of the scenario may be missing, unless it was about
to be told, when only the permit is left to be given back. -/
def cutOff (reason : String) : Phase → Phase
  | telling _ => releasing
  | _ => rescuing reason

end Phase

namespace ClassScope

/-- The scope behind an action of a job. -/
def behind (scope : ClassScope) (job : Job) : JobAction → ClassScope
  | .leave verdict => (scope.leave job.node.id verdict).2
  | _ => scope

lemma behind_permits (scope : ClassScope) (job : Job) (action : JobAction) :
    (scope.behind job action).capacity = scope.capacity ∧
      (scope.behind job action).free = scope.free ∧
      (scope.behind job action).remaining = scope.remaining := by
  cases action <;> exact ⟨rfl, rfl, rfl⟩

end ClassScope

namespace Outside

variable {σ : Type}

/-- What lies outside, behind an action of a job. -/
def behind (o : Outside σ) : JobAction → Outside σ
  | .emit e => o.emit e
  | .write report => o.write report
  | .leave _ => o

lemma events_behind (o : Outside σ) (action : JobAction) :
    (o.behind action).events = o.events ++ action.event?.toList := by
  cases action <;> simp [behind, emit, write, JobAction.event?]

end Outside

namespace ClassRun

variable {σ : Type} {b : Backend σ} {options : RunOptions} {job : Job}

/-- A step of the task of a scenario: its phase, the scope of the class and what lies outside, before
and behind. -/
inductive ScenarioStep (b : Backend σ) (options : RunOptions) (job : Job) :
    Phase → ClassScope → Outside σ → Phase → ClassScope → Outside σ → Prop where
  | submitted {scope : ClassScope} {o : Outside σ} {id : ExecutionId} {s : σ}
    (hsubmit : b.submit job.source.definition job.environment options.constants
      job.source.definition.defaultDataset o.backend = (.ok id, s)) :
    ScenarioStep b options job .submitting scope o (.opening id) scope { o with backend := s }
  | refused {scope : ClassScope} {o : Outside σ} {e : Error} {s : σ}
    (hsubmit : b.submit job.source.definition job.environment options.constants
      job.source.definition.defaultDataset o.backend = (.error e, s)) :
    ScenarioStep b options job .submitting scope o (.acting (job.actions options (.error e))) scope
      { o with backend := s }
  | opened {scope : ClassScope} {o : Outside σ} {id : ExecutionId} {items : List Item} {s : σ}
    (hopen : b.notifications id o.backend = (.ok items, s)) :
    ScenarioStep b options job (.opening id) scope o
      (.acting (job.actions options (.ok (id, items)))) scope { o with backend := s }
  | unopened {scope : ClassScope} {o : Outside σ} {id : ExecutionId} {e : Error} {s : σ}
    (hopen : b.notifications id o.backend = (.error e, s)) :
    ScenarioStep b options job (.opening id) scope o (.acting (job.actions options (.error e)))
      scope { o with backend := s }
  | acted {scope : ClassScope} {o : Outside σ} {action : JobAction} {rest : List JobAction} :
    ScenarioStep b options job (.acting (action :: rest)) scope o (.acting rest)
      (scope.behind job action) (o.behind action)
  | ended {scope : ClassScope} {o : Outside σ} :
    ScenarioStep b options job (.acting []) scope o .releasing scope o
  | rescued {scope : ClassScope} {o : Outside σ} {reason : String} :
    ScenarioStep b options job (.rescuing reason) scope o
      (if (scope.leave job.node.id .failure).1 then .telling reason else .releasing)
      (scope.leave job.node.id .failure).2 o
  | told {scope : ClassScope} {o : Outside σ} {reason : String} :
    ScenarioStep b options job (.telling reason) scope o .releasing scope
      (o.emit (job.event (.finished (lost reason))))
  | released {scope : ClassScope} {o : Outside σ} :
    ScenarioStep b options job .releasing scope o .counting scope.release o
  | counted {scope : ClassScope} {o : Outside σ} :
    ScenarioStep b options job .counting scope o .done scope.countDown o

/-- **What the task of a scenario does** is one of the steps. -/
theorem scenarioStep_of_advance {c c' : ClassRun} {o o' : Outside σ} {l : Nat}
    (h : c.advanceScenario? b options l o = some (c', o')) :
    ∃ job phase phase' scope', c.scenarios[l]? = some ⟨job, phase⟩ ∧
      ScenarioStep b options job phase c.scope o phase' scope' o' ∧
      c' = { c with scope := scope' }.setPhase l phase' := by
  unfold advanceScenario? at h
  split at h
  · exact absurd h (by simp)
  · next job phase hl =>
    cases phase with
    | waiting => exact absurd h (by simp)
    | granted => exact absurd h (by simp)
    | done => exact absurd h (by simp)
    | submitting =>
        simp only [submitScenario, Option.some.injEq] at h
        split at h
        · next e s hsubmit =>
          obtain ⟨rfl, rfl⟩ := Prod.mk.inj h
          exact ⟨job, _, _, c.scope, hl, .refused hsubmit, rfl⟩
        · next id s hsubmit =>
          obtain ⟨rfl, rfl⟩ := Prod.mk.inj h
          exact ⟨job, _, _, c.scope, hl, .submitted hsubmit, rfl⟩
    | opening id =>
        simp only [openScenario, Option.some.injEq] at h
        split at h
        · next e s hopen =>
          obtain ⟨rfl, rfl⟩ := Prod.mk.inj h
          exact ⟨job, _, _, c.scope, hl, .unopened hopen, rfl⟩
        · next items s hopen =>
          obtain ⟨rfl, rfl⟩ := Prod.mk.inj h
          exact ⟨job, _, _, c.scope, hl, .opened hopen, rfl⟩
    | acting actions =>
        cases actions with
        | nil =>
            obtain ⟨rfl, rfl⟩ := Prod.mk.inj (Option.some.inj h)
            exact ⟨job, _, _, c.scope, hl, .ended, rfl⟩
        | cons action rest =>
            have hstep := @ScenarioStep.acted σ b options job c.scope o action rest
            cases action <;>
              · obtain ⟨rfl, rfl⟩ := Prod.mk.inj (Option.some.inj h)
                exact ⟨job, _, _, _, hl, hstep, rfl⟩
    | rescuing reason =>
        obtain ⟨rfl, rfl⟩ := Prod.mk.inj (Option.some.inj h)
        exact ⟨job, _, _, _, hl, .rescued, rfl⟩
    | telling reason =>
        obtain ⟨rfl, rfl⟩ := Prod.mk.inj (Option.some.inj h)
        exact ⟨job, _, _, c.scope, hl, .told, rfl⟩
    | releasing =>
        obtain ⟨rfl, rfl⟩ := Prod.mk.inj (Option.some.inj h)
        exact ⟨job, _, _, _, hl, .released, rfl⟩
    | counting =>
        obtain ⟨rfl, rfl⟩ := Prod.mk.inj (Option.some.inj h)
        exact ⟨job, _, _, _, hl, .counted, rfl⟩

/-- A task that has been launched and is not done can go on. -/
theorem isSome_advanceScenario? {c : ClassRun} {l : Nat} {phase : Phase} (o : Outside σ)
    (hl : c.scenarios[l]? = some ⟨job, phase⟩) (hlaunched : phase.isLaunched = true)
    (hopen : phase.isCounted = true) : (c.advanceScenario? b options l o).isSome := by
  unfold advanceScenario?
  rw [hl]
  cases phase with
  | waiting => exact absurd hlaunched (by simp [Phase.isLaunched])
  | granted => exact absurd hlaunched (by simp [Phase.isLaunched])
  | done => exact absurd hopen (by simp [Phase.isCounted])
  | acting actions => cases actions <;> rfl
  | _ => rfl

/-- The task is cut off only while it goes through its own actions. -/
theorem exposed_of_crash {c c' : ClassRun} {l : Nat} {reason : String}
    (h : c.crashScenario? l reason = some c') :
    ∃ job phase, c.scenarios[l]? = some ⟨job, phase⟩ ∧ phase.isExposed = true ∧
      c' = c.setPhase l (phase.cutOff reason) := by
  unfold crashScenario? phaseAt at h
  cases hl : c.scenarios[l]? with
  | none => simp [hl] at h
  | some s =>
      obtain ⟨job, phase⟩ := s
      rw [hl, Option.map_some] at h
      refine ⟨job, phase, rfl, ?_⟩
      split at h
      · next hphase =>
        obtain rfl := Option.some.inj hphase
        exact ⟨rfl, (Option.some.inj h).symm⟩
      · next phase' hne hphase =>
        obtain rfl := Option.some.inj hphase
        split at h
        · next hexposed =>
          refine ⟨hexposed, (Option.some.inj h).symm.trans ?_⟩
          cases phase with
          | telling reason => exact absurd rfl (hne reason)
          | _ => rfl
        · exact absurd h (by simp)
      · next hphase => exact absurd hphase (by simp)

/-- What becomes of the task of a scenario: it makes a step, or is cut off. -/
inductive ScenarioTurn (b : Backend σ) (options : RunOptions) (job : Job) :
    Phase → ClassScope → Outside σ → Phase → ClassScope → Outside σ → Prop where
  | step {phase phase' : Phase} {scope scope' : ClassScope} {o o' : Outside σ}
    (hstep : ScenarioStep b options job phase scope o phase' scope' o') :
    ScenarioTurn b options job phase scope o phase' scope' o'
  | cut {phase : Phase} {scope : ClassScope} {o : Outside σ} (reason : String)
    (hexposed : phase.isExposed = true) :
    ScenarioTurn b options job phase scope o (phase.cutOff reason) scope o

variable {phase phase' : Phase} {scope scope' : ClassScope} {o o' : Outside σ}

namespace ScenarioStep

lemma capacity_eq (h : ScenarioStep b options job phase scope o phase' scope' o') :
    scope'.capacity = scope.capacity := by
  cases h with
  | acted => exact (ClassScope.behind_permits ..).1
  | _ => rfl

/-- Steps are made by tasks that have been launched, and lead to such. -/
lemma isLaunched (h : ScenarioStep b options job phase scope o phase' scope' o') :
    phase.isLaunched = true ∧ phase'.isLaunched = true := by
  cases h with
  | rescued =>
      refine ⟨rfl, ?_⟩
      split <;> rfl
  | _ => exact ⟨rfl, rfl⟩

lemma isCounted (h : ScenarioStep b options job phase scope o phase' scope' o') :
    phase.isCounted = true := by
  cases h <;> rfl

end ScenarioStep

lemma isLaunched_of_isExposed (h : phase.isExposed = true) (reason : String) :
    phase.isLaunched = true ∧ (phase.cutOff reason).isLaunched = true := by
  cases phase <;> simp_all [Phase.isExposed, Phase.isLaunched, Phase.cutOff]

lemma permits_of_isExposed (h : phase.isExposed = true) (reason : String) :
    phase.holdsPermit = true ∧ (phase.cutOff reason).holdsPermit = true ∧
      phase.isCounted = true ∧ (phase.cutOff reason).isCounted = true := by
  cases phase <;> simp_all [Phase.isExposed, Phase.holdsPermit, Phase.isCounted, Phase.cutOff]

namespace ScenarioTurn

lemma capacity_eq (h : ScenarioTurn b options job phase scope o phase' scope' o') :
    scope'.capacity = scope.capacity := by
  cases h with
  | step hstep => exact hstep.capacity_eq
  | cut => rfl

lemma isLaunched (h : ScenarioTurn b options job phase scope o phase' scope' o') :
    phase.isLaunched = true ∧ phase'.isLaunched = true := by
  cases h with
  | step hstep => exact hstep.isLaunched
  | cut reason hexposed => exact isLaunched_of_isExposed hexposed reason

lemma isCounted (h : ScenarioTurn b options job phase scope o phase' scope' o') :
    phase.isCounted = true := by
  cases h with
  | step hstep => exact hstep.isCounted
  | cut reason hexposed => exact (permits_of_isExposed hexposed reason).2.2.1

end ScenarioTurn

end ClassRun

namespace Job

variable {σ : Type} {b : Backend σ} {options : RunOptions} {job : Job}
  {answers : Job → Except Error (ExecutionId × List Item) → Prop} {phase phase' : Phase}
  {scope scope' : ClassScope} {o o' : Outside σ}

/-- Whatever the stage of a job, the events that are told are about it, and lead to a stage of its
next phase. -/
def Passes (stage : Job → Phase → List Event → Prop) (job : Job) (phase : Phase) (o : Outside σ)
    (phase' : Phase) (o' : Outside σ) : Prop :=
  ∀ {events : List Event}, stage job phase events →
    ∃ more, o'.events = o.events ++ more ∧
      (∀ e ∈ more, job.Covers e ∧ e.startsScenario = false) ∧ stage job phase' (events ++ more)

/-- What the backend tells a task next is one of the answers. -/
def Replies (b : Backend σ) (options : RunOptions)
    (answers : Job → Except Error (ExecutionId × List Item) → Prop) (job : Job) (phase : Phase)
    (s : σ) : Prop :=
  match phase with
  | .submitting => ∀ e,
    (b.submit job.source.definition job.environment options.constants
      job.source.definition.defaultDataset s).1 = .error e → answers job (.error e)
  | .opening id => answers job ((b.notifications id s).1.map fun items => (id, items))
  | _ => True

/-- **A step takes a stage to a stage**, and tells at most one event. -/
theorem StageBy.passes
    (hstep : ClassRun.ScenarioStep b options job phase scope o phase' scope' o')
    (hreplies : job.Replies b options answers phase o.backend) :
    job.Passes (StageBy answers options) phase o phase' o' := by
  intro events h
  cases hstep with
  | submitted _ =>
      cases h with
      | submitting => exact ⟨[], by simp, by simp, .opening _⟩
      | complete _ hphase => simp at hphase
  | refused hsubmit =>
      cases h with
      | submitting =>
          have hanswer := hreplies _ (by rw [hsubmit])
          exact ⟨[], by simp, by simp, .acting _ (List.nil_append _).symm hanswer⟩
      | complete _ hphase => simp at hphase
  | opened hopen =>
      cases h with
      | opening =>
          simp only [Replies, hopen] at hreplies
          exact ⟨[], by simp, by simp, .acting _ (List.nil_append _).symm hreplies⟩
      | complete _ hphase => simp at hphase
  | unopened hopen =>
      cases h with
      | opening =>
          simp only [Replies, hopen] at hreplies
          exact ⟨[], by simp, by simp, .acting _ (List.nil_append _).symm hreplies⟩
      | complete _ hphase => simp at hphase
  | @acted _ _ action rest =>
      cases h with
      | acting opened hactions hanswer =>
          rename_i done
          refine ⟨action.event?.toList, Outside.events_behind .., ?_, ?_⟩
          · intro e he
            have hmem : e ∈ toldBy (job.actions options opened) := by
              rw [hactions, toldBy, List.mem_filterMap]
              exact ⟨action, by simp, by simpa using he⟩
            exact covers_of_mem_toldBy hmem
          · have hdone : toldBy done ++ action.event?.toList = toldBy (done ++ [action]) := by
              cases hevent : action.event? <;> simp [toldBy, hevent]
            rw [List.cons_append, hdone]
            exact .acting opened (by rw [hactions, List.append_assoc]; rfl) hanswer
      | complete _ hphase => simp at hphase
  | ended =>
      cases h with
      | acting opened hactions hanswer =>
          rename_i done
          refine ⟨[], by simp, by simp, ?_⟩
          rw [List.append_nil, ← List.append_nil done, ← hactions]
          exact .complete opened (Or.inl rfl) hanswer
      | complete _ hphase => simp at hphase
  | rescued =>
      cases h with
      | complete _ hphase => simp at hphase
  | told =>
      cases h with
      | complete _ hphase => simp at hphase
  | released =>
      cases h with
      | complete opened _ hanswer =>
          exact ⟨[], by simp, by simp, by simpa using .complete opened (by simp) hanswer⟩
  | counted =>
      cases h with
      | complete opened _ hanswer =>
          exact ⟨[], by simp, by simp, by simpa using .complete opened (by simp) hanswer⟩

/-- Any answer is one of all. -/
lemma replies_trivial (b : Backend σ) (options : RunOptions) (job : Job) (phase : Phase) (s : σ) :
    job.Replies b options (fun _ _ => True) phase s := by
  cases phase with
  | submitting => exact fun _ _ => trivial
  | _ => trivial

end Job

end ScenarioRunner

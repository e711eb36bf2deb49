import ScenarioRunner.Proofs.Engine.Counts
import ScenarioRunner.Proofs.Engine.Endings
import ScenarioRunner.Proofs.Engine.Isolation

/-!
# What a run writes

The reports that a run writes are those that it publishes, if reports are written at all.

* `Event.archived?` is the report that is written for an event.
* `Job.writtenBy_eq`: what a job writes is what it publishes.
* `Run.Settles`: what has been written, with what tasks are about to write, is what has been published,
  with what they are about to publish.  `Run.Settles.step` keeps that.
* `Run.Completes.written_perm`: at the end nothing is about to be written or published.

A report is written just before it is published, and other tasks may go on in between.  So the reports
need not be written in the order in which they are published.
-/

namespace ScenarioRunner

/-- The report that is written for an event: the one that it publishes, if reports are written. -/
def Event.archived? (options : RunOptions) (e : Event) : Option ExecutionReport :=
  match e.change with
  | .published report => if options.folder.isSome then some report else none
  | _ => none

/-- The reports that are written for some events. -/
def RunOptions.archive (options : RunOptions) (events : List Event) : List ExecutionReport :=
  events.filterMap (Event.archived? options)

namespace RunOptions

variable {options : RunOptions} {events : List Event}

lemma archive_append (options : RunOptions) (events more : List Event) :
    options.archive (events ++ more) = options.archive events ++ options.archive more :=
  List.filterMap_append ..

lemma archive_eq_nil (h : ∀ e ∈ events, e.archived? options = none) : options.archive events = [] :=
  List.filterMap_eq_nil_iff.mpr h

end RunOptions

namespace Job

variable {job : Job} {options : RunOptions}

lemma archived?_stepEvent? {m : Move} {e : Event} (h : job.stepEvent? m = some e) :
    e.archived? options = none := by
  rw [stepEvent?, Option.map_eq_some_iff] at h
  obtain ⟨node, -, rfl⟩ := h
  cases m <;> rfl

lemma archive_stepEvents (job : Job) (options : RunOptions) (moves : List Move) :
    options.archive (job.stepEvents moves) = [] := by
  refine RunOptions.archive_eq_nil fun e he => ?_
  obtain ⟨m, -, hm⟩ := List.mem_filterMap.mp he
  exact archived?_stepEvent? hm

/-- **What a job writes** is what it publishes, if reports are written. -/
theorem writtenBy_eq (job : Job) (options : RunOptions)
    (opened : Except Error (ExecutionId × List Item)) :
    writtenBy (job.actions options opened) =
      options.archive (toldBy (job.actions options opened)) := by
  have hpublish : options.archive (toldBy (job.publish options (job.followed opened))) =
      writtenBy (job.actions options opened) := by
    rw [toldBy_publish, writtenBy_actions]
    cases (job.followed opened).outcome with
    | error e => rfl
    | ok report =>
        cases hfolder : options.folder <;>
          simp [RunOptions.archive, Event.archived?, event, hfolder]
  have hfinish : options.archive [job.event (.finished (job.followed opened).result)] = [] := rfl
  have hmoves := archive_stepEvents job options (job.followed opened).moves
  have hclosing := archive_stepEvents job options (job.followed opened).closing
  rw [stepEvents] at hmoves hclosing
  rw [toldBy_actions, innerEvents, RunOptions.archive_append, RunOptions.archive_append,
    RunOptions.archive_append, hmoves, hclosing, hfinish, hpublish, List.nil_append,
    List.append_nil, List.append_nil]

end Job

namespace Outside

variable {σ : Type}

lemma written_behind (o : Outside σ) (action : JobAction) :
    (o.behind action).written = o.written ++ Job.writtenBy [action] := by
  cases action <;> simp [behind, emit, write, Job.writtenBy, JobAction.report?]

end Outside

namespace Phase

variable {p : ExecutionReport → Bool} {options : RunOptions}

/-- The actions that the task of a scenario has left. -/
def actions : Phase → List JobAction
  | acting actions => actions
  | _ => []

/-- How many reports of a kind the task of a scenario has left to write. -/
def toWrite (p : ExecutionReport → Bool) (phase : Phase) : Nat :=
  (Job.writtenBy phase.actions).countP p

/-- How many reports of a kind the task of a scenario has left to publish, if reports are written. -/
def toPublish (options : RunOptions) (p : ExecutionReport → Bool) (phase : Phase) : Nat :=
  (options.archive (Job.toldBy phase.actions)).countP p

lemma toWrite_cons (action : JobAction) (rest : List JobAction) :
    (acting (action :: rest)).toWrite p =
      (Job.writtenBy [action]).countP p + (acting rest).toWrite p := by
  have happend : Job.writtenBy ([action] ++ rest) = Job.writtenBy [action] ++ Job.writtenBy rest :=
    List.filterMap_append ..
  rw [toWrite, toWrite, ← List.countP_append, actions, actions, ← happend]
  rfl

lemma toPublish_cons (action : JobAction) (rest : List JobAction) :
    (acting (action :: rest)).toPublish options p =
      (options.archive action.event?.toList).countP p + (acting rest).toPublish options p := by
  have htold : Job.toldBy (action :: rest) = action.event?.toList ++ Job.toldBy rest := by
    cases hevent : action.event? <;> simp [Job.toldBy, hevent]
  rw [toPublish, toPublish, actions, actions, htold, RunOptions.archive_append, List.countP_append]

/-- A task that starts to act has left to write what it has left to publish. -/
lemma toWrite_start (job : Job) (options : RunOptions)
    (opened : Except Error (ExecutionId × List Item)) (p : ExecutionReport → Bool) :
    (acting (job.actions options opened)).toWrite p =
      (acting (job.actions options opened)).toPublish options p :=
  congrArg (List.countP p) (job.writtenBy_eq options opened)

end Phase

/-- **A step of the task of a scenario** writes what it had left to write, and publishes what it had
left to publish. -/
theorem ClassRun.ScenarioStep.settles {σ : Type} {b : Backend σ} {options : RunOptions} {job : Job}
    {phase phase' : Phase} {scope scope' : ClassScope} {o o' : Outside σ}
    (hstep : ScenarioStep b options job phase scope o phase' scope' o')
    (p : ExecutionReport → Bool) :
    o'.written.countP p + phase'.toWrite p +
        ((options.archive o.events).countP p + phase.toPublish options p) =
      o.written.countP p + phase.toWrite p +
        ((options.archive o'.events).countP p + phase'.toPublish options p) := by
  have hstarts : ∀ opened,
      o.written.countP p + (Phase.acting (job.actions options opened)).toWrite p +
          ((options.archive o.events).countP p + 0) =
        o.written.countP p + 0 + ((options.archive o.events).countP p +
          (Phase.acting (job.actions options opened)).toPublish options p) := by
    intro opened
    rw [Phase.toWrite_start]
    omega
  cases hstep with
  | refused => exact hstarts _
  | opened => exact hstarts _
  | unopened => exact hstarts _
  | @acted _ _ action rest =>
      rw [Outside.written_behind, Outside.events_behind, RunOptions.archive_append,
        List.countP_append, List.countP_append, Phase.toWrite_cons, Phase.toPublish_cons]
      omega
  | rescued => split <;> rfl
  | @told _ _ reason =>
      have hnothing : options.archive (o.emit (job.event (.finished (lost reason)))).events =
          options.archive o.events := by
        rw [Outside.emit, RunOptions.archive_append]
        exact List.append_nil _
      rw [hnothing]
      rfl
  | _ => rfl

/-! ## Runs -/

/-- The prelude of a class publishes nothing. -/
lemma ClassPlan.archived?_of_mem_prelude {P : ClassPlan} {options : RunOptions} {e : Event}
    (he : e ∈ toldBy P.prelude) : e.archived? options = none := by
  rw [toldBy_prelude, List.mem_append, List.mem_cons, List.mem_map, List.mem_flatMap] at he
  obtain (rfl | ⟨c, -, rfl⟩) | ⟨f, -, he⟩ := he
  · rfl
  · rfl
  · simp only [List.mem_cons, List.not_mem_nil, or_false] at he
    obtain rfl | rfl := he
    · rfl
    · rfl

/-- The task of a class publishes nothing. -/
lemma ClassPlan.TaskStep.archive_eq {σ : Type} {P : ClassPlan} {c c' : ClassRun}
    {o o' : Outside σ} {reached reached' : Reached}
    (hstep : P.TaskStep c o reached c' o' reached') (options : RunOptions) :
    o'.written = o.written ∧ options.archive o'.events = options.archive o.events := by
  obtain ⟨more, rfl, htold⟩ := hstep.exists_outside
  refine ⟨rfl, ?_⟩
  have hnothing : options.archive more = [] := by
    refine RunOptions.archive_eq_nil fun e he => ?_
    obtain hprelude | ⟨job, rfl⟩ | ⟨result, rfl⟩ := htold e he
    · exact archived?_of_mem_prelude hprelude
    · rfl
    · rfl
  rw [RunOptions.archive_append, hnothing, List.append_nil]

namespace Run

variable {σ : Type} {b : Backend σ} {options : RunOptions} {request : RunRequest}
  {findings : Findings} {r r' : Run σ} {s : σ} {c c' : ClassRun} {k l : Nat}

/-- What the engine has left to tell is in its prelude. -/
lemma Engine.emit_mem_prelude (h : r.Engine options request) {e : Event}
    (he : .emit e ∈ r.actions) : .emit e ∈ request.prelude options := by
  cases h with
  | running hplan hactions =>
      rw [hactions] at he
      rw [hplan]
      simpa using Or.inr he
  | closing hactions =>
      rw [hactions] at he
      exact absurd (List.mem_singleton.mp he) EngineAction.noConfusion
  | closed hactions =>
      rw [hactions] at he
      exact absurd he List.not_mem_nil

/-- The engine publishes nothing. -/
lemma archive_of_engine (h : r.Engine options request)
    (hadvance : r.advance? b options .engine = some r') :
    r'.outside.written = r.outside.written ∧
      options.archive r'.outside.events = options.archive r.outside.events := by
  obtain ⟨⟨more, houtside, htold⟩, -⟩ := scenarios_of_engine hadvance
  rw [houtside]
  refine ⟨rfl, ?_⟩
  have hnothing : options.archive more = [] := by
    refine RunOptions.archive_eq_nil fun e he => ?_
    obtain hactions | ⟨result, rfl⟩ := htold e he
    · have hprelude : e ∈ RunRequest.toldBy (request.prelude options) :=
        List.mem_filterMap.mpr ⟨_, h.emit_mem_prelude hactions, rfl⟩
      rw [RunRequest.toldBy_prelude, List.mem_cons, List.mem_map] at hprelude
      obtain rfl | ⟨c, -, rfl⟩ := hprelude
      · rfl
      · rfl
    · rfl
  rw [RunOptions.archive_append, hnothing, List.append_nil]

/-- **What is written is published**: what has been written, with what tasks have left to write, is
what has been published, with what they have left to publish. -/
def Settles (options : RunOptions) (r : Run σ) : Prop :=
  ∀ p, r.outside.written.countP p + r.counts (Phase.toWrite p) =
    (options.archive r.outside.events).countP p + r.counts (Phase.toPublish options p)

/-- Before the first step there is nothing to write. -/
lemma settles_planned (findings : Findings) (options : RunOptions) (request : RunRequest) (s : σ) :
    (planned findings options request s).Settles options := by
  intro p
  have hwaits : ∀ c ∈ (planned findings options request s).classes, ∀ s ∈ c.scenarios,
      s.phase = .waiting := by
    intro c hc s hs
    obtain ⟨n, -, rfl⟩ := List.mem_map.mp hc
    obtain ⟨l, hl⟩ := List.getElem?_of_mem hs
    exact ClassPlan.phase_planned (findings n.2) options request.skip.contains n.2 n.1 hl
  rw [counts_eq_zero fun c hc s hs => by rw [hwaits c hc s hs]; rfl,
    counts_eq_zero fun c hc s hs => by rw [hwaits c hc s hs]; rfl]
  rfl

namespace Settles

/-- A step that counts nothing. -/
lemma of_same (h : r.Settles options) (hwritten : r'.outside.written = r.outside.written)
    (harchive : options.archive r'.outside.events = options.archive r.outside.events)
    (hcounts : ∀ f : Phase → Nat, (∀ phase, f phase.grant = f phase) →
      (∀ phase, f phase.start = f phase) → r'.counts f = r.counts f) : r'.Settles options := by
  intro p
  have hgrant : ∀ phase : Phase, phase.grant.actions = phase.actions := by
    intro phase
    cases phase <;> rfl
  have hstart : ∀ phase : Phase, phase.start.actions = phase.actions := by
    intro phase
    cases phase <;> rfl
  rw [hwritten, harchive,
    hcounts (Phase.toWrite p) (fun phase => by rw [Phase.toWrite, hgrant]; rfl)
      fun phase => by rw [Phase.toWrite, hstart]; rfl,
    hcounts (Phase.toPublish options p) (fun phase => by rw [Phase.toPublish, hgrant]; rfl)
      fun phase => by rw [Phase.toPublish, hstart]; rfl]
  exact h p

/-- A step of the task of a class. -/
lemma task (h : r.Settles options) {P : ClassPlan} {o' : Outside σ}
    {reached reached' : ClassPlan.Reached} (hk : r.classes[k]? = some c)
    (hstep : P.TaskStep c r.outside reached c' o' reached') :
    ({ r.setClass k c' with outside := o' } : Run σ).Settles options := by
  obtain ⟨hwritten, harchive⟩ := hstep.archive_eq options
  refine h.of_same hwritten harchive fun f hgrant hstart => ?_
  have hcounts := counts_setClass (f := f) hk c' o'
  rw [hstep.counts_eq hgrant hstart] at hcounts
  exact Nat.add_right_cancel hcounts

/-- A step of the task of a scenario. -/
lemma scenario (h : r.Settles options) {job : Job} {phase phase' : Phase} {scope' : ClassScope}
    {o' : Outside σ} (hk : r.classes[k]? = some c) (hl : c.scenarios[l]? = some ⟨job, phase⟩)
    (hstep : ClassRun.ScenarioStep b options job phase c.scope r.outside phase' scope' o') :
    ({ r.setClass k ({ c with scope := scope' }.setPhase l phase') with outside := o' } :
      Run σ).Settles options := by
  intro p
  have hrun := h p
  have hstep' := hstep.settles p
  have hwrite := counts_setPhase (f := Phase.toWrite p) hk hl phase' scope' o'
  have hpublish := counts_setPhase (f := Phase.toPublish options p) hk hl phase' scope' o'
  show o'.written.countP p + _ = (options.archive o'.events).countP p + _
  omega

/-- A step in which no task is cut off. -/
theorem step (h : r.Settles options) (hfollows : r.Follows findings options request) {actor : Actor}
    (hadvance : r.advance? b options actor = some r') : r'.Settles options := by
  cases actor with
  | engine =>
      obtain ⟨hwritten, harchive⟩ := archive_of_engine hfollows.engine hadvance
      exact h.of_same hwritten harchive fun f _ _ => counts_of_engine hadvance
  | classTask k =>
      obtain ⟨c, c', o', hk, hnext, rfl⟩ := advance_classTask_iff.mp hadvance
      obtain ⟨P, -, hclass⟩ := hfollows.exists_plan hk
      obtain ⟨reached, hlinked⟩ := hclass.linked
      obtain ⟨reached', hstep, -⟩ := ClassPlan.taskStep_of_advance hlinked.stage hnext
      exact h.task hk hstep
  | scenarioTask k l =>
      obtain ⟨c, c', o', hk, hnext, rfl⟩ := advance_scenarioTask_iff.mp hadvance
      obtain ⟨job, phase, phase', scope', hl, hstep, rfl⟩ :=
        ClassRun.scenarioStep_of_advance hnext
      exact h.scenario hk hl hstep

end Settles

/-- **Every run** writes what it publishes, if no task is cut off. -/
theorem settles_of_proceeds {choices : List Choice}
    (hproceeds : Proceeds (fun _ => Choice.IsQuiet) b options (planned findings options request s)
      choices r) : r.Settles options := by
  refine (hproceeds.induct
    (motive := fun r => r.Follows findings options request ∧ r.Settles options)
    ⟨follows_of_proceeds (b := b) (.refl _), settles_planned findings options request s⟩ ?_
    fun ⟨hfollows, hsettles⟩ _ => ⟨hfollows.consult _, hsettles⟩).2
  rintro r r' _ ⟨hfollows, hsettles⟩ ⟨actor, rfl⟩ hstep
  have hmild : (Choice.advance actor).IsMild := trivial
  refine ⟨hfollows.step hmild hstep (fun h => h.begin) fun hP _ hclass hturn => ?_,
    hsettles.step hfollows hstep⟩
  exact goesOn_of_turn (List.mem_of_getElem? hP) hclass hturn

/-- **At the end of a run** the reports that were published have been written, each as often, and no
others have; nothing has been written if no folder is given. -/
theorem Completes.written_perm (h : Completes b options request s r) :
    r.outside.written.Perm (options.archive r.outside.events) := by
  classical
  obtain ⟨choices, hreaches, hquiet⟩ := h.reaches
  obtain ⟨findings, hproceeds, hstuck⟩ := hreaches.exists_proceeds hquiet
  obtain ⟨-, hclasses⟩ := (follows_of_proceeds hproceeds).done_of_stuck
    (fun hclass => ⟨_, hclass⟩) (hstuck h.stuck) h.limit
  have hdone : ∀ c ∈ (r.foreseen findings).classes, ∀ s ∈ c.scenarios, s.phase = .done := by
    intro c hc s hs
    obtain ⟨k, hk⟩ := List.getElem?_of_mem hc
    obtain ⟨l, hl⟩ := List.getElem?_of_mem hs
    exact (hclasses k c hk).2 l s hl
  refine List.perm_iff_count.mpr fun report => ?_
  have hsettles := settles_of_proceeds hproceeds (· == report)
  rw [counts_eq_zero fun c hc s hs => by rw [hdone c hc s hs]; rfl,
    counts_eq_zero fun c hc s hs => by rw [hdone c hc s hs]; rfl] at hsettles
  exact hsettles

end Run

end ScenarioRunner

import ScenarioRunner.Proofs.Engine.Archives
import ScenarioRunner.Proofs.Engine.Execution

/-!
# Scenarios and the replies of the backend

What a run tells of a scenario against what the backend has replied to it.

* `Job.Replied`: what the backend gives the task of a job, which submits the scenario and asks for the
  stream of the execution.
* `Job.Asking` is how far a scenario is when its task acts on such a reply.  `Job.course_asking` and
  `Job.Asking.passes` make it a course, so that every run keeps it.
* `Run.concluded_of_completes`: at the end of a run each scenario whose environment was found has got a
  reply from the backend, and has concluded by how that ends.  What was published has been written.

Other scenarios may have been submitted between the two calls of the backend, so that nothing relates
the states that it is in.
-/

namespace ScenarioRunner

/-- The result with which the subject of an event finishes. -/
def Event.result? (e : Event) : Option NodeResult :=
  match e.change with
  | .finished result => some result
  | _ => none

namespace Job

variable {σ : Type} {b : Backend σ} {options : RunOptions} {job : Job} {phase phase' : Phase}
  {scope scope' : ClassScope} {o o' : Outside σ}

/-- The backend has accepted the scenario of a job, under a number. -/
def Accepted (b : Backend σ) (options : RunOptions) (job : Job) (id : ExecutionId) : Prop :=
  ∃ s s', b.submit job.source.definition job.environment options.constants
    job.source.definition.defaultDataset s = (.ok id, s')

/-- What the backend gives the task of a job: it turns the scenario down, or accepts it and has no
stream, or has one. -/
inductive Replied (b : Backend σ) (options : RunOptions) (job : Job) :
    Except Error (ExecutionId × List Item) → Prop where
  | refused {e : Error} {s s' : σ}
    (hsubmit : b.submit job.source.definition job.environment options.constants
      job.source.definition.defaultDataset s = (.error e, s')) :
    Replied b options job (.error e)
  | unopened {id : ExecutionId} {e : Error} {s s' : σ} (haccepted : job.Accepted b options id)
    (hopen : b.notifications id s = (.error e, s')) : Replied b options job (.error e)
  | opened {id : ExecutionId} {items : List Item} {s s' : σ} (haccepted : job.Accepted b options id)
    (hopen : b.notifications id s = (.ok items, s')) : Replied b options job (.ok (id, items))

/-- **How far a scenario is** when its task acts on a reply of the backend: a task that asks for a
stream does so for an execution of its scenario. -/
structure Asking (b : Backend σ) (options : RunOptions) (job : Job) (phase : Phase)
    (events : List Event) : Prop where
  stage : job.StageBy (fun job => job.Replied b options) options phase events
  accepted : ∀ id, phase = .opening id → job.Accepted b options id

lemma course_asking (b : Backend σ) (options : RunOptions) : Course (Asking b options) := by
  have hcourse := course_stageBy (fun job => job.Replied b options) options
  exact
    { waiting := fun job => ⟨hcourse.waiting job, fun _ => Phase.noConfusion⟩
      granted := fun job => ⟨hcourse.granted job, fun _ => Phase.noConfusion⟩
      begun := fun job => ⟨hcourse.begun job, fun _ => Phase.noConfusion⟩
      submitting := fun job => ⟨hcourse.submitting job, fun _ => Phase.noConfusion⟩
      cases_granted := fun h => hcourse.cases_granted h.stage
      not_launched := fun h => hcourse.not_launched h.stage }

/-- What a task that asks is told next is a reply. -/
lemma replies_of_accepted (haccepted : ∀ id, phase = .opening id → job.Accepted b options id)
    (s : σ) : job.Replies b options (fun job => job.Replied b options) phase s := by
  cases phase with
  | submitting => exact fun e he => .refused (Prod.ext he rfl)
  | opening id =>
      have haccepted := haccepted id rfl
      cases hopen : b.notifications id s with
      | mk got s' =>
          rw [Replies, hopen]
          cases got with
          | error e => exact .unopened haccepted hopen
          | ok items => exact .opened haccepted hopen
  | _ => exact trivial

/-- A task asks for a stream only when its scenario was accepted. -/
lemma accepted_of_step
    (hstep : ClassRun.ScenarioStep b options job phase scope o phase' scope' o')
    {id : ExecutionId} (hphase : phase' = .opening id) : job.Accepted b options id := by
  cases hstep with
  | submitted hsubmit =>
      obtain rfl := Phase.opening.inj hphase
      exact ⟨_, _, hsubmit⟩
  | rescued =>
      split at hphase <;> exact Phase.noConfusion hphase
  | _ => exact Phase.noConfusion hphase

/-- **A step of the task** of a scenario that acts on replies. -/
theorem Asking.passes
    (hstep : ClassRun.ScenarioStep b options job phase scope o phase' scope' o') :
    job.Passes (Asking b options) phase o phase' o' := by
  intro events h
  obtain ⟨more, hevents, hcovers, hstage⟩ :=
    StageBy.passes hstep (replies_of_accepted h.accepted o.backend) h.stage
  exact ⟨more, hevents, hcovers, hstage, fun _ => accepted_of_step hstep⟩

end Job

namespace Run

variable {σ : Type} {b : Backend σ} {options : RunOptions} {request : RunRequest} {r : Run σ}
  {s : σ}

/-- A scenario in which a step groups a step that groups an action. -/
def twiceNested : Scenario :=
  .ofStep "t" (.group "g" [.group "p" [.action "c" (.ofAction "debug")]])

/-- A class with this scenario, whose steps are nodes. -/
def oneNested : RunRequest where
  root :=
    .engine
      [.ofClass (NodeId.engine NodeId.engineName) "a.A"
          [.ofScenario ((NodeId.engine NodeId.engineName).append "class" "a.A") "p"
            ⟨twiceNested, "a.A", "p", none⟩ true]]
  skip := []

/-- A report on the steps of the scenario. -/
def nestedReport (inner : Status) : StepReport :=
  { StepReport.blank with
    name := "t"
    status := .running
    steps :=
      [{ StepReport.blank with
          name := "g"
          status := .success
          steps :=
            [{ StepReport.blank with
                name := "p"
                status := inner
                steps := [{ StepReport.blank with name := "c", status := inner }] }] }] }

/-- The outermost step succeeds before the others start, and then the stream breaks. -/
def breaking : ScriptBook :=
  ⟨[.named "local"],
    [("t", { items :=
      [.report (nestedReport .notExecuted), .report (nestedReport .running), .broken "boom"] })]⟩

/-- **Every scenario with an environment concludes** by what the backend replied to it.  The run has
searched for the environment, and if it was found then the events of the scenario are its start and
what its job tells and writes for that reply: if the stream comes to a last snapshot, the scenario has
the verdict of that, which is published and written; if something breaks the execution, then the
scenario fails with it, nothing is published or written, and the steps that are open fail with the
same text, except for those that started after they were closed.  The run has written the reports that
were published, if reports are written, and no others. -/
theorem concluded_of_completes (hlimit : max options.concurrency 1 ≤ ClassScope.limit)
    {choices : List Choice} (hreaches : Reaches b options (ofRequest options request s) choices r)
    (hquiet : Quiet choices) (hstuck : r.Stuck b options) {i j : Nat} {node child : Node}
    {source : ScenarioSource} (hchild : request.root.children[i]? = some node)
    (hskip : request.skip.contains node.id = false) (hat : node.children[j]? = some child)
    (hsource : child.scenario? = some source) (hskipped : request.skip.contains child.id = false) :
    ∃ found, ⟨i, ⟨j, child, source⟩, found⟩ ∈
        (ofRequest options request s).lookups b options choices ∧
      ∀ environment, found = .ok environment →
        ∃ job opened, job = Job.mk i j child source environment ∧ job.Replied b options opened ∧
          r.outside.events.filter (fun e => e.subject.isWithinScenario i j) =
            job.event .started :: Job.toldBy (job.actions options opened) ∧
          job.Concludes options opened (job.actions options opened) ∧
          r.outside.written.Perm (options.archive r.outside.events) := by
  obtain ⟨findings, hagree, hplanned⟩ := hreaches.exists_findings
  have hkeeps := followsBy_of_proceeds (Job.course_asking b options) Job.Asking.passes
    (hreaches.proceeds hquiet hagree)
  obtain ⟨-, hclasses⟩ :=
    hkeeps.done_of_stuck (fun hfollows => ⟨_, hfollows⟩) (hplanned hstuck) hlimit
  have hcandidate : ClassPlan.candidateAt? node j = some ⟨j, child, source⟩ := by
    simp [ClassPlan.candidateAt?, hat, hsource]
  have hfinished : ∀ c ∈ r.classes, ∃ verdict, c.phase = .finished verdict := by
    intro c hc
    obtain ⟨k, hk⟩ := List.getElem?_of_mem hc
    obtain ⟨⟨verdict, hphase⟩, -⟩ := hclasses k _ (foreseen_getElem? findings hk)
    exact ⟨verdict, (ClassRun.foreseen_phase_iff (by simp)).mp hphase⟩
  have hrunnable : ⟨j, child, source⟩ ∈ ClassPlan.runnable request.skip.contains node :=
    ClassPlan.runnable_iff.mpr ⟨hcandidate, hskipped⟩
  obtain ⟨found, hfound⟩ :=
    (searched_of_reaches hreaches).exists_lookup hfinished hchild hskip hrunnable
  refine ⟨found, hfound, fun environment henvironment => ?_⟩
  obtain ⟨k, hk⟩ := RunRequest.exists_plan findings hchild hskip
  obtain ⟨c, hc, hfollows⟩ := hkeeps.classes hk
  obtain ⟨⟨verdict, hphase⟩, hdone⟩ := hclasses k c hc
  have hjob : Job.mk i j child source environment ∈
      (ClassPlan.ofNode (findings i) request.skip.contains i node).jobs :=
    ClassPlan.jobs_iff.mpr ⟨⟨j, child, source⟩, environment, hcandidate, hskipped,
      (hagree _ hfound).trans henvironment, rfl⟩
  have htold := (hfollows.complete hphase hdone).job hjob
  obtain ⟨opened, hreplied, hevents⟩ := htold.stage.of_done
  exact ⟨_, opened, rfl, hreplied, (filter_logOf ..).symm.trans hevents, Job.concludes ..,
    Completes.written_perm ⟨hlimit, ⟨choices, hreaches, hquiet⟩, hstuck⟩⟩

/-- The scenario of the class concludes when its stream breaks. -/
theorem concluded_of_completes_oneNested :
    ∃ choices r node child source environment job opened,
      Reaches breaking.backend {} (ofRequest {} oneNested .initial) choices r ∧ Quiet choices ∧
      r.Stuck breaking.backend {} ∧
      oneNested.root.children[0]? = some node ∧ oneNested.skip.contains node.id = false ∧
      node.children[0]? = some child ∧ child.scenario? = some source ∧
      oneNested.skip.contains child.id = false ∧
      ⟨0, ⟨0, child, source⟩, .ok environment⟩ ∈
        (ofRequest {} oneNested .initial).lookups breaking.backend {} choices ∧
      job = Job.mk 0 0 child source environment ∧ job.Replied breaking.backend {} opened ∧
      r.outside.events.filter (fun e => e.subject.isWithinScenario 0 0) =
        job.event .started :: Job.toldBy (job.actions {} opened) ∧
      job.Concludes {} opened (job.actions {} opened) ∧
      r.outside.written.Perm (RunOptions.archive {} r.outside.events) := by
  obtain ⟨choices, hreaches, hquiet, hstuck⟩ :=
    exists_execute breaking.backend {} oneNested ScriptState.initial
  obtain ⟨found, hfound, hconcluded⟩ := concluded_of_completes (by decide) hreaches hquiet hstuck
    (i := 0) (j := 0) rfl rfl rfl rfl rfl
  obtain rfl : .ok (.named "local") = found := agree_steady breaking.steady hreaches _ hfound
  obtain ⟨job, opened, hjob⟩ := hconcluded _ rfl
  exact ⟨choices, _, _, _, _, _, job, opened, hreaches, hquiet, hstuck, rfl, rfl, rfl, rfl, rfl,
    hfound, hjob⟩

/-- The stream is followed up to the break, in one go. -/
def upToTheBreak : List (Actor × Nat) :=
  [(.engine, 2), (.classTask 0, 9), (.scenarioTask 0 0, 12), (.classTask 0, 2), (.engine, 2)]

/-- The scenario fails with what broke its stream, and its innermost step, which has started, is not
closed.  The step counts as closed since the outermost one succeeded. -/
theorem left_open_oneNested :
    ∃ r, Completes breaking.backend {} oneNested .initial r ∧
      (∃ e ∈ r.outside.events, e.subject = .scenarioAt 0 0 ∧
        e.result? = some (.failure "Report stream broken: boom")) ∧
      (∃ e ∈ r.outside.events, e.subject = .stepAt 0 0 2) ∧
      ∀ e ∈ r.outside.events, e.subject = .stepAt 0 0 2 → e.isStart = true := by
  have hsome : ((turns upToTheBreak).foldlM (step? breaking.backend {})
      (ofRequest {} oneNested .initial)).any (fun r => r.isOver && decide
        ((∃ e ∈ r.outside.events, e.subject = .scenarioAt 0 0 ∧
            e.result? = some (.failure "Report stream broken: boom")) ∧
          (∃ e ∈ r.outside.events, e.subject = .stepAt 0 0 2) ∧
          ∀ e ∈ r.outside.events, e.subject = .stepAt 0 0 2 → e.isStart = true)) = true := by
    decide +kernel
  obtain ⟨r, hr, hboth⟩ := (Option.any_eq_true _ _).mp hsome
  obtain ⟨hover, htold⟩ := Bool.and_eq_true_iff.mp hboth
  exact ⟨r, completes_of_foldlM (by decide) hr hover, of_decide_eq_true htold⟩

end Run

end ScenarioRunner

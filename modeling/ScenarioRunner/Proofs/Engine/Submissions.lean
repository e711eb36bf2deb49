import ScenarioRunner.Proofs.Engine.Calls
import ScenarioRunner.Proofs.Engine.Isolation

/-!
# What a run submits

The calls of a run on a backend of scripts against what is due to be submitted.

* `RunRequest.dueAt?` is what is due to be submitted for a scenario, told by the tree, what is skipped
  and the environments alone.  `RunRequest.dueAt?_eq_some_iff` finds the jobs of a run in it.
* `Run.kept_of_reaches`: the backend has kept the calls of the run.
* `RunRequest.Asked` compares the calls of a run with what is due, and the backend with the calls.
* `Run.asked_of_reaches`: that is true of every run, when no task can go on.
-/

namespace ScenarioRunner

/-- The environment of a scenario: the one that it names, or else the only one. -/
def ScriptBook.environmentOf? (book : ScriptBook) : Option String → Option Environment
  | some name => book.environments.find? fun e => e.name == name
  | none =>
    match book.environments with
    | [only] => some only
    | _ => none

/-- What is due to be submitted for the scenario at a place in the class at a place: nothing if one of
them is skipped or there is no environment for it. -/
def RunRequest.dueAt? (request : RunRequest) (book : ScriptBook) (options : RunOptions) (i j : Nat) :
    Option SubmitRequest := do
  let node ← (request.root.children[i]?).filter fun node => !request.skip.contains node.id
  let child ← (node.children[j]?).filter fun child => !request.skip.contains child.id
  let source ← child.scenario?
  let environment ← book.environmentOf? source.environment
  some ⟨source.definition, environment, options.constants, source.definition.defaultDataset⟩

namespace ScriptBook

variable {book : ScriptBook}

lemma environment_eq_ok_iff {name : String} {environment : Environment} :
    book.environment name = .ok environment ↔
      book.environmentOf? (some name) = some environment := by
  rw [ScriptBook.environment, environmentOf?]
  cases book.environments.find? fun e => e.name == name <;> simp

/-- A backend of scripts gives a scenario its environment. -/
theorem environmentFor_eq_ok_iff {name : Option String} {environment : Environment} :
    book.environmentFor name = .ok environment ↔
      book.environmentOf? name = some environment := by
  cases name with
  | some name => exact environment_eq_ok_iff
  | none =>
      show book.defaultEnvironment.bind book.environment = .ok environment ↔ _
      rw [defaultEnvironment, environmentOf?]
      cases henvironments : book.environments with
      | nil => simp [Except.bind]
      | cons first others =>
          cases others with
          | nil =>
              show book.environment first.name = .ok environment ↔ _
              rw [environment_eq_ok_iff, environmentOf?, henvironments]
              simp
          | cons => simp [Except.bind]

end ScriptBook

namespace RunRequest

variable {request : RunRequest} {book : ScriptBook} {options : RunOptions} {i j : Nat}
  {due : SubmitRequest}

/-- **What is due** is what the jobs of a run submit. -/
theorem dueAt?_eq_some_iff :
    request.dueAt? book options i j = some due ↔
      ∃ P ∈ request.plans book.findings, ∃ job ∈ P.jobs,
        job.subject = .scenarioAt i j ∧ job.request options = due := by
  simp only [dueAt?, Option.bind_eq_bind, Option.bind_eq_some_iff, Option.filter_eq_some_iff,
    Bool.not_eq_true', Option.some.injEq]
  constructor
  · rintro ⟨node, ⟨hchild, hskip⟩, child, ⟨hat, hskipped⟩, source, hsource, environment,
      henvironment, rfl⟩
    have hcandidate : ClassPlan.candidateAt? node j = some ⟨j, child, source⟩ := by
      simp [ClassPlan.candidateAt?, hat, hsource]
    have hjob : Job.mk i j child source environment ∈
        (ClassPlan.ofNode (book.findings i) request.skip.contains i node).jobs :=
      ClassPlan.jobs_iff.mpr ⟨⟨j, child, source⟩, environment, hcandidate, hskipped,
        ScriptBook.environmentFor_eq_ok_iff.mpr henvironment, rfl⟩
    exact ⟨_, mem_plans.mpr ⟨node, i, hchild, hskip, rfl⟩, _, hjob, rfl, rfl⟩
  · rintro ⟨P, hP, job, hjob, hsubject, rfl⟩
    obtain ⟨node, i', hchild, hskip, rfl⟩ := mem_plans.mp hP
    obtain ⟨⟨j', child', source'⟩, environment, hcandidate, hskipped, henvironment, rfl⟩ :=
      ClassPlan.jobs_iff.mp hjob
    obtain ⟨rfl, rfl⟩ := Subject.scenarioAt.inj hsubject
    simp only [ClassPlan.candidateAt?, Option.bind_eq_bind, Option.bind_eq_some_iff,
      Option.some.injEq, Candidate.mk.injEq, true_and] at hcandidate
    obtain ⟨child, hat, source, hsource, rfl, rfl⟩ := hcandidate
    exact ⟨node, ⟨hchild, hskip⟩, child, ⟨hat, hskipped⟩, source, hsource, environment,
      ScriptBook.environmentFor_eq_ok_iff.mp henvironment, rfl⟩

end RunRequest

/-- **The calls of a run against what is due**, by node, and the backend against the calls. -/
structure RunRequest.Asked (request : RunRequest) (book : ScriptBook) (options : RunOptions)
    (log : List (Subject × Call)) (s : ScriptState) : Prop where
  /-- What is due is submitted once if its script turns it down, and no stream is asked for. -/
  refused : ∀ {i j : Nat} {due : SubmitRequest} {reason : String},
    request.dueAt? book options i j = some due → book.submitError? due.scenario = some reason →
    (Subject.scenarioAt i j).callsIn log = [.submit due (.error (.submission reason))]
  /-- What is due else is submitted once, and its stream is opened once. -/
  accepted : ∀ {i j : Nat} {due : SubmitRequest},
    request.dueAt? book options i j = some due → book.submitError? due.scenario = none →
    ∃ id, (Subject.scenarioAt i j).callsIn log = [.submit due (.ok id), .notifications id]
  /-- Nothing is called for which nothing is due. -/
  due : ∀ e ∈ log, ∃ i j, e.1 = .scenarioAt i j ∧ (request.dueAt? book options i j).isSome = true
  submissions : s.submissions = (log.map Prod.snd).filterMap Call.submission?
  opened : s.opened = (log.map Prod.snd).filterMap Call.opened?
  /-- The streams that were opened are those of the executions, each once. -/
  streams : s.opened.Perm (s.submissions.map Submission.id)
  nodup : (s.submissions.map Submission.id).Nodup

namespace Run

variable {book : ScriptBook} {options : RunOptions} {request : RunRequest} {r : Run ScriptState}
  {choices : List Choice}

lemma submitting_of_mem_asks {σ : Type} {b : Backend σ} {r : Run σ} {actor : Actor}
    {submitted : SubmitRequest} {answer : Except Error ExecutionId}
    (h : .submit submitted answer ∈ r.asks b options (.advance actor)) :
    ∃ k l job, r.task? k l = some ⟨job, .submitting⟩ := by
  cases actor with
  | engine => exact absurd h List.not_mem_nil
  | classTask k => exact absurd h List.not_mem_nil
  | scenarioTask k l =>
      rw [asks] at h
      cases htask : r.task? k l with
      | none =>
          rw [htask] at h
          exact absurd h List.not_mem_nil
      | some t =>
          obtain ⟨job, phase⟩ := t
          rw [htask] at h
          cases phase with
          | submitting => exact ⟨k, l, job, htask⟩
          | opening id => exact absurd (List.mem_singleton.mp h) Call.noConfusion
          | _ => exact absurd h List.not_mem_nil

/-- **The backend keeps the calls** of every run in which no task is cut off, if there are numbers for
so many executions. -/
theorem kept_of_reaches (hnumbers : request.tasks book.findings ≤ ScriptState.capacity)
    (hreaches : Reaches book.backend options (ofRequest options request .initial) choices r)
    (hquiet : Quiet choices) :
    book.Kept r.outside.backend
      (((ofRequest options request .initial).calls book.backend options choices).map
        Prod.snd) := by
  have hready : book.steady.ready (request.tasks book.steady.findings) .initial := by
    rw [ScriptBook.findings_steady]
    exact ⟨by simpa [ScriptState.initial] using hnumbers, by simp [ScriptState.initial]⟩
  refine calls_induct (motive := fun r log => book.Kept r.outside.backend (log.map Prod.snd))
    hreaches hquiet book.kept_initial ?_
  intro before r₁ log actor r₂ hbefore hquiet' _ hkept hadvance
  rw [List.map_append, List.map_map, Function.comp_def, List.map_id']
  refine hkept.makes (makes_of_advance hadvance) fun submitted answer hmem => ?_
  -- the scenario that is submitted is one of those for which there are numbers left
  have hserved := (keeps_served_of_reaches (h := book.steady) hready hbefore hquiet').2
  obtain ⟨k, l, job, htask⟩ := submitting_of_mem_asks hmem
  obtain ⟨c, hk, hl⟩ := task?_eq_some.mp (task?_foreseen book.steady.findings htask)
  obtain ⟨n, hn⟩ := Served.exists_unsubmitted hk hl
  have hroom : r₁.outside.backend.issued + (r₁.foreseen book.steady.findings).unsubmitted ≤
      ScriptState.capacity := hserved.ready.room
  omega

/-- At the end of a run, the task of a job is done. -/
lemma exists_done {σ : Type} {b : Backend σ} {findings : Findings} {r : Run σ}
    (h : r.Follows findings options request)
    (hstuck : r.Stuck b options) (hlimit : max options.concurrency 1 ≤ ClassScope.limit)
    {P : ClassPlan} {job : Job} (hP : P ∈ request.plans findings) (hjob : job ∈ P.jobs) :
    ∃ k l, r.task? k l = some ⟨job, .done⟩ := by
  obtain ⟨k, hk⟩ := List.getElem?_of_mem hP
  obtain ⟨l, hl⟩ := List.getElem?_of_mem hjob
  obtain ⟨c, hc, hclass⟩ := h.classes hk
  obtain ⟨reached, hlinked⟩ := hclass.linked
  obtain ⟨phase, hscenario⟩ := hlinked.exists_scenario hl
  obtain ⟨-, hclasses⟩ := h.done_of_stuck (fun hclass => ⟨_, hclass⟩) hstuck hlimit
  obtain rfl : phase = .done := (hclasses k c hc).2 l _ hscenario
  exact ⟨k, l, task?_eq_some.mpr ⟨c, hc, hscenario⟩⟩

/-- **The calls of a run match the selection.**  If gates of its capacity can be made, there are
numbers for so many executions, no task is cut off and none can go on, then each scenario for which
something is due has been submitted once, with its environment and its default dataset.  The
submissions that scripts do not turn down are those that the backend has recorded, each under a number
of its own, and it has opened the streams of these numbers, each once, and no others.  Nothing has
been called for other scenarios. -/
theorem asked_of_reaches (hlimit : max options.concurrency 1 ≤ ClassScope.limit)
    (hnumbers : request.tasks book.findings ≤ ScriptState.capacity)
    (hreaches : Reaches book.backend options (ofRequest options request .initial) choices r)
    (hquiet : Quiet choices) (hstuck : r.Stuck book.backend options) :
    request.Asked book options
      ((ofRequest options request .initial).calls book.backend options choices)
      r.outside.backend := by
  have hagree := agree_steady book.steady hreaches
  rw [ScriptBook.findings_steady] at hagree
  have hfollows := follows_of_proceeds (hreaches.proceeds hquiet hagree)
  have hplanned : (r.foreseen book.findings).Stuck book.backend options :=
    foreseen_of_stuck (searched_of_reaches hreaches) hstuck
  have htraces := traces_of_reaches hreaches hquiet hagree
  have hkept := kept_of_reaches hnumbers hreaches hquiet
  generalize (ofRequest options request .initial).calls book.backend options choices =
    log at htraces hkept
  have hjobs : ∀ {P job}, P ∈ request.plans book.findings → job ∈ P.jobs →
      (∃ e, job.subject.callsIn log = [.submit (job.request options) (.error e)]) ∨
        ∃ id, job.subject.callsIn log =
          [.submit (job.request options) (.ok id), .notifications id] := by
    intro P job hP hjob
    obtain ⟨k, l, htask⟩ := exists_done hfollows hplanned hlimit hP hjob
    exact htraces.of_done htask
  have hreplies : ∀ {subject submitted answer more},
      Subject.callsIn subject log = .submit submitted answer :: more →
      book.Replies submitted answer := by
    intro subject submitted answer more hcalls
    have hmem : .submit submitted answer ∈ subject.callsIn log := hcalls ▸ List.mem_cons_self
    exact hkept.replies _ _ (List.mem_map_of_mem (Subject.mem_callsIn.mp hmem))
  exact
    { refused := by
        intro i j due reason hdue hreason
        obtain ⟨P, hP, job, hjob, hsubject, rfl⟩ := RunRequest.dueAt?_eq_some_iff.mp hdue
        rw [← hsubject]
        rcases hjobs hP hjob with ⟨e, hcalls⟩ | ⟨id, hcalls⟩
        · cases hreplies hcalls with
          | refused hscript =>
              obtain rfl := Option.some.inj (hscript.symm.trans hreason)
              exact hcalls
        · cases hreplies hcalls with
          | accepted hscript => exact absurd (hscript.symm.trans hreason) (by simp)
      accepted := by
        intro i j due hdue hnone
        obtain ⟨P, hP, job, hjob, hsubject, rfl⟩ := RunRequest.dueAt?_eq_some_iff.mp hdue
        rw [← hsubject]
        rcases hjobs hP hjob with ⟨e, hcalls⟩ | ⟨id, hcalls⟩
        · cases hreplies hcalls with
          | refused hscript => exact absurd (hscript.symm.trans hnone) (by simp)
        · exact ⟨id, hcalls⟩
      due := by
        intro e he
        obtain ⟨P, hP, job, hjob, hsubject⟩ := htraces.made e he
        have hdue := RunRequest.dueAt?_eq_some_iff.mpr
          ⟨P, hP, job, hjob, rfl, (rfl : job.request options = _)⟩
        exact ⟨job.group, job.place, hsubject, Option.isSome_iff_exists.mpr ⟨_, hdue⟩⟩
      submissions := hkept.submissions
      opened := hkept.opened
      streams := by
        rw [hkept.submissions, hkept.opened, Call.map_id_submission?]
        refine Subject.perm_of_callsIn log fun subject => ?_
        cases hcalls : subject.callsIn log with
        | nil => rfl
        | cons call more =>
            have hmem : (subject, call) ∈ log :=
              Subject.mem_callsIn.mp (hcalls ▸ List.mem_cons_self)
            obtain ⟨P, hP, job, hjob, hsubject⟩ := htraces.made _ hmem
            obtain rfl : subject = job.subject := hsubject
            rw [← hcalls]
            rcases hjobs hP hjob with ⟨e, hcalls⟩ | ⟨id, hcalls⟩
            · rw [hcalls]
              rfl
            · rw [hcalls]
              rfl
      nodup := hkept.nodup }

/-- Two classes, one of which is skipped.  In the other one two scenarios run, one asks for an
environment that there is not, and one is skipped. -/
def twoDue : RunRequest where
  root :=
    .engine
      [.ofClass (NodeId.engine NodeId.engineName) "a.A"
          [plain "first" none, plain "lost" (some "nowhere"), plain "skipped" none,
            plain "second" (some "local")],
        .ofClass (NodeId.engine NodeId.engineName) "b.B" [plain "below" none]]
  skip := twoClasses.skip

/-- Both scenarios start, and the second one comes first to its end. -/
def secondDown : List (Actor × Nat) :=
  [(.engine, 3), (.classTask 0, 20), (.scenarioTask 0 1, 6), (.scenarioTask 0 0, 8),
    (.classTask 0, 2), (.engine, 2)]

/-- Of the two scenarios that run, the second one is turned down, and the first one is recorded. -/
theorem asked_of_reaches_twoDue :
    max (2 : Nat) 1 ≤ ClassScope.limit ∧
      twoDue.tasks secondRefused.findings ≤ ScriptState.capacity ∧
      ∃ r,
        Reaches secondRefused.backend { concurrency := 2 }
          (ofRequest { concurrency := 2 } twoDue .initial) (turns secondDown)
          r ∧
        Quiet (turns secondDown) ∧ r.Stuck secondRefused.backend { concurrency := 2 } ∧
        r.outside.backend.submissions = [⟨1, "first", "local", none⟩] ∧
        (twoDue.dueAt? secondRefused { concurrency := 2 } 0 3).isSome = true ∧
        twoDue.Asked secondRefused { concurrency := 2 }
          ((ofRequest { concurrency := 2 } twoDue .initial).calls
            secondRefused.backend { concurrency := 2 } (turns secondDown)) r.outside.backend := by
  have hlimit : max (2 : Nat) 1 ≤ ClassScope.limit := by decide
  have hnumbers : twoDue.tasks secondRefused.findings ≤ ScriptState.capacity := by decide +kernel
  have hsome : ((turns secondDown).foldlM (step? secondRefused.backend { concurrency := 2 })
      (ofRequest { concurrency := 2 } twoDue .initial)).any (fun r =>
        r.isOver && decide (r.outside.backend.submissions = [⟨1, "first", "local", none⟩])) =
          true := by
    decide +kernel
  obtain ⟨r, hr, hboth⟩ := (Option.any_eq_true _ _).mp hsome
  obtain ⟨hover, hsubmissions⟩ := Bool.and_eq_true_iff.mp hboth
  have hreaches := reaches_of_foldlM hr
  have hquiet := quiet_turns secondDown
  have hstuck : r.Stuck secondRefused.backend { concurrency := 2 } := stuck_of_isOver hover
  exact ⟨hlimit, hnumbers, r, hreaches, hquiet, hstuck, of_decide_eq_true hsubmissions,
    by decide +kernel, asked_of_reaches hlimit hnumbers hreaches hquiet hstuck⟩

end Run

end ScenarioRunner

import ScenarioRunner.Proofs.Engine.Concurrency
import ScenarioRunner.Proofs.Engine.Served

/-!
# Scenarios do not influence one another

Two runs of one tree tell the same of each scenario, whichever way their tasks are scheduled and
however many of them run at once, if the backend answers each scenario in each environment always in
the same way.

* `Run.AlikeAt`: two runs tell the same of the scenario at a place, but for numbers of executions.
* `Run.Completes`: a run has come to its end, and no task was cut off.
* `Run.Completes.exists_complete`: what a class has told at the end of a run, and why it fails.
* `RunRequest.SameLives` is what two runs have in common: the events of scenarios but for numbers of
  executions, and the verdicts of classes and of the engine.
* `Run.isolated_of_completes`: two runs on one backend have the same lives; and two runs on backends
  that differ in the script of one title tell the same of the scenarios with other titles.

The scenarios of a class share its gate, its countdown, its book and its worst verdict, and those of
all classes the numbers of executions.  Only these numbers show in what is told.
-/

namespace ScenarioRunner

/-! ## Plans on two backends -/

namespace ClassPlan

variable {found found' : Candidate → Except Error Environment} {options options' : RunOptions}
  {isSkipped : NodeId → Bool} {i j : Nat} {node child : Node} {source : ScenarioSource}
  {answer answer' : Scenario → Environment → Answer} {verdict verdict' : Verdict}
  {log log' : List Event}

/-- **What is told of one scenario** at the end of two runs is alike, if it is given the same
environment and the same answers. -/
theorem Complete.alike (hsame : found' ⟨j, child, source⟩ = found ⟨j, child, source⟩)
    (hanswer : ∀ environment, answer' source.definition environment =
      answer source.definition environment)
    (hcomplete : (ofNode found isSkipped i node).Complete
      (Job.StageBy (Job.answers answer) options) verdict log)
    (hcomplete' : (ofNode found' isSkipped i node).Complete
      (Job.StageBy (Job.answers answer') options') verdict' log')
    (hcandidate : candidateAt? node j = some ⟨j, child, source⟩)
    (hskipped : isSkipped child.id = false) :
    ∃ id id', List.Forall₂ (Event.Alike id id')
      (log.filter fun e => e.subject.isWithinScenario i j)
      (log'.filter fun e => e.subject.isWithinScenario i j) := by
  cases hfound : found ⟨j, child, source⟩ with
  | error e =>
      have hfailed : ((⟨j, child, source⟩ : Candidate), e) ∈ (ofNode found isSkipped i node).failed :=
        failed_iff.mpr ⟨hcandidate, hskipped, hfound⟩
      have hfailed' : ((⟨j, child, source⟩ : Candidate), e) ∈ (ofNode found' isSkipped i node).failed :=
        failed_iff.mpr ⟨hcandidate, hskipped, hsame.trans hfound⟩
      refine ⟨0, 0, ?_⟩
      rw [hcomplete.failed hfailed, hcomplete'.failed hfailed']
      exact Event.Alike.forall₂_refl ..
  | ok environment =>
      have hjob : Candidate.job ⟨j, child, source⟩ i environment ∈ (ofNode found isSkipped i node).jobs :=
        jobs_iff.mpr ⟨_, environment, hcandidate, hskipped, hfound, rfl⟩
      have hjob' : Candidate.job ⟨j, child, source⟩ i environment ∈ (ofNode found' isSkipped i node).jobs :=
        jobs_iff.mpr ⟨_, environment, hcandidate, hskipped, hsame.trans hfound, rfl⟩
      obtain ⟨opened, hgives, htold⟩ := (hcomplete.job hjob).of_done
      obtain ⟨opened', hgives', htold'⟩ := (hcomplete'.job hjob').of_done
      have hgives'' : (answer source.definition environment).Gives opened' := by
        rw [← hanswer environment]
        exact hgives'
      obtain ⟨id, id', halike⟩ :=
        (Candidate.job ⟨j, child, source⟩ i environment).alike_actions options options' hgives hgives''
      refine ⟨id, id', ?_⟩
      have hboth := List.Forall₂.cons (Event.Alike.refl id id'
        ((Candidate.job ⟨j, child, source⟩ i environment).event .started)) halike
      rw [← htold, ← htold'] at hboth
      exact hboth

end ClassPlan

namespace Run

variable {σ σ' : Type} {b : Backend σ} {b' : Backend σ'}
  {answer answer' : Scenario → Environment → Answer} {options options' : RunOptions}
  {request : RunRequest} {r r' : Run σ} {s s' : σ}

/-- Two runs tell the same of the scenario at a place, but for the numbers of its executions. -/
def AlikeAt (r : Run σ) (r' : Run σ') (i j : Nat) : Prop :=
  ∃ id id', List.Forall₂ (Event.Alike id id')
    (r.outside.events.filter fun e => e.subject.isWithinScenario i j)
    (r'.outside.events.filter fun e => e.subject.isWithinScenario i j)

/-- **A run comes to its end**: gates of its capacity can be made, no task is cut off, and none can go
on. -/
structure Completes (b : Backend σ) (options : RunOptions) (request : RunRequest) (s : σ)
    (r : Run σ) : Prop where
  limit : max options.concurrency 1 ≤ ClassScope.limit
  reaches : ∃ choices, Reaches b options (ofRequest options request s) choices r ∧ Quiet choices
  stuck : r.Stuck b options

namespace Completes

variable {h : b.Steady answer}

/-- What a run keeps of its classes on a backend with fixed answers. -/
lemma keeps (hcompletes : Completes b options request s r)
    (hready : h.ready (request.tasks h.findings) s) :
    (r.foreseen h.findings).Keeps (ClassPlan.Answered answer options) h.findings options request ∧
      (r.foreseen h.findings).Stuck b options := by
  obtain ⟨choices, hreaches, hquiet⟩ := hcompletes.reaches
  exact ⟨(keeps_served_of_reaches hready hreaches hquiet).1,
    foreseen_of_stuck (searched_of_reaches hreaches) hcompletes.stuck⟩

/-- **At the end of a run** each class is finished with all of its scenarios, and it fails exactly if
one of them does. -/
theorem exists_complete (hcompletes : Completes b options request s r)
    (hready : h.ready (request.tasks h.findings) s) {k : Nat} {P : ClassPlan}
    (hP : (request.plans h.findings)[k]? = some P) :
    ∃ c verdict, r.classes[k]? = some c ∧ c.phase = .finished verdict ∧
      P.Complete (Job.StageBy (Job.answers answer) options) verdict (r.logOf P.place) ∧
      (verdict = .failure ↔ P.Fails (Job.answers answer)) := by
  obtain ⟨hkeeps, hstuck⟩ := hcompletes.keeps hready
  obtain ⟨c', hk', hanswered⟩ := hkeeps.classes hP
  obtain ⟨-, hclasses⟩ := hkeeps.done_of_stuck (fun hanswered => ⟨_, hanswered.follows⟩) hstuck
    hcompletes.limit
  obtain ⟨⟨verdict, hphase⟩, hdone⟩ := hclasses k c' hk'
  obtain ⟨reached, hlinked⟩ := hanswered.follows.linked
  have hfails := hanswered.judged.of_done hlinked hphase hdone
  rw [← hanswered.follows.verdict hphase] at hfails
  rw [foreseen, List.getElem?_map, Option.map_eq_some_iff] at hk'
  obtain ⟨c, hk, rfl⟩ := hk'
  exact ⟨c, verdict, hk, (ClassRun.foreseen_phase_iff (by simp)).mp hphase,
    hanswered.follows.complete hphase hdone, hfails⟩

end Completes

end Run

/-- **What two runs of a request have in common**: what they tell of each scenario that is not
skipped, but for numbers of executions, and what they tell of each class and of the engine. -/
structure RunRequest.SameLives {σ σ' : Type} (request : RunRequest) (r : Run σ) (r' : Run σ') :
    Prop where
  ofScenario : ∀ {i j : Nat} {node child : Node}, request.root.children[i]? = some node →
    request.skip.contains node.id = false → node.children[j]? = some child →
    child.isScenario = true → request.skip.contains child.id = false → r.AlikeAt r' i j
  ofClass : ∀ {i : Nat} {node : Node}, request.root.children[i]? = some node →
    request.skip.contains node.id = false →
    ∃ verdict,
      r.outside.events.filter (fun e => e.subject == .classAt i) =
        [⟨.classAt i, node, .started⟩, ⟨.classAt i, node, .finished (.ofVerdict verdict)⟩] ∧
      r'.outside.events.filter (fun e => e.subject == .classAt i) =
        [⟨.classAt i, node, .started⟩, ⟨.classAt i, node, .finished (.ofVerdict verdict)⟩]
  ofEngine : ∃ verdict,
    r.outside.events.filter (fun e => e.subject == .engine) =
      [⟨.engine, request.root, .started⟩, ⟨.engine, request.root, .finished (.ofVerdict verdict)⟩] ∧
    r'.outside.events.filter (fun e => e.subject == .engine) =
      [⟨.engine, request.root, .started⟩, ⟨.engine, request.root, .finished (.ofVerdict verdict)⟩]

namespace Run

variable {σ σ' : Type} {b : Backend σ} {b' : Backend σ'}
  {answer answer' : Scenario → Environment → Answer} {options options' : RunOptions}
  {request : RunRequest} {i j : Nat} {node child : Node}

/-- Two runs tell alike of a scenario that is given the same environment and the same answers. -/
theorem alikeAt_of_completes (h : b.Steady answer) (h' : b'.Steady answer') {r : Run σ}
    {r' : Run σ'} {s : σ} {s' : σ'} {source : ScenarioSource}
    (henvironment : ∀ name, h'.environmentFor name = h.environmentFor name)
    (hanswer : ∀ environment, answer' source.definition environment =
      answer source.definition environment)
    (hready : h.ready (request.tasks h.findings) s) (hready' : h'.ready (request.tasks h'.findings) s')
    (hcompletes : Completes b options request s r)
    (hcompletes' : Completes b' options' request s' r')
    (hchild : request.root.children[i]? = some node)
    (hskip : request.skip.contains node.id = false) (hat : node.children[j]? = some child)
    (hsource : child.scenario? = some source) (hskipped : request.skip.contains child.id = false) :
    r.AlikeAt r' i j := by
  obtain ⟨k, hP⟩ := RunRequest.exists_plan h.findings hchild hskip
  obtain ⟨k', hP'⟩ := RunRequest.exists_plan h'.findings hchild hskip
  obtain ⟨c, verdict, -, -, hcomplete, -⟩ := hcompletes.exists_complete hready hP
  obtain ⟨c', verdict', -, -, hcomplete', -⟩ := hcompletes'.exists_complete hready' hP'
  have hcandidate : ClassPlan.candidateAt? node j = some ⟨j, child, source⟩ := by
    simp [ClassPlan.candidateAt?, hat, hsource]
  have halike := hcomplete.alike (henvironment _) hanswer hcomplete' hcandidate hskipped
  rw [AlikeAt, ← filter_logOf, ← filter_logOf]
  exact halike

/-- The class at a place tells its start and its end. -/
lemma told_class {stage : Job → Phase → List Event → Prop} {verdict : Verdict} {r : Run σ}
    {found : Candidate → Except Error Environment}
    (hcomplete : (ClassPlan.ofNode found request.skip.contains i node).Complete stage verdict
      (r.logOf i)) :
    r.outside.events.filter (fun e => e.subject == .classAt i) =
      [⟨.classAt i, node, .started⟩, ⟨.classAt i, node, .finished (.ofVerdict verdict)⟩] := by
  obtain ⟨between, hlog, hnot⟩ := exists_between hcomplete
  have hwithin : r.outside.events.filter (fun e => e.subject == .classAt i) =
      (r.logOf i).filter fun e => e.subject == .classAt i := by
    rw [logOf, List.filter_filter]
    refine List.filter_congr fun e _ => ?_
    cases hsubject : e.subject == .classAt i with
    | false => rfl
    | true => simp [beq_iff_eq.mp hsubject, Subject.isWithinClass]
  have hnone : between.filter (fun e => e.subject == .classAt i) = [] := by
    rw [List.filter_eq_nil_iff]
    intro e he hsubject
    exact hnot e he (beq_iff_eq.mp hsubject)
  rw [hwithin, hlog, List.filter_append, List.filter_cons, hnone]
  simp [ClassPlan.event, ClassPlan.ofNode]

/-- Verdicts that fail for one reason are the same. -/
lemma verdict_eq_of_iff {v v' : Verdict} {p : Prop} (h : v = .failure ↔ p) (h' : v' = .failure ↔ p) :
    v = v' := by
  cases v <;> cases v' <;> simp_all

/-- Two runs on one backend end with the same verdict. -/
lemma verdict_eq_of_completes (h : b.Steady answer) {r r' : Run σ} {s s' : σ}
    (hready : h.ready (request.tasks h.findings) s) (hready' : h.ready (request.tasks h.findings) s')
    (hcompletes : Completes b options request s r)
    (hcompletes' : Completes b options' request s' r') : r.verdict = r'.verdict := by
  have houtcomes : r.classes.map ClassRun.outcome = r'.classes.map ClassRun.outcome := by
    refine List.ext_getElem? fun k => ?_
    rw [List.getElem?_map, List.getElem?_map]
    cases hP : (request.plans h.findings)[k]? with
    | none =>
        have hlength := (hcompletes.keeps hready).1.length
        have hlength' := (hcompletes'.keeps hready').1.length
        rw [foreseen, List.length_map] at hlength hlength'
        rw [List.getElem?_eq_none_iff] at hP
        rw [List.getElem?_eq_none (by omega), List.getElem?_eq_none (by omega)]
    | some P =>
        obtain ⟨c, v, hk, hphase, -, hfails⟩ := hcompletes.exists_complete hready hP
        obtain ⟨c', v', hk', hphase', -, hfails'⟩ := hcompletes'.exists_complete hready' hP
        obtain rfl := verdict_eq_of_iff hfails hfails'
        rw [hk, hk', Option.map_some, Option.map_some, ClassRun.outcome, ClassRun.outcome, hphase,
          hphase']
  have hfold : ∀ r : Run σ,
      r.verdict = (r.classes.map ClassRun.outcome).foldl Verdict.worse .success :=
    fun r => (List.foldl_map ..).symm
  rw [hfold, hfold, houtcomes]

/-- Two runs on one backend have the same lives. -/
theorem sameLives_of_completes (h : b.Steady answer) {r r' : Run σ} {s s' : σ}
    (hready : h.ready (request.tasks h.findings) s) (hready' : h.ready (request.tasks h.findings) s')
    (hcompletes : Completes b options request s r)
    (hcompletes' : Completes b options' request s' r') : request.SameLives r r' where
  ofScenario := by
    intro i j node child hchild hskip hat hscenario hskipped
    obtain ⟨source, hsource⟩ := Option.isSome_iff_exists.mp hscenario
    exact alikeAt_of_completes h h (fun _ => rfl) (fun _ => rfl) hready hready' hcompletes
      hcompletes' hchild hskip hat hsource hskipped
  ofClass := by
    intro i node hchild hskip
    obtain ⟨k, hP⟩ := RunRequest.exists_plan h.findings hchild hskip
    obtain ⟨c, v, -, -, hcomplete, hfails⟩ := hcompletes.exists_complete hready hP
    obtain ⟨c', v', -, -, hcomplete', hfails'⟩ := hcompletes'.exists_complete hready' hP
    obtain rfl := verdict_eq_of_iff hfails hfails'
    exact ⟨v, told_class hcomplete, told_class hcomplete'⟩
  ofEngine := by
    obtain ⟨hkeeps, hstuck⟩ := hcompletes.keeps hready
    obtain ⟨hkeeps', hstuck'⟩ := hcompletes'.keeps hready'
    obtain ⟨⟨htold, -⟩, -⟩ := hkeeps.done_of_stuck (fun hanswered => ⟨_, hanswered.follows⟩) hstuck
      hcompletes.limit
    obtain ⟨⟨htold', -⟩, -⟩ := hkeeps'.done_of_stuck (fun hanswered => ⟨_, hanswered.follows⟩)
      hstuck' hcompletes'.limit
    rw [foreseen_verdict] at htold htold'
    rw [← verdict_eq_of_completes h hready hready' hcompletes hcompletes'] at htold'
    exact ⟨r.verdict, Follows.told_engine htold, Follows.told_engine htold'⟩

/-- **Scenarios do not influence one another.**  Two runs of a tree on a backend that answers each
scenario in each environment always in the same way, with gates of any capacities and whichever way
their tasks are scheduled, tell the same of each scenario but for the numbers of its executions, and
end with the same verdicts of the classes and of the engine.  If the script of one title is changed,
then what is told of the scenarios with other titles stays the same. -/
theorem isolated_of_completes (request : RunRequest) :
    (∀ {σ : Type} {b : Backend σ} {answer : Scenario → Environment → Answer} (h : b.Steady answer)
      {options options' : RunOptions} {s s' : σ} {r r' : Run σ}, h.ready (request.tasks h.findings) s →
      h.ready (request.tasks h.findings) s' → Completes b options request s r →
      Completes b options' request s' r' → request.SameLives r r') ∧
    ∀ {book book' : ScriptBook} {title : String} {options options' : RunOptions}
      {s s' : ScriptState} {r r' : Run ScriptState}, book'.environments = book.environments →
      (∀ t, t ≠ title → book'.script? t = book.script? t) →
      ScriptBook.Ready (request.tasks book.findings) s →
      ScriptBook.Ready (request.tasks book'.findings) s' →
      Completes book.backend options request s r → Completes book'.backend options' request s' r' →
      ∀ {i j : Nat} {node child : Node} {source : ScenarioSource},
        request.root.children[i]? = some node → request.skip.contains node.id = false →
        node.children[j]? = some child → child.scenario? = some source →
        request.skip.contains child.id = false → source.definition.title ≠ title →
        r.AlikeAt r' i j := by
  refine ⟨fun h _ _ _ _ _ _ hready hready' hcompletes hcompletes' =>
    sameLives_of_completes h hready hready' hcompletes hcompletes', ?_⟩
  intro book book' title options options' s s' r r' henvironments hscripts hready hready' hcompletes
    hcompletes' i j node child source hchild hskip hat hsource hskipped htitle
  rw [← ScriptBook.findings_steady] at hready hready'
  refine alikeAt_of_completes book.steady book'.steady (fun name => ?_)
    (ScriptBook.answer_congr (hscripts source.definition.title htitle)) hready hready' hcompletes
    hcompletes' hchild hskip hat hsource hskipped
  rw [ScriptBook.steady_environmentFor, ScriptBook.steady_environmentFor,
    ScriptBook.environmentFor_congr henvironments]

/-- Some turns, each of some steps of one task. -/
def turns (steps : List (Actor × Nat)) : List Choice :=
  steps.flatMap fun turn => List.replicate turn.2 (.advance turn.1)

lemma quiet_turns (steps : List (Actor × Nat)) : Quiet (turns steps) := by
  intro choice hchoice
  obtain ⟨turn, -, hturn⟩ := List.mem_flatMap.mp hchoice
  exact ⟨turn.1, List.eq_of_mem_replicate hturn⟩

lemma completes_of_foldlM {r : Run σ} {s : σ} {steps : List (Actor × Nat)}
    (hlimit : max options.concurrency 1 ≤ ClassScope.limit)
    (h : (turns steps).foldlM (step? b options) (ofRequest options request s) = some r)
    (hover : r.isOver = true) : Completes b options request s r :=
  ⟨hlimit, ⟨turns steps, reaches_of_foldlM h, quiet_turns steps⟩, stuck_of_isOver hover⟩

/-- The scenarios with the second title are turned down. -/
def secondRefused : ScriptBook :=
  ⟨[.named "local"], [("second", { submitError := some "closed" })]⟩

/-- Both scenarios start, and the second one comes first to its end. -/
def secondFirst : List (Actor × Nat) :=
  [(.engine, 2), (.classTask 0, 15), (.scenarioTask 0 1, 8), (.scenarioTask 0 0, 8),
    (.classTask 0, 2), (.engine, 2)]

/-- The second scenario starts after the end of the first one, and makes so many steps. -/
def oneByOne (steps : Nat) : List (Actor × Nat) :=
  [(.engine, 2), (.classTask 0, 11), (.scenarioTask 0 0, 8), (.classTask 0, 4),
    (.scenarioTask 0 1, steps), (.classTask 0, 2), (.engine, 2)]

/-- The number of the execution in the final report on the scenario at a place. -/
def numbersAt (r : Run σ) (i j : Nat) : List ExecutionId :=
  (r.outside.events.filter fun e => e.subject.isWithinScenario i j).filterMap fun e =>
    match e.change with
    | .published report => some report.executionId
    | _ => none

/-- If the two scenarios run at once and the second one is submitted first, then only the numbers of
executions differ from those in a run one by one.  The first scenario tells the same again if the
second one is turned down, although the class fails then. -/
theorem isolated_of_completes_reordered :
    ∃ r r' r'',
      ScriptBook.Ready (twoTitles.tasks oneEnvironment.findings) .initial ∧
      ScriptBook.Ready (twoTitles.tasks secondRefused.findings) .initial ∧
      Completes oneEnvironment.backend { concurrency := 2 } twoTitles .initial r ∧
      Completes oneEnvironment.backend {} twoTitles .initial r' ∧
      Completes secondRefused.backend {} twoTitles .initial r'' ∧
      (r.numbersAt 0 0 = [2] ∧ r.verdict = .success) ∧ r'.numbersAt 0 0 = [1] ∧
      r''.verdict = .failure ∧ twoTitles.SameLives r r' ∧ r.AlikeAt r'' 0 0 := by
  have hsome : ((turns secondFirst).foldlM (step? oneEnvironment.backend { concurrency := 2 })
      (ofRequest { concurrency := 2 } twoTitles .initial)).any (fun r =>
        r.isOver && decide (r.numbersAt 0 0 = [2] ∧ r.verdict = .success)) = true := by
    decide +kernel
  have hsome' : ((turns (oneByOne 8)).foldlM (step? oneEnvironment.backend {})
      (ofRequest {} twoTitles .initial)).any (fun r =>
        r.isOver && decide (r.numbersAt 0 0 = [1])) = true := by decide +kernel
  have hsome'' : ((turns (oneByOne 6)).foldlM (step? secondRefused.backend {})
      (ofRequest {} twoTitles .initial)).any (fun r =>
        r.isOver && decide (r.verdict = .failure)) = true := by decide +kernel
  obtain ⟨r, hr, hboth⟩ := (Option.any_eq_true _ _).mp hsome
  obtain ⟨r', hr', hboth'⟩ := (Option.any_eq_true _ _).mp hsome'
  obtain ⟨r'', hr'', hboth''⟩ := (Option.any_eq_true _ _).mp hsome''
  obtain ⟨hover, htold⟩ := Bool.and_eq_true_iff.mp hboth
  obtain ⟨hover', htold'⟩ := Bool.and_eq_true_iff.mp hboth'
  obtain ⟨hover'', htold''⟩ := Bool.and_eq_true_iff.mp hboth''
  have hready : ScriptBook.Ready (twoTitles.tasks oneEnvironment.findings) .initial :=
    ⟨by decide +kernel, by simp [ScriptState.initial]⟩
  have hready'' : ScriptBook.Ready (twoTitles.tasks secondRefused.findings) .initial :=
    ⟨by decide +kernel, by simp [ScriptState.initial]⟩
  have hcompletes : Completes oneEnvironment.backend { concurrency := 2 } twoTitles .initial r :=
    completes_of_foldlM (by decide) hr hover
  have hcompletes' : Completes oneEnvironment.backend {} twoTitles .initial r' :=
    completes_of_foldlM (by decide) hr' hover'
  have hcompletes'' : Completes secondRefused.backend {} twoTitles .initial r'' :=
    completes_of_foldlM (by decide) hr'' hover''
  have hsteady : oneEnvironment.steady.ready (twoTitles.tasks oneEnvironment.steady.findings)
      .initial := by
    rw [ScriptBook.findings_steady]
    exact hready
  have hsame : twoTitles.SameLives r r' :=
    (isolated_of_completes twoTitles).1 oneEnvironment.steady hsteady hsteady hcompletes hcompletes'
  have henvironments : secondRefused.environments = oneEnvironment.environments := rfl
  have hothers : ∀ t, t ≠ "second" → secondRefused.script? t = oneEnvironment.script? t := by
    intro t ht
    simp [ScriptBook.script?, secondRefused, oneEnvironment, List.lookup_cons,
      beq_eq_false_iff_ne.mpr ht]
  have halike : r.AlikeAt r'' 0 0 :=
    (isolated_of_completes twoTitles).2 henvironments hothers hready hready'' hcompletes hcompletes''
      rfl rfl rfl rfl rfl (by decide)
  exact ⟨r, r', r'', hready, hready'', hcompletes, hcompletes', hcompletes'', of_decide_eq_true htold,
    of_decide_eq_true htold', of_decide_eq_true htold'', hsame, halike⟩

end Run

end ScenarioRunner

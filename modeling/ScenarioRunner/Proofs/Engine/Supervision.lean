import ScenarioRunner.Discovery.Tree
import ScenarioRunner.Proofs.Engine.Lifecycle
import ScenarioRunner.Proofs.Engine.Verdicts

/-!
# Scenarios that are cut off

What a run has told at its end if tasks of scenarios were cut off in flight.

* `Job.Rescue` is how far the rescue of a scenario is that was cut off: its class fails, and its end is
  told for it.
* `ClassPlan.Doomed` says it of a scenario of a class; `Run.goesOn_doomed_of_turn` keeps it from turn to
  turn.
* `RunRequest.Rescued` is what has been told of a class at the end.
* `Run.rescued_of_reaches`: that is so whichever way tasks are scheduled and cut off in flight.

If two scenarios of a class that may run at once bear one identifier, then the end of one of them may
be missing: the first one to leave takes the identifier away from the other, which is then taken for
one that has told its end.  `Run.lost_of_sharedId` is such a run, of a tree that was discovered.
-/

namespace ScenarioRunner

/-! ## The rescue of a scenario -/

/-- **The rescue of a scenario** that was cut off for a reason: the phase of its task, the worst
verdict of its class, and the events that the class has told.  If ends are `kept`, that of the scenario
is told. -/
inductive Job.Rescue (kept : Prop) (job : Job) (reason : String) :
    Phase → Option Verdict → List Event → Prop where
  | rescuing {worst : Option Verdict} {log : List Event} :
    Rescue kept job reason (.rescuing reason) worst log
  | telling {log : List Event} : Rescue kept job reason (.telling reason) (some .failure) log
  | rescued {phase : Phase} {log : List Event}
    (hphase : phase = .releasing ∨ phase = .counting ∨ phase = .done)
    (htold : kept → job.event (.finished (ClassRun.lost reason)) ∈ log) :
    Rescue kept job reason phase (some .failure) log

namespace Job.Rescue

variable {σ : Type} {b : Backend σ} {options : RunOptions} {kept : Prop} {job : Job}
  {reason : String} {phase phase' : Phase} {worst worst' : Option Verdict}
  {scope scope' : ClassScope} {o o' : Outside σ} {log more : List Event}

lemma isLaunched (h : job.Rescue kept reason phase worst log) : phase.isLaunched = true := by
  cases h with
  | rescued hphase => rcases hphase with rfl | rfl | rfl <;> rfl
  | _ => rfl

/-- Whatever others do, a rescue stays where it is. -/
lemma mono (h : job.Rescue kept reason phase worst log)
    (hworst : worst = some .failure → worst' = some .failure) :
    job.Rescue kept reason phase worst' (log ++ more) := by
  cases h with
  | rescuing => exact .rescuing
  | telling =>
      rw [hworst rfl]
      exact .telling
  | rescued hphase htold =>
      rw [hworst rfl]
      exact .rescued hphase fun hkept => List.mem_append_left _ (htold hkept)

/-- **A step of a rescue.**  If its end is to be told, the scenario must be found in flight. -/
theorem step (h : job.Rescue kept reason phase scope.worst log)
    (hstep : ClassRun.ScenarioStep b options job phase scope o phase' scope' o')
    (hevents : o'.events = o.events ++ more)
    (hkept : kept → phase.isInFlight = true → (scope.leave job.node.id .failure).1 = true) :
    job.Rescue kept reason phase' scope'.worst (log ++ more) := by
  generalize hworst : scope.worst = worst at h
  cases h with
  | rescuing =>
      cases hstep with
      | rescued =>
          have hfails : (scope.leave job.node.id .failure).2.worst = some .failure :=
            Verdict.worst?_failure _
          rw [hfails]
          split
          · exact .telling
          · next hnot => exact .rescued (Or.inl rfl) fun hheld => absurd (hkept hheld rfl) hnot
  | telling =>
      cases hstep with
      | told =>
          rw [hworst]
          have hmore : more = [job.event (.finished (ClassRun.lost reason))] :=
            (List.append_cancel_left hevents).symm
          exact .rescued (Or.inl rfl) fun _ => by simp [hmore]
  | rescued hphase htold =>
      have hkeeps : scope'.worst = some .failure :=
        (ClassRun.ScenarioTurn.step hstep).worst_failure hworst
      rw [hkeeps]
      refine .rescued ?_ fun hheld => List.mem_append_left _ (htold hheld)
      cases hstep <;> simp at hphase ⊢

end Job.Rescue

/-- The scenario at a place among the tasks of a class was cut off for a reason. -/
def ClassPlan.Doomed (options : RunOptions) (l : Nat) (reason : String) (P : ClassPlan)
    (c : ClassRun) (log : List Event) : Prop :=
  ∃ job phase, c.scenarios[l]? = some ⟨job, phase⟩ ∧
    job.Rescue (P.Distinct options) reason phase c.scope.worst log

namespace Run

variable {σ : Type} {b : Backend σ} {options : RunOptions} {request : RunRequest}
  {findings : Findings} {r r' : Run σ} {l : Nat} {reason : String}

/-- A class in which a scenario was cut off, if the class stands at a place. -/
def DoomedAt (options : RunOptions) (i l : Nat) (reason : String) (P : ClassPlan) (c : ClassRun)
    (log : List Event) : Prop :=
  P.Supervised options c log ∧ (P.place = i → P.Doomed options l reason c log)

/-- A turn of a class in which a scenario was cut off. -/
lemma goesOn_doomed_of_turn {i k : Nat} {P : ClassPlan} {c c' : ClassRun} {o' : Outside σ}
    {choice : Choice} {log : List Event} (hP : P ∈ request.plans findings) (hk : r.classes[k]? = some c)
    (hallowed : r.cutsInFlight choice = true) (h : DoomedAt options i l reason P c log)
    (hturn : r.Turn b options k c choice c' o') :
    P.GoesOn (DoomedAt options i l reason) c r.outside log c' o' := by
  obtain ⟨hsupervised, hdoomed⟩ := h
  obtain ⟨hrunning, hgoes, more, hevents, hwithin, hsupervised'⟩ :=
    goesOn_supervised_of_turn hP hk hallowed hsupervised hturn
  refine ⟨hrunning, hgoes, more, hevents, hwithin, hsupervised', fun hplace => ?_⟩
  obtain ⟨job, phase, hl, hrescue⟩ := hdoomed hplace
  -- a turn of another scenario
  have hother : ∀ (job' : Job) {l' : Nat} {p p' : Phase} {scope' : ClassScope}, l' ≠ l →
      ClassRun.ScenarioTurn b options job' p c.scope r.outside p' scope' o' →
      P.Doomed options l reason ({ c with scope := scope' }.setPhase l' p') (log ++ more) := by
    intro l' job' p p' scope' hne hturn
    refine ⟨job, phase, ?_, hrescue.mono fun hworst => hturn.worst_failure hworst⟩
    exact (ClassRun.getElem?_changePhase_ne _ (Ne.symm hne) _).trans hl
  cases hturn with
  | task hadvance =>
      obtain ⟨reached, hlinked⟩ := hsupervised.follows.linked
      obtain ⟨reached', hstep, -⟩ := ClassPlan.taskStep_of_advance hlinked.stage hadvance
      exact ⟨job, phase, hstep.getElem?_launched hl hrescue.isLaunched,
        hrescue.mono hstep.worst_failure⟩
  | @scenario l' _ _ hadvance =>
      obtain ⟨job', p, p', scope', hl', hstep, rfl⟩ := ClassRun.scenarioStep_of_advance hadvance
      by_cases hll : l' = l
      · subst hll
        obtain ⟨rfl, rfl⟩ := ScenarioRun.mk.inj (Option.some.inj (hl.symm.trans hl'))
        refine ⟨job, p', ?_, hrescue.step hstep hevents fun hdistinct hflying => ?_⟩
        · exact ClassRun.getElem?_changePhase_self (c := { c with scope := scope' }) hl _
        · have hheld := (hsupervised.booked hdistinct).flying hl hflying
          simpa [ClassScope.leave] using hheld
      · exact hother job' hll (.step hstep)
  | @cut l' reason' _ hcrash =>
      obtain ⟨job', p, hl', hexposed, rfl⟩ := ClassRun.exposed_of_crash hcrash
      by_cases hll : l' = l
      · subst hll
        obtain ⟨rfl, rfl⟩ := ScenarioRun.mk.inj (Option.some.inj (hl.symm.trans hl'))
        -- a scenario that was cut off is not cut off in flight again
        have hflying := isInFlight_of_cutsInFlight hallowed hk hl
        generalize c.scope.worst = worst at hrescue
        cases hrescue with
        | rescuing => exact absurd hexposed Bool.false_ne_true
        | telling => exact absurd hflying Bool.false_ne_true
        | rescued hphase =>
            rcases hphase with rfl | rfl | rfl <;> exact absurd hexposed Bool.false_ne_true
      · exact hother job' hll (.cut _ hexposed)

/-- **A scenario that is cut off in flight** is rescued: from then on its class keeps that. -/
lemma keeps_doomed_of_proceeds {s : σ} {choices : List Choice} {k : Nat} {P : ClassPlan}
    (hproceeds : Proceeds (fun r choice => r.cutsInFlight choice = true) b options
      (planned findings options request s) choices r)
    (hP : (request.plans findings)[k]? = some P)
    (hcrash : .crash (.scenarioTask k l) reason ∈ choices) :
    r.Keeps (DoomedAt options P.place l reason) findings options request := by
  obtain ⟨before, r₁, r₂, after, hbefore, hallowed, hstep, hafter⟩ :=
    hproceeds.exists_of_crash hcrash
  have hsupervised : r₂.Keeps (ClassPlan.Supervised options) findings options request :=
    (keeps_supervised_of_proceeds hbefore).step (isMild_of_cutsInFlight hallowed) hstep
      supervised_begin fun hP hk hinv hturn =>
        goesOn_supervised_of_turn (List.mem_of_getElem? hP) hk hallowed hinv hturn
  refine hafter.induct (hsupervised.imp fun {k' P' c'} hP' hk' hinv => ⟨hinv, fun hplace => ?_⟩) ?_
    fun h _ => h.consult _
  · obtain rfl := RunRequest.plan_injective hP' hP hplace
    rw [step?] at hstep
    obtain ⟨c, c₂, hk, hcut, rfl⟩ := crash_scenarioTask_iff.mp hstep
    have hlt := (List.getElem?_eq_some_iff.mp hk).1
    obtain rfl : c₂ = c' := by simpa [setClass, hlt] using hk'
    obtain ⟨job, phase, hl, -, rfl⟩ := ClassRun.exposed_of_crash hcut
    have hflying := isInFlight_of_cutsInFlight hallowed hk hl
    refine ⟨job, .rescuing reason, (ClassRun.getElem?_changePhase_self hl _).trans ?_, .rescuing⟩
    cases phase with
    | telling => exact absurd hflying Bool.false_ne_true
    | _ => rfl
  · intro r r' choice h hallowed hstep
    refine h.step (isMild_of_cutsInFlight hallowed) hstep
      (fun {P c log} hinv => ⟨supervised_begin hinv.1, fun hplace => ?_⟩)
      fun hP hk hinv hturn =>
        goesOn_doomed_of_turn (List.mem_of_getElem? hP) hk hallowed hinv hturn
    obtain ⟨job, phase, hl, hrescue⟩ := hinv.2 hplace
    have hkeep : c.begin.scenarios = c.scenarios ∧ c.begin.scope = c.scope := by
      unfold ClassRun.begin
      split <;> exact ⟨rfl, rfl⟩
    exact ⟨job, phase, by rw [hkeep.1, hl], by rw [hkeep.2]; exact hrescue⟩

end Run

/-! ## The end of a run -/

/-- The task of the scenario at a place of the tree was cut off for a reason. -/
def Run.CutOff {σ : Type} (r : Run σ) (choices : List Choice) (i j : Nat) (reason : String) : Prop :=
  ∃ k l c s, r.classes[k]? = some c ∧ c.place = i ∧ c.scenarios[l]? = some s ∧ s.job.place = j ∧
    .crash (.scenarioTask k l) reason ∈ choices

/-- **The scenarios of the class at a place that may run at the same time have different
identifiers**: one runs at a time, or no two of those with an environment have the same one. -/
def Run.DistinctAt {σ : Type} (options : RunOptions) (r : Run σ) (i : Nat) : Prop :=
  ∀ c ∈ r.classes, c.place = i →
    options.concurrency ≤ 1 ∨ (c.scenarios.map fun s => s.job.node.id).Nodup

/-- **What has been told of a class** at the end of a run in which some tasks were cut off. -/
structure RunRequest.Rescued {σ : Type} (options : RunOptions) (request : RunRequest)
    (choices : List Choice) (i : Nat) (node : Node) (r : Run σ) : Prop where
  /-- The class starts before and is finished after everything below it, and fails if a task was cut
  off. -/
  ofClass : ∃ between verdict,
    r.outside.events.filter (fun e => e.subject.isWithinClass i) =
      ⟨.classAt i, node, .started⟩ :: between ++
        [⟨.classAt i, node, .finished (.ofVerdict verdict)⟩] ∧
    (∀ e ∈ between, e.subject ≠ .classAt i) ∧
    ∀ j reason, r.CutOff choices i j reason → verdict = .failure
  /-- If the scenarios are distinct, then each one that is not skipped starts before and is finished
  after the events of its steps and its final report, and fails if its task was cut off. -/
  ofScenario : r.DistinctAt options i →
    ∀ {j : Nat} {child : Node}, node.children[j]? = some child → child.isScenario = true →
      request.skip.contains child.id = false →
      ∃ between result,
        r.outside.events.filter (fun e => e.subject.isWithinScenario i j) =
          ⟨.scenarioAt i j, child, .started⟩ :: between ++
            [⟨.scenarioAt i j, child, .finished result⟩] ∧
        (∀ e ∈ between, (∃ slot, e.subject = .stepAt i j slot) ∨
          ∃ report, e = ⟨.scenarioAt i j, child, .published report⟩) ∧
        ∀ reason, r.CutOff choices i j reason → result = ClassRun.lost reason

namespace Job.Fate

variable {options : RunOptions} {job : Job} {lossy : Prop} {events : List Event}

/-- A scenario that is done has told its end last, if ends do not get lost. -/
lemma of_done (h : job.Fate lossy options .done events) (hkept : ¬ lossy) :
    ∃ between result, events = job.event .started :: between ++ [job.event (.finished result)] ∧
      ∀ e ∈ between, job.IsInner e := by
  cases h with
  | onCourse hstage =>
      obtain ⟨opened, -, rfl⟩ := hstage.of_done
      rw [toldBy_actions]
      exact ⟨_, _, rfl, fun e he => isInner_of_mem_innerEvents he⟩
  | rescued reason hphase hinner => exact ⟨_, _, rfl, hinner⟩
  | muted hlossy => exact absurd hlossy hkept

end Job.Fate

/-- The end of a scenario is told once. -/
lemma Job.result_eq_of_mem {job : Job} {between : List Event} {result result' : NodeResult}
    (hinner : ∀ e ∈ between, job.IsInner e)
    (hmem : job.event (.finished result') ∈
      job.event .started :: between ++ [job.event (.finished result)]) : result' = result := by
  rcases List.mem_append.mp hmem with hmem | hmem
  · rcases List.mem_cons.mp hmem with hstart | hmem
    · exact absurd (congrArg Event.change hstart) Change.noConfusion
    · rcases hinner _ hmem with ⟨slot, hslot⟩ | ⟨report, hreport⟩
      · exact absurd hslot Subject.noConfusion
      · exact absurd (congrArg Event.change hreport) Change.noConfusion
  · exact Change.finished.inj (congrArg Event.change (List.mem_singleton.mp hmem))

namespace Run

variable {σ : Type} {b : Backend σ} {options : RunOptions} {request : RunRequest}
  {findings : Findings} {r : Run σ} {choices : List Choice} {i j k : Nat} {reason : String} {s : σ}

/-- What a class has when all of its scenarios are done and one of them was cut off: it fails, and the
end of that scenario is among its events. -/
lemma failure_of_cutOff {P : ClassPlan} {c : ClassRun}
    (hproceeds : Proceeds (fun r choice => r.cutsInFlight choice = true) b options
      (planned findings options request s) choices r)
    (hP : (request.plans findings)[k]? = some P) (hk : r.classes[k]? = some c)
    (hdone : ∀ (l : Nat) (s : ScenarioRun), c.scenarios[l]? = some s → s.phase = .done)
    (hcut : r.CutOff choices P.place j reason) :
    c.scope.worst = some .failure ∧ ∃ job ∈ P.jobs, job.place = j ∧
      (P.Distinct options → job.event (.finished (ClassRun.lost reason)) ∈ r.logOf P.place) := by
  obtain ⟨k', l, c', ⟨job, phase⟩, hk', hplace, hl, hj, hcrash⟩ := hcut
  obtain ⟨P', hP', hsupervised'⟩ := (keeps_supervised_of_proceeds hproceeds).exists_plan hk'
  obtain rfl := RunRequest.plan_injective hP' hP (hsupervised'.follows.place.symm.trans hplace)
  obtain rfl := Option.some.inj (hk.symm.trans hk')
  obtain ⟨c', hk', hsupervised, hdoomed⟩ :=
    (keeps_doomed_of_proceeds hproceeds hP hcrash).classes hP
  obtain rfl := Option.some.inj (hk.symm.trans hk')
  obtain ⟨job', phase', hl', hrescue⟩ := hdoomed rfl
  obtain ⟨rfl, rfl⟩ := ScenarioRun.mk.inj (Option.some.inj (hl.symm.trans hl'))
  obtain ⟨reached, hlinked⟩ := hsupervised.follows.linked
  have hjob := hlinked.job_eq hl
  obtain rfl : phase = .done := hdone l _ hl
  generalize c.scope.worst = worst at hrescue
  cases hrescue with
  | rescued hphase htold => exact ⟨rfl, job, List.mem_of_getElem? hjob, hj, htold⟩

/-- What has been told of a scenario of a class that is finished with all of its scenarios. -/
lemma told_scenario {lossy : Prop} {node child : Node} {verdict : Verdict} (hkept : ¬ lossy)
    (hcomplete : (ClassPlan.ofNode (findings i) request.skip.contains i node).Complete
      (Job.Fate lossy options) verdict (r.logOf i))
    (hlost : ∀ reason, r.CutOff choices i j reason →
      ∃ job ∈ (ClassPlan.ofNode (findings i) request.skip.contains i node).jobs, job.place = j ∧
        job.event (.finished (ClassRun.lost reason)) ∈ r.logOf i)
    (hat : node.children[j]? = some child) (hscenario : child.isScenario = true)
    (hskipped : request.skip.contains child.id = false) :
    ∃ between result,
      (r.logOf i).filter (fun e => e.subject.isWithinScenario i j) =
        ⟨.scenarioAt i j, child, .started⟩ :: between ++
          [⟨.scenarioAt i j, child, .finished result⟩] ∧
      (∀ e ∈ between, (∃ slot, e.subject = .stepAt i j slot) ∨
        ∃ report, e = ⟨.scenarioAt i j, child, .published report⟩) ∧
      ∀ reason, r.CutOff choices i j reason → result = ClassRun.lost reason := by
  obtain ⟨source, hsource⟩ := Option.isSome_iff_exists.mp hscenario
  have hcandidate : ClassPlan.candidateAt? node j = some ⟨j, child, source⟩ := by
    simp [ClassPlan.candidateAt?, hat, hsource]
  cases henvironment : findings i ⟨j, child, source⟩ with
  | error e =>
      -- a scenario without an environment has no task
      have hfailed : ((⟨j, child, source⟩ : Candidate), e) ∈
          (ClassPlan.ofNode (findings i) request.skip.contains i node).failed :=
        ClassPlan.failed_iff.mpr ⟨hcandidate, hskipped, henvironment⟩
      refine ⟨[], .failure e.message, hcomplete.failed hfailed, by simp, fun reason hcut => ?_⟩
      obtain ⟨job, hjob, hj, -⟩ := hlost reason hcut
      exact absurd hj.symm (ClassPlan.place_ne_of_failed_of_job hfailed hjob)
  | ok environment =>
      have hjob : Candidate.job ⟨j, child, source⟩ i environment ∈
          (ClassPlan.ofNode (findings i) request.skip.contains i node).jobs :=
        ClassPlan.jobs_iff.mpr ⟨_, environment, hcandidate, hskipped, henvironment, rfl⟩
      obtain ⟨between, result, htold, hinner⟩ := (hcomplete.job hjob).of_done hkept
      refine ⟨between, result, htold, hinner, fun reason hcut => ?_⟩
      obtain ⟨job, hjob', hj, hmem⟩ := hlost reason hcut
      obtain rfl := eq_of_mem_of_pairwise_lt ClassPlan.pairwise_jobs hjob' hjob hj
      refine (Job.result_eq_of_mem hinner (htold ▸ List.mem_filter.mpr ⟨hmem, ?_⟩)).symm
      exact Job.covers_event ..

/-- Scenarios of a class that has started all of its jobs are distinct if its plan is. -/
lemma distinct_iff {P : ClassPlan} {c : ClassRun} {reached : ClassPlan.Reached}
    (hlinked : P.Linked c reached) : P.Distinct options ↔
      options.concurrency ≤ 1 ∨ (c.scenarios.map fun s => s.job.node.id).Nodup := by
  rw [ClassPlan.Distinct, ← hlinked.jobs, List.map_map]
  rfl

/-- **What has been told when no task can go on.** -/
theorem rescued_of_stuck
    (hproceeds : Proceeds (fun r choice => r.cutsInFlight choice = true) b options
      (planned findings options request s) choices r)
    (hstuck : r.Stuck b options) (hlimit : max options.concurrency 1 ≤ ClassScope.limit)
    {node : Node} (hchild : request.root.children[i]? = some node)
    (hskip : request.skip.contains node.id = false) :
    request.Rescued options choices i node r := by
  obtain ⟨k, hP⟩ := RunRequest.exists_plan findings hchild hskip
  have hkeeps := keeps_supervised_of_proceeds hproceeds
  obtain ⟨c, hk, hsupervised⟩ := hkeeps.classes hP
  obtain ⟨-, hclasses⟩ := hkeeps.done_of_stuck (fun h => ⟨_, h.follows⟩) hstuck hlimit
  obtain ⟨⟨verdict, hphase⟩, hdone⟩ := hclasses k c hk
  have hcomplete := hsupervised.follows.complete hphase hdone
  refine ⟨?_, fun hdistinct {j child} hat hscenario hskipped => ?_⟩
  · obtain ⟨between, hbetween, hnot⟩ := exists_between hcomplete
    refine ⟨between, verdict, hbetween, hnot, fun j reason hcut => ?_⟩
    rw [hsupervised.follows.verdict hphase, ClassScope.verdict,
      (failure_of_cutOff hproceeds hP hk hdone hcut).1]
    rfl
  · obtain ⟨reached, hlinked⟩ := hsupervised.follows.linked
    replace hdistinct := (distinct_iff hlinked).mpr
      (hdistinct c (List.mem_of_getElem? hk) hsupervised.follows.place)
    rw [← filter_logOf]
    refine told_scenario (fun hnot => hnot hdistinct) hcomplete (fun reason hcut => ?_) hat hscenario
      hskipped
    obtain ⟨-, job, hjob, hj, hmem⟩ := failure_of_cutOff hproceeds hP hk hdone hcut
    exact ⟨job, hjob, hj, hmem hdistinct⟩

/-- A task that was cut off was cut off by the plan as well. -/
lemma CutOff.foreseen (h : r.CutOff choices i j reason) :
    (r.foreseen findings).CutOff choices i j reason := by
  obtain ⟨k, l, c, s, hk, hplace, hl, hj, hcrash⟩ := h
  refine ⟨k, l, c.foreseen findings, s, foreseen_getElem? findings hk, hplace, ?_, hj, hcrash⟩
  rcases ClassRun.foreseen_getElem? findings c l with hsame | ⟨hnone, -⟩
  · rw [hsame, hl]
  · rw [hnone] at hl
    exact absurd hl (by simp)

/-- The scenarios of a run that is stuck are those of its plan. -/
lemma DistinctAt.foreseen {found : List Lookup} (h : r.DistinctAt options i)
    (hsearched : r.Searched request found) (hagree : findings.Agree found)
    (hfinished : ∀ c ∈ r.classes, ∃ verdict, c.phase = .finished verdict) :
    (r.foreseen findings).DistinctAt options i := by
  intro c' hc' hplace
  obtain ⟨c, hc, rfl⟩ := List.mem_map.mp hc'
  obtain ⟨k, hk⟩ := List.getElem?_of_mem hc
  obtain ⟨p, -, -, -, hclass⟩ := hsearched.exists_placed hk
  obtain ⟨verdict, hphase⟩ := hfinished c hc
  have hscenarios := ClassRun.foreseen_scenarios hclass
    (fun x hx => hagree x (List.mem_filter.mp hx).1) (by simp [hphase])
    (by rw [ClassRun.todo, hphase]; rfl)
  rw [hscenarios]
  exact h c hc hplace

/-- **No scenario that is cut off in flight loses its end**, if those that may run at once have
different identifiers.  Whichever way the tasks are scheduled, and whichever tasks of scenarios are cut
off between the start of the scenario and its leave, the run can be completed.  At its end each class
has been finished after everything below it, and fails if one of its tasks was cut off; and each
scenario that is not skipped has been finished once, with a failure if its task was cut off. -/
theorem rescued_of_reaches (b : Backend σ) (options : RunOptions) (request : RunRequest) (s : σ)
    (hlimit : max options.concurrency 1 ≤ ClassScope.limit) {choices : List Choice}
    (hreaches : ReachesBy (fun r choice => r.cutsInFlight choice = true) b options
      (ofRequest options request s) choices r) :
    (∃ choices' r', Reaches b options r choices' r' ∧ Quiet choices' ∧ r'.Stuck b options) ∧
    (r.Stuck b options → ∀ {i : Nat} {node : Node}, request.root.children[i]? = some node →
      request.skip.contains node.id = false → request.Rescued options choices i node r) := by
  refine ⟨exists_stuck b options r, fun hstuck i node hchild hskip => ?_⟩
  have hsearched := searched_of_reaches hreaches.reaches
  obtain ⟨findings, hagree, hplanned⟩ := hreaches.reaches.exists_findings
  have hproceeds := hreaches.proceeds_in_flight hagree
  have hrescued := rescued_of_stuck hproceeds (hplanned hstuck) hlimit hchild hskip
  obtain ⟨-, hclasses⟩ := (keeps_supervised_of_proceeds hproceeds).done_of_stuck
    (fun h => ⟨_, h.follows⟩) (hplanned hstuck) hlimit
  have hfinished : ∀ c ∈ r.classes, ∃ verdict, c.phase = .finished verdict := by
    intro c hc
    obtain ⟨k, hk⟩ := List.getElem?_of_mem hc
    obtain ⟨⟨verdict, hphase⟩, -⟩ := hclasses k _ (foreseen_getElem? findings hk)
    exact ⟨verdict, (ClassRun.foreseen_phase_iff (by simp)).mp hphase⟩
  obtain ⟨between, verdict, htold, hnot, hfails⟩ := hrescued.ofClass
  refine ⟨⟨between, verdict, htold, hnot, fun j reason hcut => hfails j reason hcut.foreseen⟩,
    fun hdistinct {j child} hat hscenario hskipped => ?_⟩
  obtain ⟨between, result, htold, hinner, hlost⟩ := hrescued.ofScenario
    (hdistinct.foreseen hsearched hagree hfinished) hat hscenario hskipped
  exact ⟨between, result, htold, hinner, fun reason hcut => hlost reason hcut.foreseen⟩

/-- The tree that is discovered for a class with two producers of one scenario each.  The second one
has a name. -/
def twoProducers (name : String) : RunRequest where
  root :=
    (Discovery.discover
      (.ofList
        [⟨"a.A", [⟨"p", none, .single (.ofStep "first" default)⟩,
          ⟨name, none, .single (.ofStep "second" default)⟩], none⟩])
      false .all).root
  skip := []

/-- Both scenarios start.  The first one comes to its end, and then the second one is cut off, whose
task has some steps left. -/
def cutSecond (steps : Nat) : List Choice :=
  List.replicate 2 (.advance .engine) ++ List.replicate 15 (.advance (.classTask 0)) ++
    List.replicate 8 (.advance (.scenarioTask 0 0)) ++
    List.replicate 2 (.advance (.scenarioTask 0 1)) ++ [.crash (.scenarioTask 0 1) "interrupted"] ++
    List.replicate steps (.advance (.scenarioTask 0 1)) ++
    List.replicate 2 (.advance (.classTask 0)) ++ List.replicate 2 (.advance .engine)

lemma reachesBy_of_foldlM {allowed : Run σ → Choice → Bool} {r' : Run σ}
    (h : choices.foldlM (fun r choice => if allowed r choice then r.step? b options choice else none)
      r = some r') :
    ReachesBy (fun r choice => allowed r choice = true) b options r choices r' := by
  induction choices generalizing r with
  | nil =>
      obtain rfl := Option.some.inj h
      exact .refl _
  | cons choice choices ih =>
      rw [List.foldlM_cons, Option.bind_eq_bind, Option.bind_eq_some_iff] at h
      obtain ⟨next, hfirst, hrest⟩ := h
      split at hfirst
      · next hallowed => exact .step hallowed hfirst (ih hrest)
      · exact absurd hfirst (by simp)

lemma cutOff_second {r : Run ScriptState} (steps : Nat)
    (h : (r.classes[0]?).any (fun c =>
      c.place == 0 && (c.scenarios[1]?).any fun s => s.job.place == 1) = true) :
    r.CutOff (cutSecond steps) 0 1 "interrupted" := by
  obtain ⟨c, hk, hclass⟩ := (Option.any_eq_true _ _).mp h
  obtain ⟨hplace, hscenarios⟩ := Bool.and_eq_true_iff.mp hclass
  obtain ⟨s, hl, hj⟩ := (Option.any_eq_true _ _).mp hscenarios
  refine ⟨0, 1, c, s, hk, beq_iff_eq.mp hplace, hl, beq_iff_eq.mp hj, ?_⟩
  simp [cutSecond]

/-- Under another name than the first one, the second scenario fails and so does its class. -/
theorem rescued_of_reaches_distinct :
    ∃ r node,
      max (2 : Nat) 1 ≤ ClassScope.limit ∧
      ReachesBy (fun r choice => r.cutsInFlight choice = true) oneEnvironment.backend
        { concurrency := 2 } (ofRequest { concurrency := 2 } (twoProducers "q") .initial)
        (cutSecond 4) r ∧
      r.Stuck oneEnvironment.backend { concurrency := 2 } ∧
      (twoProducers "q").root.children[0]? = some node ∧
      (twoProducers "q").skip.contains node.id = false ∧
      r.DistinctAt { concurrency := 2 } 0 ∧ r.CutOff (cutSecond 4) 0 1 "interrupted" ∧
      (twoProducers "q").Rescued { concurrency := 2 } (cutSecond 4) 0 node r := by
  have hlimit : max (2 : Nat) 1 ≤ ClassScope.limit := by decide
  have hsome : ((cutSecond 4).foldlM (fun (r : Run ScriptState) choice =>
      if r.cutsInFlight choice then r.step? oneEnvironment.backend { concurrency := 2 } choice
      else none) (ofRequest { concurrency := 2 } (twoProducers "q") .initial)).any (fun r =>
        r.isOver && (r.classes.all fun c => decide (c.scenarios.map fun s => s.job.node.id).Nodup) &&
          (r.classes[0]?).any fun c =>
            c.place == 0 && (c.scenarios[1]?).any fun s => s.job.place == 1) = true := by
    decide +kernel
  have hnode : ((twoProducers "q").root.children[0]?).isSome = true := by decide +kernel
  obtain ⟨r, hr, hboth⟩ := (Option.any_eq_true _ _).mp hsome
  obtain ⟨hboth, hcut⟩ := Bool.and_eq_true_iff.mp hboth
  obtain ⟨hover, hnodup⟩ := Bool.and_eq_true_iff.mp hboth
  obtain ⟨node, hchild⟩ := Option.isSome_iff_exists.mp hnode
  have hreaches := reachesBy_of_foldlM hr
  have hstuck : r.Stuck oneEnvironment.backend { concurrency := 2 } := stuck_of_isOver hover
  have hrescued := (rescued_of_reaches oneEnvironment.backend { concurrency := 2 }
    (twoProducers "q") .initial hlimit hreaches).2 hstuck hchild rfl
  exact ⟨r, node, hlimit, hreaches, hstuck, hchild, rfl,
    fun c hc _ => Or.inr (of_decide_eq_true (List.all_eq_true.mp hnodup c hc)),
    cutOff_second 4 hcut, hrescued⟩

/-- Under the name of the first one, the end of the second scenario is never told: when it is cut off,
the first one has taken the identifier of both away. -/
theorem lost_of_sharedId :
    ∃ r,
      ReachesBy (fun r choice => r.cutsInFlight choice = true) oneEnvironment.backend
        { concurrency := 2 } (ofRequest { concurrency := 2 } (twoProducers "p") .initial)
        (cutSecond 3) r ∧
      r.Stuck oneEnvironment.backend { concurrency := 2 } ∧
      r.CutOff (cutSecond 3) 0 1 "interrupted" ∧
      (∃ e ∈ r.outside.events, e.subject = .scenarioAt 0 1 ∧ e.isStart = true) ∧
      ∀ e ∈ r.outside.events, e.subject = .scenarioAt 0 1 → e.isFinish = false := by
  have hsome : ((cutSecond 3).foldlM (fun (r : Run ScriptState) choice =>
      if r.cutsInFlight choice then r.step? oneEnvironment.backend { concurrency := 2 } choice
      else none) (ofRequest { concurrency := 2 } (twoProducers "p") .initial)).any (fun r =>
        r.isOver && ((r.classes[0]?).any fun c =>
            c.place == 0 && (c.scenarios[1]?).any fun s => s.job.place == 1) &&
          decide ((∃ e ∈ r.outside.events, e.subject = .scenarioAt 0 1 ∧ e.isStart = true) ∧
            ∀ e ∈ r.outside.events, e.subject = .scenarioAt 0 1 → e.isFinish = false)) = true := by
    decide +kernel
  obtain ⟨r, hr, hboth⟩ := (Option.any_eq_true _ _).mp hsome
  obtain ⟨hboth, htold⟩ := Bool.and_eq_true_iff.mp hboth
  obtain ⟨hover, hcut⟩ := Bool.and_eq_true_iff.mp hboth
  exact ⟨r, reachesBy_of_foldlM hr, stuck_of_isOver hover, cutOff_second 3 hcut,
    of_decide_eq_true htold⟩

end Run

end ScenarioRunner

import ScenarioRunner.Proofs.Engine.Recording
import ScenarioRunner.Proofs.Engine.Served

/-!
# Scenarios and their calls

What a run has called for each of its scenarios.

* `Job.Called` says what the task of a job has called, by its phase, and `Job.Called.step` is what a
  step adds.
* `Run.Traces`: the calls of a run are those of its jobs.  `Run.Traces.step` keeps that.
* `Run.traces_of_reaches`: it is true of every run in which no task is cut off.
* `Run.Traces.of_done`: a scenario that is done was turned down, or its stream was asked for once.
-/

namespace ScenarioRunner

namespace Subject

variable {subject subject' : Subject} {calls : List Call} {log more : List (Subject × Call)}

/-- The calls that are made for a node. -/
def callsIn (subject : Subject) (log : List (Subject × Call)) : List Call :=
  (log.filter fun e => e.1 == subject).map Prod.snd

lemma mem_callsIn {call : Call} : call ∈ subject.callsIn log ↔ (subject, call) ∈ log := by
  simp [callsIn]

lemma callsIn_append : subject.callsIn (log ++ more) = subject.callsIn log ++ subject.callsIn more := by
  rw [callsIn, List.filter_append, List.map_append]
  rfl

lemma callsIn_self : subject.callsIn (calls.map fun call => (subject, call)) = calls := by
  simp [callsIn, List.filter_map, Function.comp_def]

lemma callsIn_of_ne (hne : subject' ≠ subject) :
    subject.callsIn (calls.map fun call => (subject', call)) = [] := by
  simp [callsIn, List.filter_map, Function.comp_def, hne]

/-- If two parts of the calls of each node are the same, then so are those of all the calls, but for
their order. -/
lemma perm_of_callsIn {α : Type} {f g : Call → Option α} (log : List (Subject × Call))
    (h : ∀ subject : Subject,
      (subject.callsIn log).filterMap f = (subject.callsIn log).filterMap g) :
    ((log.map Prod.snd).filterMap f).Perm ((log.map Prod.snd).filterMap g) := by
  induction hn : log.length using Nat.strongRecOn generalizing log with
  | ind n ih =>
    cases log with
    | nil => exact .nil
    | cons e more =>
      -- the calls of the first node are taken out, and fewer are left
      obtain ⟨log, hlog⟩ : ∃ log, e :: more = log := ⟨_, rfl⟩
      obtain ⟨rest, hrest⟩ : ∃ rest, log.filter (fun x => !(x.1 == e.1)) = rest := ⟨_, rfl⟩
      have hsplit : ∀ f : Call → Option α, ((log.map Prod.snd).filterMap f).Perm
          ((e.1.callsIn log).filterMap f ++ (rest.map Prod.snd).filterMap f) := by
        intro f
        rw [← List.filterMap_append, callsIn, ← List.map_append, ← hrest]
        exact ((List.filter_append_perm _ log).symm.map _).filterMap _
      have hshorter : rest.length < n := by
        rw [← hrest, ← hn, hlog, List.length_filter_lt_length_iff_exists]
        exact ⟨e, hlog ▸ List.mem_cons_self, by simp⟩
      have hgroups : ∀ subject : Subject,
          (subject.callsIn rest).filterMap f = (subject.callsIn rest).filterMap g := by
        intro subject
        rw [← hrest, callsIn, List.filter_filter]
        by_cases hsubject : subject = e.1
        · subst hsubject
          simp
        · have hsame : ∀ x ∈ log, (x.1 == subject && !(x.1 == e.1)) = (x.1 == subject) := by
            intro x _
            by_cases hx : x.1 = subject <;> simp_all
          rw [List.filter_congr hsame]
          rw [hlog] at h
          exact h subject
      rw [hlog] at h ⊢
      calc (log.map Prod.snd).filterMap f
        _ |>.Perm ((e.1.callsIn log).filterMap f ++ (rest.map Prod.snd).filterMap f) := hsplit f
        _ |>.Perm ((e.1.callsIn log).filterMap g ++ (rest.map Prod.snd).filterMap g) := by
          rw [h]
          exact (ih rest.length hshorter rest hgroups rfl).append_left _
        _ |>.Perm ((log.map Prod.snd).filterMap g) := (hsplit g).symm

end Subject

namespace Phase

/-- The backend has answered all that is asked for a scenario. -/
def isAnswered : Phase → Bool
  | waiting | granted | submitting | opening _ => false
  | _ => true

end Phase

namespace Job

variable {σ : Type} {b : Backend σ} {options : RunOptions} {job : Job} {phase phase' : Phase}
  {calls : List Call}

/-- **What the task of a job has called** in a phase: it submits the scenario once, and asks once for
the stream if the scenario is accepted. -/
inductive Called (options : RunOptions) (job : Job) : Phase → List Call → Prop where
  | nothing {phase : Phase} (h : phase.isUnsubmitted = true) : Called options job phase []
  | accepted (id : ExecutionId) :
    Called options job (.opening id) [.submit (job.request options) (.ok id)]
  | refused {phase : Phase} (h : phase.isAnswered = true) (e : Error) :
    Called options job phase [.submit (job.request options) (.error e)]
  | opened {phase : Phase} (h : phase.isAnswered = true) (id : ExecutionId) :
    Called options job phase [.submit (job.request options) (.ok id), .notifications id]

namespace Called

lemma of_isUnsubmitted (h : job.Called options phase calls) (hphase : phase.isUnsubmitted = true) :
    calls = [] := by
  cases h with
  | nothing => rfl
  | accepted id => exact absurd hphase Bool.false_ne_true
  | refused hanswered => cases phase <;> simp_all [Phase.isUnsubmitted, Phase.isAnswered]
  | opened hanswered => cases phase <;> simp_all [Phase.isUnsubmitted, Phase.isAnswered]

lemma of_opening {id : ExecutionId} (h : job.Called options (.opening id) calls) :
    calls = [.submit (job.request options) (.ok id)] := by
  cases h with
  | accepted => rfl
  | nothing hphase => exact absurd hphase Bool.false_ne_true
  | refused hanswered => exact absurd hanswered Bool.false_ne_true
  | opened hanswered => exact absurd hanswered Bool.false_ne_true

/-- Nothing is called once all is answered. -/
lemma of_isAnswered (h : job.Called options phase calls) (hphase : phase.isAnswered = true)
    (hphase' : phase'.isAnswered = true) : job.Called options phase' calls := by
  cases h with
  | nothing hunsubmitted => cases phase <;> simp_all [Phase.isUnsubmitted, Phase.isAnswered]
  | accepted id => exact absurd hphase Bool.false_ne_true
  | refused _ e => exact .refused hphase' e
  | opened _ id => exact .opened hphase' id

/-- A permit or a start calls nothing. -/
lemma of_grant_or_start (h : job.Called options phase calls)
    (hphase : phase' = phase ∨ phase' = phase.grant ∨ phase' = phase.start) :
    job.Called options phase' calls := by
  by_cases hunsubmitted : phase.isUnsubmitted = true
  · obtain rfl := h.of_isUnsubmitted hunsubmitted
    refine .nothing ?_
    rcases hphase with rfl | rfl | rfl
    · exact hunsubmitted
    · rwa [Phase.isUnsubmitted_grant]
    · rwa [Phase.isUnsubmitted_start]
  · have hsame : phase' = phase := by
      cases phase <;>
        first | exact absurd rfl hunsubmitted | simpa [Phase.grant, Phase.start] using hphase
    exact hsame ▸ h

/-- **A step of the task** adds the call that it makes. -/
theorem step {scope scope' : ClassScope} {o o' : Outside σ} (h : job.Called options phase calls)
    (hstep : ClassRun.ScenarioStep b options job phase scope o phase' scope' o') :
    job.Called options phase' (calls ++ phase.asks b options job o.backend) := by
  have hquiet : phase.isAnswered = true → phase'.isAnswered = true →
      job.Called options phase' (calls ++ phase.asks b options job o.backend) := by
    intro hphase hphase'
    have hnothing : phase.asks b options job o.backend = [] := by
      cases phase <;> first | rfl | exact absurd hphase Bool.false_ne_true
    rw [hnothing, List.append_nil]
    exact h.of_isAnswered hphase hphase'
  cases hstep with
  | submitted hsubmit =>
      obtain rfl := h.of_isUnsubmitted rfl
      rw [Phase.asks, hsubmit]
      exact .accepted _
  | refused hsubmit =>
      obtain rfl := h.of_isUnsubmitted rfl
      rw [Phase.asks, hsubmit]
      exact .refused rfl _
  | opened hopen =>
      obtain rfl := h.of_opening
      exact .opened rfl _
  | unopened hopen =>
      obtain rfl := h.of_opening
      exact .opened rfl _
  | rescued => exact hquiet rfl (by split <;> rfl)
  | _ => exact hquiet rfl rfl

end Called

end Job

namespace Run

variable {σ : Type} {b : Backend σ} {options : RunOptions} {request : RunRequest}
  {findings : Findings} {r r' : Run σ} {s : σ} {log : List (Subject × Call)} {k l k' l' : Nat}

/-! ## The scenarios of a run -/

lemma task?_eq_some {t : ScenarioRun} :
    r.task? k l = some t ↔ ∃ c, r.classes[k]? = some c ∧ c.scenarios[l]? = some t :=
  Option.bind_eq_some_iff

lemma task?_setClass {c : ClassRun} (hk : r.classes[k]? = some c) (c' : ClassRun) (o' : Outside σ) :
    ({ r.setClass k c' with outside := o' } : Run σ).task? k' l' =
      if k' = k then c'.scenarios[l']? else r.task? k' l' := by
  have hlt := (List.getElem?_eq_some_iff.mp hk).1
  unfold task?
  split
  · next heq => simp [setClass, heq, hlt]
  · next hne => simp [setClass, Ne.symm hne]

/-- A scenario that has been found is there by the plan as well. -/
lemma task?_foreseen (findings : Findings) {t : ScenarioRun} (ht : r.task? k l = some t) :
    (r.foreseen findings).task? k l = some t := by
  obtain ⟨c, hk, hl⟩ := task?_eq_some.mp ht
  refine task?_eq_some.mpr ⟨_, foreseen_getElem? findings hk, ?_⟩
  rcases ClassRun.foreseen_getElem? findings c l with hsame | ⟨hnone, -⟩
  · rwa [hsame]
  · rw [hnone] at hl
    exact absurd hl (by simp)

/-- The engine leaves scenarios alone. -/
lemma task?_of_engine (hadvance : r.advance? b options .engine = some r') :
    r'.task? k l = r.task? k l := by
  have hclass := congrArg (·[k]?) (scenarios_of_engine hadvance).2
  simp only [List.getElem?_map] at hclass
  have hbind : ∀ r : Run σ,
      r.task? k l = (r.classes[k]?.map ClassRun.scenarios).bind fun scenarios => scenarios[l]? := by
    intro r
    rw [task?]
    cases r.classes[k]? <;> rfl
  rw [hbind, hbind, hclass]

namespace Keeps

variable (h : r.Follows findings options request)

include h

/-- The scenario of a task is a job of the plan. -/
lemma exists_job {t : ScenarioRun} (ht : r.task? k l = some t) :
    ∃ P, (request.plans findings)[k]? = some P ∧ P.jobs[l]? = some t.job := by
  obtain ⟨c, hk, hl⟩ := task?_eq_some.mp ht
  obtain ⟨P, hP, hclass⟩ := h.exists_plan hk
  obtain ⟨reached, hlinked⟩ := hclass.linked
  exact ⟨P, hP, hlinked.job_eq hl⟩

/-- No two tasks belong to one node. -/
lemma task_injective {t t' : ScenarioRun} (ht : r.task? k l = some t)
    (ht' : r.task? k' l' = some t') (heq : t.job.subject = t'.job.subject) : k = k' ∧ l = l' := by
  obtain ⟨P, hP, hjob⟩ := h.exists_job ht
  obtain ⟨P', hP', hjob'⟩ := h.exists_job ht'
  have hplaced := wellPlaced (List.mem_of_getElem? hP)
  have hplaced' := wellPlaced (List.mem_of_getElem? hP')
  obtain ⟨hgroup, hplace⟩ := Subject.scenarioAt.inj heq
  rw [hplaced.groups _ (List.mem_of_getElem? hjob),
    hplaced'.groups _ (List.mem_of_getElem? hjob')] at hgroup
  obtain rfl := RunRequest.plan_injective hP hP' hgroup
  obtain rfl := Option.some.inj (hP.symm.trans hP')
  exact ⟨rfl, eq_of_pairwise_lt hplaced.places hjob hjob' hplace⟩

end Keeps

/-! ## The calls of a run -/

/-- **The calls of a run** are those of its jobs: the task of each has called what belongs to its
phase, and nothing is called for other nodes. -/
structure Traces (findings : Findings) (options : RunOptions) (request : RunRequest) (r : Run σ)
    (log : List (Subject × Call)) : Prop where
  called : ∀ {k l : Nat} {t : ScenarioRun}, r.task? k l = some t →
    t.job.Called options t.phase (t.job.subject.callsIn log)
  made : ∀ e ∈ log, ∃ P ∈ request.plans findings, ∃ job ∈ P.jobs, e.1 = job.subject

/-- Before the first step nothing has been called. -/
lemma traces_planned (findings : Findings) (options : RunOptions) (request : RunRequest) (s : σ) :
    (planned findings options request s).Traces findings options request [] where
  called := by
    intro k l t ht
    obtain ⟨c, hk, hl⟩ := task?_eq_some.mp ht
    rw [planned, List.getElem?_map, Option.map_eq_some_iff] at hk
    obtain ⟨n, -, rfl⟩ := hk
    have hphase :=
      ClassPlan.phase_planned (findings n.2) options request.skip.contains n.2 n.1 hl
    exact .nothing (by rw [hphase]; rfl)
  made := fun e he => absurd he List.not_mem_nil

namespace Traces

/-- A step that calls nothing. -/
lemma of_quiet (h : r.Traces findings options request log)
    (htasks : ∀ {k l : Nat} {t : ScenarioRun}, r'.task? k l = some t →
      ∃ phase, r.task? k l = some ⟨t.job, phase⟩ ∧
        (t.phase = phase ∨ t.phase = phase.grant ∨ t.phase = phase.start)) :
    r'.Traces findings options request log where
  called := by
    intro k l t ht
    obtain ⟨phase, hs, hphase⟩ := htasks ht
    exact (h.called hs).of_grant_or_start hphase
  made := h.made

/-- A step of the task of a scenario. -/
lemma scenario (h : r.Traces findings options request log) (hfollows : r.Follows findings options request)
    {c : ClassRun} {job : Job} {phase phase' : Phase} {scope' : ClassScope} {o' : Outside σ}
    (hk : r.classes[k]? = some c) (hl : c.scenarios[l]? = some ⟨job, phase⟩)
    (hstep : ClassRun.ScenarioStep b options job phase c.scope r.outside phase' scope' o') :
    ({ r.setClass k ({ c with scope := scope' }.setPhase l phase') with outside := o' } :
      Run σ).Traces findings options request
        (log ++ (phase.asks b options job r.outside.backend).map fun call =>
          (job.subject, call)) where
  called := by
    have hself : r.task? k l = some ⟨job, phase⟩ := task?_eq_some.mpr ⟨c, hk, hl⟩
    -- the tasks of other nodes are as before, and have called nothing more
    have hother : ∀ {k' l' : Nat} {t : ScenarioRun}, r.task? k' l' = some t →
        ¬ (k' = k ∧ l' = l) →
        t.job.Called options t.phase (t.job.subject.callsIn
          (log ++ (phase.asks b options job r.outside.backend).map fun call =>
            (job.subject, call))) := by
      intro k' l' t ht hne
      have hsubject : job.subject ≠ t.job.subject := fun heq =>
        hne (hfollows.task_injective ht hself heq.symm)
      rw [Subject.callsIn_append, Subject.callsIn_of_ne hsubject, List.append_nil]
      exact h.called ht
    intro k' l' t ht
    rw [task?_setClass hk] at ht
    split at ht
    · next hkk =>
      subst hkk
      rcases ClassRun.eq_or_of_changePhase (c := { c with scope := scope' }) hl ht with
        ⟨-, rfl⟩ | ⟨hne, hs⟩
      · rw [Subject.callsIn_append, Subject.callsIn_self]
        exact (h.called hself).step hstep
      · exact hother (task?_eq_some.mpr ⟨c, hk, hs⟩) fun heq => hne heq.2
    · next hne => exact hother ht fun heq => hne heq.1
  made := by
    intro e he
    rcases List.mem_append.mp he with he | he
    · exact h.made e he
    · obtain ⟨call, -, rfl⟩ := List.mem_map.mp he
      obtain ⟨P, hP, hjob⟩ := hfollows.exists_job (task?_eq_some.mpr ⟨c, hk, hl⟩)
      exact ⟨P, List.mem_of_getElem? hP, job, List.mem_of_getElem? hjob, rfl⟩

/-- **A step** adds the call that it makes. -/
theorem step (h : r.Traces findings options request log) (hfollows : r.Follows findings options request)
    {actor : Actor} (hadvance : r.advance? b options actor = some r') :
    r'.Traces findings options request
      (log ++ (r.asks b options (.advance actor)).map fun call => (r.subjectOf actor, call)) := by
  cases actor with
  | engine =>
      have hnothing : r.asks b options (.advance .engine) = [] := rfl
      rw [hnothing, List.map_nil, List.append_nil]
      refine h.of_quiet fun {k l t} ht => ⟨t.phase, ?_, Or.inl rfl⟩
      rwa [← task?_of_engine hadvance]
  | classTask k =>
      simp only [advance?, Option.bind_eq_bind, Option.bind_eq_some_iff, Option.some.injEq]
        at hadvance
      obtain ⟨c, hk, ⟨c', o'⟩, hadvance, rfl⟩ := hadvance
      obtain ⟨P, -, hclass⟩ := hfollows.exists_plan hk
      obtain ⟨reached, hlinked⟩ := hclass.linked
      obtain ⟨reached', hstep, -⟩ := ClassPlan.taskStep_of_advance hlinked.stage hadvance
      have hnothing : r.asks b options (.advance (.classTask k)) = [] := rfl
      rw [hnothing, List.map_nil, List.append_nil]
      refine h.of_quiet fun {k' l' t} ht => ?_
      rw [task?_setClass hk] at ht
      split at ht
      · next hkk =>
        subst hkk
        obtain ⟨phase, hs, hphase⟩ := hstep.phase_cases ht
        exact ⟨phase, task?_eq_some.mpr ⟨c, hk, hs⟩, hphase⟩
      · exact ⟨t.phase, ht, Or.inl rfl⟩
  | scenarioTask k l =>
      simp only [advance?, Option.bind_eq_bind, Option.bind_eq_some_iff, Option.some.injEq]
        at hadvance
      obtain ⟨c, hk, ⟨c', o'⟩, hadvance, rfl⟩ := hadvance
      obtain ⟨job, phase, phase', scope', hl, hstep, rfl⟩ :=
        ClassRun.scenarioStep_of_advance hadvance
      have htask : r.task? k l = some ⟨job, phase⟩ := task?_eq_some.mpr ⟨c, hk, hl⟩
      rw [asks, subjectOf, htask, Option.elim_some, Option.elim_some]
      exact h.scenario hfollows hk hl hstep

/-- **A scenario that is done** was submitted once; it was turned down, or its stream was asked for
once. -/
theorem of_done (h : r.Traces findings options request log) {job : Job}
    (ht : r.task? k l = some ⟨job, .done⟩) :
    (∃ e, job.subject.callsIn log = [.submit (job.request options) (.error e)]) ∨
      ∃ id, job.subject.callsIn log =
        [.submit (job.request options) (.ok id), .notifications id] := by
  have hcalled := h.called ht
  generalize job.subject.callsIn log = calls at hcalled
  cases hcalled with
  | nothing hphase => exact absurd hphase Bool.false_ne_true
  | refused _ e => exact Or.inl ⟨e, rfl⟩
  | opened _ id => exact Or.inr ⟨id, rfl⟩

end Traces

/-- By its plan a run makes the same calls. -/
lemma asks_foreseen (findings : Findings) {actor : Actor}
    (hadvance : r.advance? b options actor = some r') :
    ((r.foreseen findings).asks b options (.advance actor)).map
        (fun call => ((r.foreseen findings).subjectOf actor, call)) =
      (r.asks b options (.advance actor)).map fun call => (r.subjectOf actor, call) := by
  cases actor with
  | engine => rfl
  | classTask k => rfl
  | scenarioTask k l =>
      simp only [advance?, Option.bind_eq_bind, Option.bind_eq_some_iff] at hadvance
      obtain ⟨c, hk, ⟨c', o'⟩, hadvance, -⟩ := hadvance
      obtain ⟨job, phase, phase', scope', hl, -, -⟩ := ClassRun.scenarioStep_of_advance hadvance
      have htask : r.task? k l = some ⟨job, phase⟩ := task?_eq_some.mpr ⟨c, hk, hl⟩
      simp only [asks, subjectOf, htask, task?_foreseen findings htask]
      rfl

/-- **Every run** has called for each job of its plan what belongs to its phase, if no task is cut
off. -/
theorem traces_of_reaches {choices : List Choice}
    (hreaches : Reaches b options (ofRequest options request s) choices r) (hquiet : Quiet choices)
    (hagree : findings.Agree ((ofRequest options request s).lookups b options choices)) :
    (r.foreseen findings).Traces findings options request
      ((ofRequest options request s).calls b options choices) := by
  refine calls_induct
    (motive := fun r log => (r.foreseen findings).Traces findings options request log) hreaches
    hquiet ?_ ?_
  · rw [foreseen_ofRequest]
    exact traces_planned findings options request s
  intro before r₁ log actor r₂ hbefore hquiet' hfront htraces hadvance
  -- what has been found so far is part of what is found
  obtain ⟨more, rfl⟩ := hfront
  rw [lookups, List.append_assoc, trace_append hbefore] at hagree
  have hbefore' : findings.Agree ((ofRequest options request s).lookups b options before) :=
    hagree.of_subset (List.subset_append_left ..)
  have hfollows := follows_of_proceeds (hbefore.proceeds hquiet' hbefore')
  have hnext : findings.Agree ((ofRequest options request s).lookups b options before ++
      (r₁.lookup? b (.advance actor)).toList) := by
    refine hagree.of_subset (List.append_subset.mpr ⟨List.subset_append_left .., ?_⟩)
    exact List.Subset.trans (List.subset_append_left ..) (List.subset_append_right ..)
  have hstep : r₁.step? b options (.advance actor) = some r₂ := hadvance
  rcases foreseen_of_step (searched_of_reaches hbefore) hnext trivial hstep with
    ⟨k, t, hactor, -, hsame⟩ | hstep
  · -- the task of a class looks for an environment, which is no call
    obtain rfl := Choice.advance.inj hactor
    have hnothing : r₁.asks b options (.advance (.classTask k)) = [] := rfl
    rw [hnothing, List.map_nil, List.append_nil, hsame]
    exact ⟨htraces.called, htraces.made⟩
  · rw [← asks_foreseen findings hadvance]
    exact htraces.step hfollows hstep

end Run

end ScenarioRunner

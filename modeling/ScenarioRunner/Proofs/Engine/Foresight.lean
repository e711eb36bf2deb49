import ScenarioRunner.Proofs.Engine.Search

/-!
# Runs whose searches are known before

A run that looks for environments as it goes is a run that knows from the first step what it is going
to find, except that it makes some steps more.

* `ClassRun.foreseen` is a class when it is known what is going to be found, and `Run.foreseen` a run.
  `Run.foreseen_ofRequest`: before the first step that is its plan.
* `ClassRun.foreseen_of_turn`: what the task of a class does, it does by its plan as well, or it looks
  for an environment and nothing changes by its plan.
* `Run.foreseen_of_step` carries that over to runs, and `Run.foreseen_of_stuck`: a run that is stuck
  is stuck by its plan.
* `Run.Proceeds` relates runs by their plans, and `Run.proceeds_of_reaches`: every run goes by its
  plan.  `Run.Proceeds.induct` gives what each step keeps, for every order of steps.

What lies outside is the same, so that all that is told by the plan is told by the run.
-/

namespace ScenarioRunner

/-- What an action comes to when it is known what is going to be found, and which scenarios run. -/
def ClassAction.foreseen (found : Candidate → Except Error Environment) (group : Nat)
    (jobs : List Job) : ClassAction → List ClassAction
  | .askDefault c | .lookUp c _ =>
    match found c with
    | .ok _ => []
    | .error e => ClassRun.failActions group c e
  | .launch => ClassRun.startAll 0 jobs
  | action => [action]

/-- The scenarios of searches whose environments were found are those that the findings tell. -/
lemma Findings.Agree.jobsOf_eq {findings : Findings} {lookups : List Lookup} {group : Nat}
    (hagree : findings.Agree lookups) (hgroups : ∀ x ∈ lookups, x.group = group) :
    ClassPlan.jobsOf (findings group) group (lookups.map Lookup.candidate) =
      lookups.filterMap Lookup.job? := by
  induction lookups with
  | nil => rfl
  | cons x lookups ih =>
      have hrest := ih (fun y hy => hagree y (List.mem_cons_of_mem _ hy))
        fun y hy => hgroups y (List.mem_cons_of_mem _ hy)
      obtain rfl := hgroups x List.mem_cons_self
      have hx := hagree x List.mem_cons_self
      rw [ClassPlan.jobsOf] at hrest ⊢
      cases hfound : x.found <;> simp [Lookup.job?, hfound, hx, hrest]

namespace ClassAction

variable {found : Candidate → Except Error Environment} {group : Nat} {jobs : List Job}

lemma foreseen_of_plain {action : ClassAction} (hplain : action.IsPlain) :
    action.foreseen found group jobs = [action] := by
  cases action with
  | askDefault c => exact absurd hplain.1 (by simp [candidate?])
  | lookUp c name => exact absurd hplain.1 (by simp [candidate?])
  | launch => exact absurd rfl hplain.2
  | _ => rfl

/-- Actions that do not depend on what is found stay as they are. -/
lemma flatMap_foreseen {actions : List ClassAction}
    (hplain : ∀ action ∈ actions, action.IsPlain) :
    actions.flatMap (foreseen found group jobs) = actions := by
  induction actions with
  | nil => rfl
  | cons action actions ih =>
      rw [List.flatMap_cons, foreseen_of_plain (hplain action List.mem_cons_self),
        ih fun action haction => hplain action (List.mem_cons_of_mem _ haction)]
      rfl

/-- What comes of a search is known by the plan, whichever way it is made. -/
lemma foreseen_of_candidate (found : Candidate → Except Error Environment) (group : Nat)
    (jobs : List Job) {action : ClassAction} {candidate : Candidate}
    (hcandidate : action.candidate? = some candidate) :
    action.foreseen found group jobs =
      match found candidate with
      | .ok _ => []
      | .error e => ClassRun.failActions group candidate e := by
  cases action with
  | askDefault c =>
      obtain rfl := Option.some.inj hcandidate
      rfl
  | lookUp c name =>
      obtain rfl := Option.some.inj hcandidate
      rfl
  | _ => exact absurd hcandidate (by simp [candidate?])

end ClassAction

namespace ClassRun

variable {σ : Type} {b : Backend σ} {options : RunOptions} {c c' : ClassRun} {o o' : Outside σ}
  {findings : Findings} {isSkipped : NodeId → Bool} {lookups : List Lookup}

/-! ## Classes -/

/-- The scenarios of a class that are going to run. -/
def foreseenJobs (findings : Findings) (c : ClassRun) : List Job :=
  ClassPlan.jobsOf (findings c.place) c.place (c.program.filterMap ClassAction.candidate?)

/-- What some actions of a class come to. -/
def foresee (findings : Findings) (c : ClassRun) (actions : List ClassAction) : List ClassAction :=
  actions.flatMap (ClassAction.foreseen (findings c.place) c.place (c.foreseenJobs findings))

/-- **A class when it is known what is going to be found**: its actions come to what they come to, and
the scenarios that are going to run wait. -/
def foreseen (findings : Findings) (c : ClassRun) : ClassRun :=
  { c with
    phase :=
      match c.phase with
      | .running actions => .running (c.foresee findings actions)
      | phase => phase
    program := c.foresee findings c.program
    scenarios :=
      c.scenarios ++
        ((c.foreseenJobs findings).drop c.scenarios.length).map fun job => ⟨job, .waiting⟩ }

lemma foreseen_running (findings : Findings) {actions : List ClassAction}
    (hphase : c.phase = .running actions) :
    (c.foreseen findings).phase = .running (c.foresee findings actions) := by
  rw [foreseen, hphase]

/-- A class with another phase and other scenarios that are the same. -/
lemma eq_of_same {phase : ClassPhase} {scenarios : List ScenarioRun} (hphase : phase = c.phase)
    (hscenarios : scenarios = c.scenarios) :
    { c with phase := phase, scenarios := scenarios } = c := by
  subst hphase hscenarios
  rfl

lemma foreseen_isOver (findings : Findings) (c : ClassRun) :
    (c.foreseen findings).isOver = c.isOver := by
  unfold foreseen isOver
  cases c.phase <;> rfl

lemma foreseen_phase_iff {phase : ClassPhase} (hnot : ∀ actions, phase ≠ .running actions) :
    (c.foreseen findings).phase = phase ↔ c.phase = phase := by
  rw [foreseen]
  cases c.phase with
  | running actions => exact iff_of_false (hnot _).symm (hnot _).symm
  | _ => exact Iff.rfl

lemma foreseen_outcome (findings : Findings) (c : ClassRun) :
    (c.foreseen findings).outcome = c.outcome := by
  unfold foreseen outcome
  cases c.phase <;> rfl

lemma foreseen_begin (findings : Findings) (c : ClassRun) :
    c.begin.foreseen findings = (c.foreseen findings).begin := by
  obtain ⟨place, node, scope, phase, program, scenarios⟩ := c
  cases phase <;> rfl

/-- By its plan a class that has not started is to do what is planned. -/
theorem foreseen_ofNode (findings : Findings) (options : RunOptions) (isSkipped : NodeId → Bool)
    (group : Nat) (node : Node) :
    (ofNode options isSkipped group node).foreseen findings =
      ClassPlan.planned (findings group) options isSkipped group node := by
  have hjobs : (ofNode options isSkipped group node).foreseenJobs findings =
      (ClassPlan.ofNode (findings group) isSkipped group node).jobs :=
    congrArg (ClassPlan.jobsOf (findings group) group) (candidates_actions group node _ _)
  have hresolve : ∀ candidates : List Candidate,
      (candidates.map Candidate.resolve).flatMap (ClassAction.foreseen (findings group) group
        (ClassPlan.ofNode (findings group) isSkipped group node).jobs) =
      (candidates.filterMap (ClassPlan.failing? (findings group))).flatMap fun f =>
        failActions group f.1 f.2 := by
    intro candidates
    induction candidates with
    | nil => rfl
    | cons candidate candidates ih =>
        rw [List.map_cons, List.flatMap_cons, ih,
          ClassAction.foreseen_of_candidate _ _ _ candidate.candidate?_resolve]
        cases hfound : findings group candidate with
        | ok environment =>
            rw [List.filterMap_cons_none (by rw [ClassPlan.failing?, hfound])]
            rfl
        | error e =>
            rw [List.filterMap_cons_some (b := (candidate, e)) (by rw [ClassPlan.failing?, hfound])]
            rfl
  have hprogram : (ofNode options isSkipped group node).foresee findings
      (ofNode options isSkipped group node).program =
        (ClassPlan.ofNode (findings group) isSkipped group node).prelude ++
          (ClassPlan.ofNode (findings group) isSkipped group node).ending 0 := by
    have hskipped : ∀ action ∈ ((Candidate.ofChildren 0 node.children).filter
        fun c => isSkipped c.node.id).map
          (fun c => ClassAction.emit (c.event group (.skipped skipReason))), action.IsPlain := by
      intro action haction
      obtain ⟨c, -, rfl⟩ := List.mem_map.mp haction
      exact ⟨rfl, ClassAction.noConfusion⟩
    rw [foresee, hjobs]
    show List.flatMap (ClassAction.foreseen (findings group) group _) (actions group node _ _) = _
    rw [actions, List.flatMap_append, List.flatMap_append, List.flatMap_append,
      List.flatMap_append, ClassAction.flatMap_foreseen hskipped, hresolve]
    rfl
  rw [foreseen, hprogram, hjobs]
  rfl

/-! ## The steps of a class -/

/-- A change to the phase of a scenario that was started. -/
lemma foreseen_changePhase {k : Nat} (hk : k < c.scenarios.length) (f : Phase → Phase) :
    (c.changePhase k f).foreseen findings = (c.foreseen findings).changePhase k f := by
  have hjobs : (c.changePhase k f).foreseenJobs findings = c.foreseenJobs findings := rfl
  have hscenarios : ((c.changePhase k f).foreseen findings).scenarios =
      ((c.foreseen findings).changePhase k f).scenarios := by
    show List.modify c.scenarios k _ ++ List.map _ (List.drop (List.length (List.modify _ _ _)) _) =
      List.modify (c.scenarios ++ _) k _
    rw [modify_append _ _ hk, List.length_modify, hjobs]
  show ({ c.foreseen findings with scenarios := ((c.changePhase k f).foreseen findings).scenarios } :
    ClassRun) = _
  rw [hscenarios]
  rfl

/-- An action that does not depend on what is found is the same by the plan. -/
lemma act_foreseen {action : ClassAction} {rest : List ClassAction} (hplain : action.IsPlain)
    (hknown : ∀ k, action.target? = some k → k < c.scenarios.length) :
    (c.foreseen findings).act b (c.foresee findings rest) o action =
      (c.act b rest o action).map (Prod.map (foreseen findings) id) := by
  cases action with
  | askDefault candidate => exact absurd hplain.1 (by simp [ClassAction.candidate?])
  | lookUp candidate name => exact absurd hplain.1 (by simp [ClassAction.candidate?])
  | launch => exact absurd rfl hplain.2
  | openGate =>
      simp only [act]
      have hscope : (c.foreseen findings).scope = c.scope := rfl
      rw [hscope]
      split <;> rfl
  | grant k =>
      simp only [act, Option.map_map]
      refine congrArg (Option.map · c.scope.acquire?) (funext fun scope => ?_)
      exact congrArg (·, o) (foreseen_changePhase (c := { c with phase := .running rest, scope })
        (hknown k rfl) _).symm
  | start k =>
      refine congrArg some ?_
      exact congrArg (·, o) (foreseen_changePhase (c := { c with phase := .running rest })
        (hknown k rfl) _).symm
  | awaitAll =>
      simp only [act]
      have hscope : (c.foreseen findings).scope = c.scope := rfl
      rw [hscope]
      split <;> rfl
  | _ => rfl

namespace Searched

/-- The scenarios that a class has found, and those that it is going to find. -/
lemma foreseenJobs_eq (h : c.Searched isSkipped lookups) (hagree : findings.Agree lookups)
    (hrunning : c.phase ≠ .crashed) :
    c.foreseenJobs findings = c.scenarios.map ScenarioRun.job ++
      ClassPlan.jobsOf (findings c.place) c.place (c.todo.filterMap ClassAction.candidate?) := by
  calc c.foreseenJobs findings
      = ClassPlan.jobsOf (findings c.place) c.place
          (lookups.map Lookup.candidate ++ c.todo.filterMap ClassAction.candidate?) := by
        rw [foreseenJobs, h.program, h.ahead hrunning]
    _ = ClassPlan.jobsOf (findings c.place) c.place (lookups.map Lookup.candidate) ++
          ClassPlan.jobsOf (findings c.place) c.place
            (c.todo.filterMap ClassAction.candidate?) := List.filterMap_append ..
    _ = _ := by rw [h.scenarios, hagree.jobsOf_eq h.groups]

end Searched

/-- What is planned after a scenario was searched for. -/
lemma foreseen_settle (h : c.Searched isSkipped lookups) {action : ClassAction}
    {candidate : Candidate} {rest : List ClassAction} {found : Except Error Environment}
    (hagree : findings.Agree (lookups ++ [⟨c.place, candidate, found⟩]))
    (hphase : c.phase = .running (action :: rest)) (hcandidate : action.candidate? = some candidate) :
    (c.settle rest candidate found).foreseen findings = c.foreseen findings := by
  have hfound : findings c.place candidate = found :=
    hagree ⟨c.place, candidate, found⟩ (List.mem_append_right _ (List.mem_singleton.mpr rfl))
  have haction := ClassAction.foreseen_of_candidate (findings c.place) c.place
    (c.foreseenJobs findings) hcandidate
  rw [hfound] at haction
  have hactions : c.foresee findings (action :: rest) =
      action.foreseen (findings c.place) c.place (c.foreseenJobs findings) ++
        c.foresee findings rest := List.flatMap_cons
  cases found with
  | error e =>
      have hplain : ∀ action ∈ failActions c.place candidate e, action.IsPlain :=
        fun action h => (cases_of_mem_failActions h).1
      have hphase' : (c.foreseen findings).phase =
          .running (c.foresee findings (failActions c.place candidate e ++ rest)) := by
        rw [foreseen_running findings hphase, hactions, haction, foresee, foresee, List.flatMap_append,
          ClassAction.flatMap_foreseen hplain]
      exact eq_of_same hphase'.symm rfl
  | ok environment =>
      have hjobs := h.foreseenJobs_eq (hagree.of_subset (List.subset_append_left ..))
        (by simp [hphase])
      rw [Searched.todo_of_running hphase, List.filterMap_cons_some hcandidate, ClassPlan.jobsOf,
        List.filterMap_cons_some (b := candidate.job c.place environment) (by rw [hfound])] at hjobs
      have hphase' : (c.foreseen findings).phase = .running (c.foresee findings rest) := by
        rw [foreseen_running findings hphase, hactions, haction, List.nil_append]
      obtain ⟨others, hothers⟩ : ∃ others, c.foreseenJobs findings =
          c.scenarios.map ScenarioRun.job ++ candidate.job c.place environment :: others :=
        ⟨_, hjobs⟩
      have hbefore : (c.foreseenJobs findings).drop c.scenarios.length =
          candidate.job c.place environment :: others := by
        rw [hothers]
        exact List.drop_left' (List.length_map _)
      have hbehind : (c.foreseenJobs findings).drop (c.scenarios.length + 1) = others := by
        rw [← List.drop_drop, hbefore, List.drop_one, List.tail_cons]
      have hscenarios : ((c.settle rest candidate (.ok environment)).foreseen findings).scenarios =
          (c.foreseen findings).scenarios := by
        show (c.scenarios ++ [_]) ++ ((c.foreseenJobs findings).drop
          (c.scenarios ++ [_]).length).map _ = _
        rw [List.length_append, List.length_singleton, hbehind, foreseen, hbefore, List.append_assoc]
        rfl
      exact eq_of_same hphase'.symm hscenarios

/-- **What the task of a class does** it does by its plan as well, or it looks for an environment, and
by the plan nothing changes. -/
theorem foreseen_of_turn (h : c.Searched isSkipped lookups) {found? : Option Lookup}
    (hagree : findings.Agree (lookups ++ found?.toList)) (hturn : c.TaskTurn b o c' o' found?) :
    (c'.foreseen findings = c.foreseen findings ∧
        ∃ s, b.Consults o.backend s ∧ o' = { o with backend := s }) ∨
      (c.foreseen findings).advance? b o = some (c'.foreseen findings, o') := by
  cases hturn with
  | @asked candidate name rest s hphase hasked =>
      refine Or.inl ⟨?_, s, .asked hasked, rfl⟩
      have hphase' := foreseen_running findings hphase
      exact eq_of_same hphase'.symm rfl
  | settled hphase hcandidate hconsults =>
      exact Or.inl ⟨foreseen_settle h hagree hphase hcandidate, _, hconsults, rfl⟩
  | @launched rest hphase =>
      refine Or.inl ⟨?_, o.backend, .nothing, rfl⟩
      have hends := h.ends
      have hjobs := h.foreseenJobs_eq (hagree.of_subset (List.subset_append_left ..))
        (by simp [hphase])
      -- no search is left
      rw [Searched.todo_of_running hphase] at hends hjobs
      have hnone : (ClassAction.launch :: rest).filterMap ClassAction.candidate? = [] :=
        List.filterMap_eq_nil_iff.mpr fun action haction => by
          rcases List.mem_cons.mp haction with rfl | haction
          · rfl
          · exact (List.pairwise_cons.mp hends).1 action haction (Or.inl rfl)
      rw [hnone, ClassPlan.jobsOf, List.filterMap_nil, List.append_nil] at hjobs
      have hplain : ∀ action ∈ startAll 0 (c.scenarios.map ScenarioRun.job), action.IsPlain :=
        fun action h => (cases_of_mem_startAll h).1
      have hphase' : (c.foreseen findings).phase =
          .running (c.foresee findings (startAll 0 (c.scenarios.map ScenarioRun.job) ++ rest)) := by
        rw [foreseen_running findings hphase, foresee, foresee, List.flatMap_append,
          ClassAction.flatMap_foreseen hplain, List.flatMap_cons, ← hjobs]
        rfl
      exact eq_of_same hphase'.symm rfl
  | @plain action rest _ _ hphase hplain hact =>
      refine Or.inr ?_
      have hknown := h.known
      rw [Searched.todo_of_running hphase] at hknown
      have hphase' : (c.foreseen findings).phase =
          .running (action :: c.foresee findings rest) := by
        rw [foreseen_running findings hphase, foresee, List.flatMap_cons, ClassAction.foreseen_of_plain hplain]
        rfl
      rw [advance?, hphase']
      show act b (c.foreseen findings) (c.foresee findings rest) o action = _
      rw [act_foreseen hplain (hknown action List.mem_cons_self), hact]
      rfl

/-- A class whose task cannot go on cannot by its plan. -/
lemma foreseen_of_none (h : c.Searched isSkipped lookups) (hnone : c.advance? b o = none) :
    (c.foreseen findings).advance? b o = none := by
  cases hphase : c.phase with
  | running actions =>
      cases actions with
      | nil => rw [advance?, foreseen_running findings hphase, foresee, List.flatMap_nil]
      | cons action rest =>
          rw [advance?, hphase] at hnone
          have hplain : action.IsPlain := by
            cases action with
            | askDefault candidate => exact absurd hnone (by simp [act])
            | lookUp candidate name => exact absurd hnone (by simp [act])
            | launch => exact absurd hnone (by simp [act])
            | _ => exact ⟨rfl, ClassAction.noConfusion⟩
          have hknown := h.known
          rw [Searched.todo_of_running hphase] at hknown
          rw [advance?, foreseen_running findings hphase, foresee, List.flatMap_cons,
            ClassAction.foreseen_of_plain hplain]
          show act b (c.foreseen findings) (c.foresee findings rest) o action = _
          rw [act_foreseen hplain (hknown action List.mem_cons_self)]
          exact congrArg _ hnone
  | _ => rw [advance?, foreseen, hphase]

/-- A scenario that was found is the same by the plan, and the others wait. -/
lemma foreseen_getElem? (findings : Findings) (c : ClassRun) (l : Nat) :
    (c.foreseen findings).scenarios[l]? = c.scenarios[l]? ∨
      c.scenarios[l]? = none ∧
        ∃ job, (c.foreseen findings).scenarios[l]? = some ⟨job, .waiting⟩ := by
  rw [foreseen]
  rcases Nat.lt_or_ge l c.scenarios.length with hlt | hge
  · exact Or.inl (List.getElem?_append_left hlt)
  · rw [List.getElem?_append_right hge, List.getElem?_map, List.getElem?_eq_none hge]
    cases ((c.foreseenJobs findings).drop c.scenarios.length)[l - c.scenarios.length]? with
    | none => exact Or.inl rfl
    | some job => exact Or.inr ⟨rfl, job, rfl⟩

/-- When no search is left, the scenarios of a class are those that were found. -/
lemma foreseen_scenarios (h : c.Searched isSkipped lookups) (hagree : findings.Agree lookups)
    (hrunning : c.phase ≠ .crashed) (hnone : c.todo.filterMap ClassAction.candidate? = []) :
    (c.foreseen findings).scenarios = c.scenarios := by
  rw [foreseen, h.foreseenJobs_eq hagree hrunning, hnone, ClassPlan.jobsOf, List.filterMap_nil,
    List.append_nil, List.drop_eq_nil_of_le (by simp)]
  exact List.append_nil _

/-- A scenario in another phase. -/
lemma foreseen_setPhase (findings : Findings) {s : ScenarioRun} {l : Nat}
    (hl : c.scenarios[l]? = some s) (phase : Phase)
    (scope : ClassScope) :
    ({ c with scope := scope }.setPhase l phase).foreseen findings =
      { c.foreseen findings with scope := scope }.setPhase l phase :=
  foreseen_changePhase (c := { c with scope := scope }) (List.getElem?_eq_some_iff.mp hl).1 _

/-- The task of a scenario does the same by the plan. -/
lemma advanceScenario?_foreseen (b : Backend σ) (options : RunOptions) (c : ClassRun) (l : Nat)
    (o : Outside σ) :
    (c.foreseen findings).advanceScenario? b options l o =
      (c.advanceScenario? b options l o).map (Prod.map (foreseen findings) id) := by
  rcases foreseen_getElem? findings c l with hsame | ⟨hnone, job, hwaiting⟩
  · unfold advanceScenario?
    rw [hsame]
    cases hl : c.scenarios[l]? with
    | none => rfl
    | some s =>
        obtain ⟨job, phase⟩ := s
        have hset : ∀ (phase : Phase) (scope : ClassScope) (o' : Outside σ),
            some ({ c.foreseen findings with scope := scope }.setPhase l phase, o') =
              (some ({ c with scope := scope }.setPhase l phase, o')).map
                (Prod.map (foreseen findings) id) := fun phase scope o' =>
          congrArg (fun c => some (c, o')) (foreseen_setPhase findings hl phase scope).symm
        cases phase with
        | waiting | granted | done => rfl
        | submitting =>
            simp only [submitScenario]
            cases b.submit job.source.definition job.environment options.constants
              job.source.definition.defaultDataset o.backend with
            | mk answer s => cases answer <;> exact hset _ c.scope _
        | «opening» id =>
            simp only [openScenario]
            cases b.notifications id o.backend with
            | mk got s => cases got <;> exact hset _ c.scope _
        | acting actions =>
            cases actions with
            | nil => exact hset _ c.scope _
            | cons action rest =>
                cases action with
                | leave verdict => exact hset _ _ _
                | _ => exact hset _ c.scope _
        | telling reason => exact hset _ c.scope _
        | _ => exact hset _ _ _
  · unfold advanceScenario?
    rw [hwaiting, hnone]
    rfl

/-- A scenario is cut off by the plan as well. -/
lemma crashScenario?_foreseen (c : ClassRun) (l : Nat) (reason : String) :
    (c.foreseen findings).crashScenario? l reason =
      (c.crashScenario? l reason).map (foreseen findings) := by
  rcases foreseen_getElem? findings c l with hsame | ⟨hnone, job, hwaiting⟩
  · unfold crashScenario? phaseAt
    rw [hsame]
    cases hl : c.scenarios[l]? with
    | none => rfl
    | some s =>
        obtain ⟨job, phase⟩ := s
        have hset := fun phase => foreseen_setPhase findings hl phase c.scope
        cases phase with
        | telling => exact congrArg some (hset _).symm
        | acting actions =>
            cases actions with
            | nil => rfl
            | cons => exact congrArg some (hset _).symm
        | submitting | «opening» => exact congrArg some (hset _).symm
        | _ => rfl
  · unfold crashScenario? phaseAt
    rw [hwaiting, hnone]
    rfl

end ClassRun

namespace Run

variable {σ : Type} {b : Backend σ} {options : RunOptions} {request : RunRequest} {r r' : Run σ}
  {findings : Findings} {found : List Lookup} {choices : List Choice}
  {allowed allowed' : Run σ → Choice → Prop}

/-! ## Runs -/

/-- **A run when it is known what is going to be found.** -/
def foreseen (findings : Findings) (r : Run σ) : Run σ :=
  { r with classes := r.classes.map (ClassRun.foreseen findings) }

/-- Before the first step that is the plan of the run. -/
theorem foreseen_ofRequest (findings : Findings) (options : RunOptions) (request : RunRequest)
    (s : σ) : (ofRequest options request s).foreseen findings =
      planned findings options request s := by
  rw [foreseen, planned, RunRequest.classes_ofRequest, List.map_map]
  exact congrArg (fun classes : List ClassRun => ({ ofRequest options request s with classes } : Run σ))
    (List.map_congr_left fun p _ => ClassRun.foreseen_ofNode ..)

lemma foreseen_verdict (findings : Findings) (r : Run σ) :
    (r.foreseen findings).verdict = r.verdict := by
  rw [verdict, verdict, foreseen, List.foldl_map]
  simp only [ClassRun.foreseen_outcome]

/-- By its plan no other class is cut off. -/
lemma foreseen_phase_ne_crashed (findings : Findings) (r : Run σ) :
    (∀ c ∈ (r.foreseen findings).classes, c.phase ≠ .crashed) ↔
      ∀ c ∈ r.classes, c.phase ≠ .crashed := by
  rw [foreseen, List.forall_mem_map]
  exact forall₂_congr fun c _ => not_congr (ClassRun.foreseen_phase_iff (by simp))

lemma foreseen_setClass {k : Nat} {c : ClassRun} {o : Outside σ} :
    ({ r.setClass k c with outside := o } : Run σ).foreseen findings =
      { (r.foreseen findings).setClass k (c.foreseen findings) with outside := o } := by
  rw [foreseen, setClass, setClass, List.map_set]
  rfl

lemma foreseen_getElem? (findings : Findings) {k : Nat} {c : ClassRun}
    (hk : r.classes[k]? = some c) :
    (r.foreseen findings).classes[k]? = some (c.foreseen findings) := by
  rw [foreseen, List.getElem?_map, hk]
  rfl

/-- The engine does the same by the plan. -/
lemma act_foreseen (findings : Findings) (r : Run σ) (rest : List EngineAction)
    (action : EngineAction) :
    (r.foreseen findings).act rest action = (r.act rest action).map (foreseen findings) := by
  cases action with
  | emit e => rfl
  | start k =>
      have hclasses : (r.foreseen findings).classes.modify k ClassRun.begin =
          (r.classes.modify k ClassRun.begin).map (ClassRun.foreseen findings) := by
        refine List.ext_getElem? fun i => ?_
        rw [foreseen, List.getElem?_modify, List.getElem?_map, List.getElem?_map,
          List.getElem?_modify]
        cases r.classes[i]? with
        | none => rfl
        | some c => by_cases hki : k = i <;> simp [hki, ClassRun.foreseen_begin]
      rw [act, hclasses]
      rfl
  | awaitAll =>
      have hover : (r.foreseen findings).classes.all ClassRun.isOver =
          r.classes.all ClassRun.isOver := by
        rw [foreseen, List.all_map]
        exact congrArg r.classes.all (funext (ClassRun.foreseen_isOver findings))
      simp only [act, hover]
      split <;> rfl
  | close =>
      rw [act, foreseen_verdict]
      rfl

/-- The engine goes on by the plan as well. -/
lemma advance_engine_foreseen (findings : Findings) (b : Backend σ) (options : RunOptions)
    (r : Run σ) :
    (r.foreseen findings).advance? b options .engine =
      (r.advance? b options .engine).map (foreseen findings) := by
  have hactions : (r.foreseen findings).actions = r.actions := rfl
  rw [advance?, advance?, hactions]
  cases r.actions with
  | nil => rfl
  | cons action rest => exact act_foreseen findings r rest action

/-- **What a run does** it does by its plan as well, or the task of a class looks for an environment,
and by the plan nothing changes but the state of the backend. -/
theorem foreseen_of_step (h : r.Searched request found) {choice : Choice}
    (hagree : findings.Agree (found ++ (r.lookup? b choice).toList)) (hmild : choice.IsMild)
    (hstep : r.step? b options choice = some r') :
    (∃ k s, choice = .advance (.classTask k) ∧ b.Consults r.outside.backend s ∧
        r'.foreseen findings =
          { r.foreseen findings with outside := { r.outside with backend := s } }) ∨
      (r.foreseen findings).step? b options choice = some (r'.foreseen findings) := by
  cases choice with
  | advance actor =>
      cases actor with
      | engine =>
          rw [step?] at hstep
          exact Or.inr (by rw [step?, advance_engine_foreseen, hstep, Option.map_some])
      | classTask k =>
          rw [step?] at hstep
          obtain ⟨c, c', o', hk, hadvance, rfl⟩ := advance_classTask_iff.mp hstep
          have hturn := ClassRun.taskTurn_of_advance hadvance
          rw [lookup?, hk, Option.bind_some] at hagree
          obtain ⟨p, -, -, hplace, hsearched⟩ := h.exists_placed hk
          have hown : findings.Agree
              (found.filter (fun x => x.group == p.2) ++ (c.lookup? b r.outside.backend).toList) :=
            hagree.of_subset (List.append_subset.mpr
              ⟨List.Subset.trans List.filter_sublist.subset (List.subset_append_left ..),
                List.subset_append_right ..⟩)
          rcases ClassRun.foreseen_of_turn hsearched hown hturn with
            ⟨hsame, s, hconsults, rfl⟩ | hforeseen
          · refine Or.inl ⟨k, s, rfl, hconsults, ?_⟩
            obtain ⟨hlt, hget⟩ := List.getElem?_eq_some_iff.mp (foreseen_getElem? findings hk)
            rw [foreseen_setClass, hsame, setClass, ← hget, List.set_getElem_self]
          · refine Or.inr ?_
            have hadvance : (c.foreseen findings).advance? b (r.foreseen findings).outside =
                some (c'.foreseen findings, o') := hforeseen
            rw [step?, advance_classTask (foreseen_getElem? findings hk), hadvance,
              foreseen_setClass, Option.map_some]
      | scenarioTask k l =>
          rw [step?] at hstep
          obtain ⟨c, c', o', hk, hadvance, rfl⟩ := advance_scenarioTask_iff.mp hstep
          refine Or.inr ?_
          have hforeseen : (c.foreseen findings).advanceScenario? b options l
              (r.foreseen findings).outside = some (c'.foreseen findings, o') :=
            (ClassRun.advanceScenario?_foreseen ..).trans (congrArg _ hadvance)
          rw [step?, advance_scenarioTask (foreseen_getElem? findings hk), hforeseen,
            foreseen_setClass, Option.map_some]
  | crash actor reason =>
      cases actor with
      | engine => exact hmild.elim
      | classTask k => exact hmild.elim
      | scenarioTask k l =>
          rw [step?] at hstep
          obtain ⟨c, c', hk, hcrash, rfl⟩ := crash_scenarioTask_iff.mp hstep
          refine Or.inr ?_
          rw [step?, crash_scenarioTask (foreseen_getElem? findings hk),
            ClassRun.crashScenario?_foreseen, hcrash]
          exact congrArg some foreseen_setClass.symm

/-- A run that is stuck is stuck by its plan. -/
theorem foreseen_of_stuck (h : r.Searched request found) (hstuck : r.Stuck b options) :
    (r.foreseen findings).Stuck b options := by
  intro actor
  cases actor with
  | engine => rw [advance_engine_foreseen, hstuck .engine, Option.map_none]
  | classTask k =>
      cases hk : r.classes[k]? with
      | none => simp [advance?, foreseen, hk]
      | some c =>
          obtain ⟨p, -, -, -, hsearched⟩ := h.exists_placed hk
          have hclass : (c.foreseen findings).advance? b (r.foreseen findings).outside = none :=
            ClassRun.foreseen_of_none hsearched (hstuck.classTask hk)
          rw [advance_classTask (foreseen_getElem? findings hk), hclass, Option.map_none]
  | scenarioTask k l =>
      cases hk : r.classes[k]? with
      | none => simp [advance?, foreseen, hk]
      | some c =>
          have hclass : (c.foreseen findings).advanceScenario? b options l
              (r.foreseen findings).outside = none :=
            (ClassRun.advanceScenario?_foreseen ..).trans (congrArg _ (hstuck.scenarioTask hk l))
          rw [advance_scenarioTask (foreseen_getElem? findings hk), hclass, Option.map_none]

/-! ## Runs by their plans -/

/-- Choices lead from a run to another one by their plan: each of them is allowed where it is made, or
the task of a class looks for an environment. -/
inductive Proceeds (allowed : Run σ → Choice → Prop) (b : Backend σ) (options : RunOptions) :
    Run σ → List Choice → Run σ → Prop where
  | refl (r : Run σ) : Proceeds allowed b options r [] r
  | step {r r' r'' : Run σ} {choice : Choice} {choices : List Choice} (hallowed : allowed r choice)
    (first : r.step? b options choice = some r')
    (rest : Proceeds allowed b options r' choices r'') :
    Proceeds allowed b options r (choice :: choices) r''
  | consult {r r' : Run σ} {k : Nat} {s : σ} {choices : List Choice}
    (hconsults : b.Consults r.outside.backend s)
    (rest : Proceeds allowed b options { r with outside := { r.outside with backend := s } } choices
      r') :
    Proceeds allowed b options r (.advance (.classTask k) :: choices) r'

namespace Proceeds

/-- **Whichever way tasks are scheduled**, what each step keeps is true at the end. -/
theorem induct {motive : Run σ → Prop} (hproceeds : Proceeds allowed b options r choices r')
    (hfirst : motive r)
    (hstep : ∀ {r r' choice}, motive r → allowed r choice → r.step? b options choice = some r' →
      motive r')
    (hconsult : ∀ {r s}, motive r → b.Consults r.outside.backend s →
      motive { r with outside := { r.outside with backend := s } }) : motive r' := by
  induction hproceeds with
  | refl => exact hfirst
  | step hallowed first _ ih => exact ih (hstep hfirst hallowed first)
  | consult hconsults _ ih => exact ih (hconsult hfirst hconsults)

/-- A run in which a task is cut off comes to the moment at which it is, and goes on from there. -/
lemma exists_of_crash {actor : Actor} {reason : String}
    (hproceeds : Proceeds allowed b options r choices r') (hmem : .crash actor reason ∈ choices) :
    ∃ before s s' after, Proceeds allowed b options r before s ∧ allowed s (.crash actor reason) ∧
      s.step? b options (.crash actor reason) = some s' ∧
        Proceeds allowed b options s' after r' := by
  induction hproceeds with
  | refl => exact absurd hmem List.not_mem_nil
  | @step r r' _ first choices hallowed hstep rest ih =>
      rcases List.mem_cons.mp hmem with rfl | hmem
      · exact ⟨[], r, r', choices, .refl r, hallowed, hstep, rest⟩
      · obtain ⟨before, s, s', after, hbefore, hmade⟩ := ih hmem
        exact ⟨first :: before, s, s', after, .step hallowed hstep hbefore, hmade⟩
  | @consult r _ k s choices hconsults rest ih =>
      obtain ⟨before, s, s', after, hbefore, hmade⟩ :=
        ih ((List.mem_cons.mp hmem).resolve_left Choice.noConfusion)
      exact ⟨.advance (.classTask k) :: before, s, s', after, .consult hconsults hbefore, hmade⟩

end Proceeds

/-- A run that has searched for what it is known to find goes by its plan. -/
lemma Searched.proceeds (h : r.Searched request found)
    (hreaches : ReachesBy allowed b options r choices r')
    (hagree : findings.Agree (found ++ r.lookups b options choices))
    (hallowed : ∀ {r choice}, allowed r choice →
      choice.IsMild ∧ allowed' (r.foreseen findings) choice) :
    Proceeds allowed' b options (r.foreseen findings) choices (r'.foreseen findings) := by
  induction hreaches generalizing found with
  | refl r => exact .refl _
  | @step r r' r'' choice choices hallowed' first rest ih =>
      have hlookups : r.lookups b options (choice :: choices) =
          (r.lookup? b choice).toList ++ r'.lookups b options choices := by
        rw [lookups, trace, first]
        rfl
      rw [hlookups, ← List.append_assoc] at hagree
      have hrest := ih (h.step first) hagree
      obtain ⟨hmild, hplanned⟩ := hallowed hallowed'
      rcases foreseen_of_step h (hagree.of_subset (List.subset_append_left ..)) hmild first with
        ⟨k, s, rfl, hconsults, hsame⟩ | hstep
      · rw [hsame] at hrest
        exact .consult hconsults hrest
      · exact .step hplanned hstep hrest

/-- **Every run goes by its plan**, for findings that agree with its searches. -/
theorem proceeds_of_reaches {s : σ}
    (hreaches : ReachesBy allowed b options (ofRequest options request s) choices r)
    (hagree : findings.Agree ((ofRequest options request s).lookups b options choices))
    (hallowed : ∀ {r choice}, allowed r choice →
      choice.IsMild ∧ allowed' (r.foreseen findings) choice) :
    Proceeds allowed' b options (planned findings options request s) choices
      (r.foreseen findings) := by
  rw [← foreseen_ofRequest]
  exact (searched_ofRequest options request s).proceeds hreaches hagree hallowed

/-- A run in which no task is cut off goes by its plan. -/
lemma Reaches.proceeds {s : σ} (hreaches : Reaches b options (ofRequest options request s) choices r)
    (hquiet : Quiet choices)
    (hagree : findings.Agree ((ofRequest options request s).lookups b options choices)) :
    Proceeds (fun _ => Choice.IsQuiet) b options (planned findings options request s) choices
      (r.foreseen findings) := by
  refine proceeds_of_reaches (hreaches.reachesBy hquiet) hagree ?_
  rintro _ _ ⟨actor, rfl⟩
  exact ⟨trivial, actor, rfl⟩

/-- Some findings agree with the searches of a run, and a run that is stuck is stuck by its plan. -/
lemma Reaches.exists_findings {s : σ}
    (hreaches : Reaches b options (ofRequest options request s) choices r) :
    ∃ findings : Findings,
      findings.Agree ((ofRequest options request s).lookups b options choices) ∧
        (r.Stuck b options → (r.foreseen findings).Stuck b options) := by
  have hsearched := searched_of_reaches hreaches
  obtain ⟨findings, hagree⟩ := hsearched.exists_findings
  exact ⟨findings, hagree, foreseen_of_stuck hsearched⟩

/-- A run in which no task is cut off goes by its plan for some findings, and it is stuck by its plan
when it is. -/
lemma Reaches.exists_proceeds {s : σ}
    (hreaches : Reaches b options (ofRequest options request s) choices r)
    (hquiet : Quiet choices) :
    ∃ findings : Findings,
      Proceeds (fun _ => Choice.IsQuiet) b options (planned findings options request s) choices
          (r.foreseen findings) ∧
        (r.Stuck b options → (r.foreseen findings).Stuck b options) := by
  obtain ⟨findings, hagree, hstuck⟩ := hreaches.exists_findings
  exact ⟨findings, hreaches.proceeds hquiet hagree, hstuck⟩

end Run

end ScenarioRunner

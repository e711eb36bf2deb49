import ScenarioRunner.Proofs.Engine.Counts
import ScenarioRunner.Proofs.Engine.Numbers
import ScenarioRunner.Proofs.Engine.Verdicts

/-!
# Runs on backends with fixed answers

What a backend with fixed answers owes to the tasks of a run, and what the run keeps of its classes
for it.

* `Job.answers` are the answers that the task of a job may get.
* `Backend.Steady.findings` is what is found on such a backend, and `Run.agree_steady`: all searches
  of a run find that.  `Run.served_planned` starts from the plan that they make.
* `Run.Served`: every task that is about to ask for a stream is owed the answer to its scenario, under
  a number of its own, and the scenarios that are not submitted can be.
* `Run.Served.replies`: what a task is told next is the answer to its scenario.
* `Run.keeps_served_of_reaches`: every run in which no task is cut off keeps both.
-/

namespace ScenarioRunner

/-- What the task of a job may get of the answer to its scenario. -/
def Job.answers (answer : Scenario → Environment → Answer) (job : Job)
    (opened : Except Error (ExecutionId × List Item)) : Prop :=
  (answer job.source.definition job.environment).Gives opened

lemma Job.settled_answers (answer : Scenario → Environment → Answer) :
    Job.Settled (Job.answers answer) :=
  fun job _ _ h h' => job.verdict_eq h h'

namespace Phase

/-- The scenario has not been submitted. -/
def isUnsubmitted : Phase → Bool
  | waiting | granted | submitting => true
  | _ => false

lemma isUnsubmitted_grant (phase : Phase) : phase.grant.isUnsubmitted = phase.isUnsubmitted := by
  cases phase <;> rfl

lemma isUnsubmitted_start (phase : Phase) : phase.start.isUnsubmitted = phase.isUnsubmitted := by
  cases phase <;> rfl

lemma grant_eq_opening {phase : Phase} {id : ExecutionId} (h : phase.grant = .opening id) :
    phase = .opening id := by
  cases phase <;> first | exact h | exact absurd h Phase.noConfusion

lemma start_eq_opening {phase : Phase} {id : ExecutionId} (h : phase.start = .opening id) :
    phase = .opening id := by
  cases phase <;> first | exact h | exact absurd h Phase.noConfusion

end Phase

namespace ClassRun

variable {σ : Type} {c c' : ClassRun} {o o' : Outside σ}

/-- The number of scenarios that have not been submitted. -/
def unsubmitted (c : ClassRun) : Nat :=
  total (fun s => s.phase.isUnsubmitted.toNat) c.scenarios

/-- At first no scenario has been submitted. -/
lemma unsubmitted_planned (found : Candidate → Except Error Environment) (options : RunOptions)
    (isSkipped : NodeId → Bool) (group : Nat) (node : Node) :
    (ClassPlan.planned found options isSkipped group node).unsubmitted =
      (ClassPlan.ofNode found isSkipped group node).jobs.length := by
  have hlength := congrArg List.length
    (ClassPlan.linked_planned found options isSkipped group node).jobs
  rw [List.length_map] at hlength
  rw [unsubmitted, total_const (n := 1), hlength, Nat.mul_one]
  intro s hs
  obtain ⟨l, hl⟩ := List.getElem?_of_mem hs
  rw [ClassPlan.phase_planned found options isSkipped group node hl]
  rfl

end ClassRun

namespace ClassPlan.TaskStep

variable {σ : Type} {P : ClassPlan} {c c' : ClassRun} {o o' : Outside σ}
  {reached reached' : Reached}

/-- The task of a class leaves the phases of its scenarios alone, gives a permit or starts one. -/
lemma phase_cases (hstep : P.TaskStep c o reached c' o' reached') {l : Nat} {s : ScenarioRun}
    (hl : c'.scenarios[l]? = some s) :
    ∃ phase, c.scenarios[l]? = some ⟨s.job, phase⟩ ∧
      (s.phase = phase ∨ s.phase = phase.grant ∨ s.phase = phase.start) := by
  have hchange : ∀ (k : Nat) (f : Phase → Phase), (c.changePhase k f).scenarios[l]? = some s →
      ∃ phase, c.scenarios[l]? = some ⟨s.job, phase⟩ ∧ (s.phase = phase ∨ s.phase = f phase) := by
    intro k f hl
    rw [ClassRun.getElem?_changePhase, Option.map_eq_some_iff] at hl
    obtain ⟨⟨job, phase⟩, hs, rfl⟩ := hl
    refine ⟨phase, ?_, ?_⟩
    · rw [hs]
      split <;> rfl
    · split
      · exact Or.inr rfl
      · exact Or.inl rfl
  cases hstep with
  | granted =>
      obtain ⟨phase, hs, hphase⟩ := hchange _ _ hl
      exact ⟨phase, hs, hphase.imp_right Or.inl⟩
  | launched =>
      obtain ⟨phase, hs, hphase⟩ := hchange _ _ hl
      exact ⟨phase, hs, hphase.imp_right Or.inr⟩
  | _ => exact ⟨s.phase, hl, Or.inl rfl⟩

lemma opening_of_opening (hstep : P.TaskStep c o reached c' o' reached') {l : Nat} {job : Job}
    {id : ExecutionId} (hl : c'.scenarios[l]? = some ⟨job, .opening id⟩) :
    c.scenarios[l]? = some ⟨job, .opening id⟩ := by
  obtain ⟨phase, hs, hphase⟩ := hstep.phase_cases hl
  obtain rfl : phase = .opening id := by
    rcases hphase with hphase | hphase | hphase
    · exact hphase.symm
    · exact Phase.grant_eq_opening hphase.symm
    · exact Phase.start_eq_opening hphase.symm
  exact hs

end ClassPlan.TaskStep

namespace Run

variable {σ : Type} {b : Backend σ} {answer : Scenario → Environment → Answer}
  {options : RunOptions} {request : RunRequest} {r r' : Run σ} {c c' : ClassRun}
  {k k' l l' : Nat} {job job' : Job} {id id' : ExecutionId}

/-- The number of scenarios that have not been submitted. -/
def unsubmitted (r : Run σ) : Nat :=
  total ClassRun.unsubmitted r.classes

/-- The task of a scenario is about to ask for the stream of an execution. -/
def Opens (r : Run σ) (k l : Nat) (job : Job) (id : ExecutionId) : Prop :=
  ∃ c, r.classes[k]? = some c ∧ c.scenarios[l]? = some ⟨job, .opening id⟩

/-- **The tasks of a run are served** by a backend with fixed answers. -/
structure Served (h : b.Steady answer) (r : Run σ) : Prop where
  /-- The scenarios that have not been submitted can be. -/
  ready : h.ready r.unsubmitted r.outside.backend
  /-- A task that asks for a stream is owed the answer to its scenario. -/
  owed : ∀ {k l : Nat} {job : Job} {id : ExecutionId}, r.Opens k l job id →
    h.owed r.outside.backend id = some (answer job.source.definition job.environment)
  /-- No two tasks ask for one stream. -/
  apart : ∀ {k l k' l' : Nat} {job job' : Job} {id : ExecutionId}, r.Opens k l job id →
    r.Opens k' l' job' id → k = k' ∧ l = l'

/-! ## What a step of a class changes -/

/-- The run behind a turn of a scenario. -/
lemma unsubmitted_setPhase (hk : r.classes[k]? = some c) {phase : Phase}
    (hl : c.scenarios[l]? = some ⟨job, phase⟩) (phase' : Phase) (scope' : ClassScope)
    (o' : Outside σ) :
    ({ r.setClass k ({ c with scope := scope' }.setPhase l phase') with outside := o' } :
        Run σ).unsubmitted + phase.isUnsubmitted.toNat =
      r.unsubmitted + phase'.isUnsubmitted.toNat :=
  counts_setPhase (f := fun phase => phase.isUnsubmitted.toNat) hk hl phase' scope' o'

lemma opens_setClass (hk : r.classes[k]? = some c) (c' : ClassRun) (o' : Outside σ) :
    ({ r.setClass k c' with outside := o' } : Run σ).Opens k' l' job' id' ↔
      (k' = k ∧ c'.scenarios[l']? = some ⟨job', .opening id'⟩) ∨
        (k' ≠ k ∧ r.Opens k' l' job' id') := by
  have hlt := (List.getElem?_eq_some_iff.mp hk).1
  unfold Opens
  by_cases hkk : k' = k
  · subst hkk
    simp [setClass, hlt]
  · simp [setClass, hkk, Ne.symm hkk]

lemma opens_setPhase (hk : r.classes[k]? = some c) {phase phase' : Phase} {scope' : ClassScope}
    {o' : Outside σ} (hl : c.scenarios[l]? = some ⟨job, phase⟩)
    (hopens : ({ r.setClass k ({ c with scope := scope' }.setPhase l phase') with outside := o' } :
        Run σ).Opens k' l' job' id') :
    (k' = k ∧ l' = l ∧ job' = job ∧ phase' = .opening id') ∨
      (¬ (k' = k ∧ l' = l) ∧ r.Opens k' l' job' id') := by
  rcases (opens_setClass hk _ o').mp hopens with ⟨rfl, hopening⟩ | ⟨hne, hopens⟩
  · rcases ClassRun.eq_or_of_changePhase (c := { c with scope := scope' }) hl hopening with
      ⟨rfl, heq⟩ | ⟨hll, hs⟩
    · obtain ⟨rfl, hphase⟩ := ScenarioRun.mk.inj heq
      exact Or.inl ⟨rfl, rfl, rfl, hphase.symm⟩
    · exact Or.inr ⟨fun h => hll h.2, c, hk, hs⟩
  · exact Or.inr ⟨fun h => hne h.1, hopens⟩

lemma opens_of_engine (hadvance : r.advance? b options .engine = some r')
    (hopens : r'.Opens k l job id) : r.Opens k l job id := by
  obtain ⟨c', hk', hl⟩ := hopens
  have hclass := congrArg (·[k]?) (scenarios_of_engine hadvance).2
  simp only [List.getElem?_map, hk', Option.map_some] at hclass
  obtain ⟨c, hk, hsame⟩ := Option.map_eq_some_iff.mp hclass.symm
  exact ⟨c, hk, by rw [hsame, hl]⟩

namespace Served

variable {h : b.Steady answer}

/-- A run in which the same tasks ask for streams, and the backend is as before. -/
lemma of_same (hserved : r.Served h) (hbackend : r'.outside.backend = r.outside.backend)
    (hunsubmitted : r'.unsubmitted = r.unsubmitted)
    (hopens : ∀ {k l job id}, r'.Opens k l job id → r.Opens k l job id) : r'.Served h where
  ready := by
    rw [hunsubmitted, hbackend]
    exact hserved.ready
  owed := by
    intro k l job id hopen
    rw [hbackend]
    exact hserved.owed (hopens hopen)
  apart := fun hopen hopen' => hserved.apart (hopens hopen) (hopens hopen')

/-- A step of the engine. -/
lemma engine (hserved : r.Served h) (hadvance : r.advance? b options .engine = some r') :
    r'.Served h := by
  obtain ⟨⟨more, houtside, -⟩, -⟩ := scenarios_of_engine hadvance
  have hcount := counts_of_engine (f := fun phase => phase.isUnsubmitted.toNat) hadvance
  exact hserved.of_same (by rw [houtside]) hcount (opens_of_engine hadvance)

/-- A step of the task of a class. -/
lemma task (hserved : r.Served h) {P : ClassPlan} {o' : Outside σ}
    {reached reached' : ClassPlan.Reached} (hk : r.classes[k]? = some c)
    (hstep : P.TaskStep c r.outside reached c' o' reached') :
    ({ r.setClass k c' with outside := o' } : Run σ).Served h := by
  obtain ⟨more, houtside, -⟩ := hstep.exists_outside
  refine hserved.of_same (by rw [houtside]) ?_ fun {k' l' job' id} hopens => ?_
  · have hcount := counts_setClass (f := fun phase => phase.isUnsubmitted.toNat) hk c' o'
    rw [hstep.counts_eq (fun phase => by rw [Phase.isUnsubmitted_grant])
      fun phase => by rw [Phase.isUnsubmitted_start]] at hcount
    exact Nat.add_right_cancel hcount
  · rcases (opens_setClass hk c' o').mp hopens with ⟨rfl, hopening⟩ | ⟨-, hopens⟩
    · exact ⟨c, hk, hstep.opening_of_opening hopening⟩
    · exact hopens

/-- A scenario with another phase, where the backend owes to the others what it did before. -/
lemma of_call (hserved : r.Served h) {phase phase' : Phase} {scope' : ClassScope} {o' : Outside σ}
    (hk : r.classes[k]? = some c) (hl : c.scenarios[l]? = some ⟨job, phase⟩)
    (hready : h.ready
      ({ r.setClass k ({ c with scope := scope' }.setPhase l phase') with outside := o' } :
        Run σ).unsubmitted o'.backend)
    (hothers : ∀ {k' l' : Nat} {job' : Job} {id : ExecutionId}, ¬ (k' = k ∧ l' = l) →
      r.Opens k' l' job' id → h.owed o'.backend id = h.owed r.outside.backend id)
    (hnew : ∀ id, phase' = .opening id → h.owed r.outside.backend id = none ∧
      h.owed o'.backend id = some (answer job.source.definition job.environment)) :
    ({ r.setClass k ({ c with scope := scope' }.setPhase l phase') with outside := o' } :
      Run σ).Served h where
  ready := hready
  owed := by
    intro k' l' job' id hopens
    rcases opens_setPhase hk hl hopens with ⟨-, -, rfl, hphase⟩ | ⟨hne, hold⟩
    · exact (hnew id hphase).2
    · exact (hothers hne hold).trans (hserved.owed hold)
  apart := by
    -- what is owed under a new number was not owed before
    have hfresh : ∀ {k' l' : Nat} {job' : Job} {id : ExecutionId}, phase' = .opening id →
        ¬ r.Opens k' l' job' id := by
      intro k' l' job' id hphase hold
      have hnone := (hnew id hphase).1
      rw [hserved.owed hold] at hnone
      exact absurd hnone (by simp)
    intro k₁ l₁ k₂ l₂ job₁ job₂ id hopens₁ hopens₂
    rcases opens_setPhase hk hl hopens₁ with ⟨rfl, rfl, -, hphase₁⟩ | ⟨-, hold₁⟩
    · rcases opens_setPhase hk hl hopens₂ with ⟨rfl, rfl, -, -⟩ | ⟨-, hold₂⟩
      · exact ⟨rfl, rfl⟩
      · exact absurd hold₂ (hfresh hphase₁)
    · rcases opens_setPhase hk hl hopens₂ with ⟨-, -, -, hphase₂⟩ | ⟨-, hold₂⟩
      · exact absurd hold₁ (hfresh hphase₂)
      · exact hserved.apart hold₁ hold₂

/-- What a task is given that asks for its stream. -/
lemma gives_of_opening (hserved : r.Served h) (hopens : r.Opens k l job id)
    {got : Except Error (List Item)} {s : σ}
    (hopen : b.notifications id r.outside.backend = (got, s)) :
    job.answers answer (got.map fun items => (id, items)) ∧ h.ready r.unsubmitted s ∧
      ∀ {k' l' : Nat} {job' : Job} {id' : ExecutionId}, ¬ (k' = k ∧ l' = l) →
        r.Opens k' l' job' id' → h.owed s id' = h.owed r.outside.backend id' := by
  obtain ⟨hgives, hready, hothers⟩ := h.of_opened hserved.ready (hserved.owed hopens) hopen
  refine ⟨hgives, hready, fun hne hold => hothers _ ?_⟩
  rintro rfl
  exact hne (hserved.apart hold hopens)

/-- **A step of the task of a scenario.** -/
theorem scenario (hserved : r.Served h) {phase phase' : Phase} {scope' : ClassScope}
    {o' : Outside σ} (hk : r.classes[k]? = some c) (hl : c.scenarios[l]? = some ⟨job, phase⟩)
    (hstep : ClassRun.ScenarioStep b options job phase c.scope r.outside phase' scope' o') :
    ({ r.setClass k ({ c with scope := scope' }.setPhase l phase') with outside := o' } :
      Run σ).Served h := by
  have hcount := unsubmitted_setPhase hk hl phase' scope' o'
  -- a step that calls nothing, and neither comes from nor leads to a call
  have hquiet : o'.backend = r.outside.backend → phase'.isUnsubmitted = phase.isUnsubmitted →
      (∀ id, phase' ≠ .opening id) →
      ({ r.setClass k ({ c with scope := scope' }.setPhase l phase') with outside := o' } :
        Run σ).Served h := by
    intro hbackend hsame hnot
    refine hserved.of_same hbackend ?_ fun hopen => ?_
    · rw [hsame] at hcount
      exact Nat.add_right_cancel hcount
    · rcases opens_setPhase hk hl hopen with ⟨-, -, -, hphase⟩ | ⟨-, hopen⟩
      · exact absurd hphase (hnot _)
      · exact hopen
  cases hstep with
  | @submitted _ _ id s hsubmit =>
      have hready := hserved.ready
      rw [← Nat.add_zero r.unsubmitted] at hready
      obtain ⟨hready', hnone, hsome, hothers⟩ := h.of_accepted (hcount ▸ hready) hsubmit
      refine hserved.of_call hk hl hready' (fun _ hold => hothers _ ?_) fun id' hphase => ?_
      · rintro rfl
        rw [hserved.owed hold] at hnone
        exact absurd hnone (by simp)
      · obtain rfl := Phase.opening.inj hphase
        exact ⟨hnone, hsome⟩
  | refused hsubmit =>
      have hready := hserved.ready
      rw [← Nat.add_zero r.unsubmitted] at hready
      obtain ⟨-, hready', hothers⟩ := h.of_refused (hcount ▸ hready) hsubmit
      exact hserved.of_call hk hl hready' (fun _ _ => hothers _) fun id hphase =>
        absurd hphase Phase.noConfusion
  | @opened _ _ id items s hopen =>
      obtain ⟨-, hready, hothers⟩ := hserved.gives_of_opening ⟨c, hk, hl⟩ hopen
      rw [← Nat.add_right_cancel hcount] at hready
      exact hserved.of_call hk hl hready hothers fun id hphase => absurd hphase Phase.noConfusion
  | @unopened _ _ id e s hopen =>
      obtain ⟨-, hready, hothers⟩ := hserved.gives_of_opening ⟨c, hk, hl⟩ hopen
      rw [← Nat.add_right_cancel hcount] at hready
      exact hserved.of_call hk hl hready hothers fun id hphase => absurd hphase Phase.noConfusion
  | @acted _ _ action rest =>
      refine hquiet ?_ rfl fun id => Phase.noConfusion
      cases action <;> rfl
  | ended => exact hquiet rfl rfl fun id => Phase.noConfusion
  | rescued =>
      refine hquiet rfl ?_ fun id => ?_
      · split <;> rfl
      · split <;> exact Phase.noConfusion
  | told => exact hquiet rfl rfl fun id => Phase.noConfusion
  | released => exact hquiet rfl rfl fun id => Phase.noConfusion
  | counted => exact hquiet rfl rfl fun id => Phase.noConfusion

/-- A scenario that is about to be submitted is counted. -/
lemma exists_unsubmitted (hk : r.classes[k]? = some c)
    (hl : c.scenarios[l]? = some ⟨job, .submitting⟩) : ∃ n, r.unsubmitted = n + 1 := by
  have hpos : 0 < r.unsubmitted :=
    le_counts (f := fun phase => phase.isUnsubmitted.toNat) hk hl
  exact ⟨r.unsubmitted - 1, by omega⟩

/-- **What a task is told next** is the answer to its scenario. -/
theorem replies (hserved : r.Served h) {phase : Phase} (hk : r.classes[k]? = some c)
    (hl : c.scenarios[l]? = some ⟨job, phase⟩) :
    job.Replies b options (Job.answers answer) phase r.outside.backend := by
  cases phase with
  | submitting =>
      obtain ⟨n, hn⟩ := exists_unsubmitted hk hl
      intro e hrefused
      have hsubmit : b.submit job.source.definition job.environment options.constants
          job.source.definition.defaultDataset r.outside.backend = (.error e, _) :=
        Prod.ext hrefused rfl
      obtain ⟨hanswer, -⟩ := h.of_refused (hn ▸ hserved.ready) hsubmit
      show (answer job.source.definition job.environment).Gives (.error e)
      rw [hanswer]
      exact .refused e
  | opening id =>
      have hopen : b.notifications id r.outside.backend =
          ((b.notifications id r.outside.backend).1, (b.notifications id r.outside.backend).2) := rfl
      exact (hserved.gives_of_opening ⟨c, hk, hl⟩ hopen).1
  | _ => trivial

end Served

end Run

/-! ## What is found -/

/-- What a backend with fixed answers finds for the scenarios of a run. -/
def Backend.Steady.findings {σ : Type} {b : Backend σ} {answer : Scenario → Environment → Answer}
    (h : b.Steady answer) : Findings :=
  fun _ c => h.environmentFor c.source.environment

/-- What scripts say of the environments of the scenarios of a run. -/
def ScriptBook.findings (book : ScriptBook) : Findings :=
  fun _ c => book.environmentFor c.source.environment

lemma ScriptBook.findings_steady (book : ScriptBook) : book.steady.findings = book.findings :=
  funext fun _ => funext fun _ => book.steady_environmentFor _

section Found

variable {σ : Type} {b : Backend σ} {answer : Scenario → Environment → Answer}
  {h : b.Steady answer} {c c' : ClassRun} {o o' : Outside σ}

/-- A search of a class is one for the environment that a scenario names. -/
def ClassAction.IsFor (h : b.Steady answer) : ClassAction → Prop
  | .askDefault c => c.source.environment = none
  | .lookUp c name => h.nameFor c.source.environment = .ok name
  | _ => True

lemma ClassAction.isFor_of_candidate {action : ClassAction} (hnone : action.candidate? = none) :
    action.IsFor h := by
  cases action with
  | askDefault c => exact absurd hnone (by simp [candidate?])
  | lookUp c name => exact absurd hnone (by simp [candidate?])
  | _ => trivial

lemma Candidate.isFor_resolve (c : Candidate) : c.resolve.IsFor h := by
  unfold resolve
  cases hname : c.source.environment with
  | none => exact hname
  | some name =>
      show h.nameFor c.source.environment = .ok name
      rw [hname]
      rfl

namespace ClassRun

lemma isFor_ofNode (options : RunOptions) (isSkipped : NodeId → Bool) (group : Nat) (node : Node) :
    ∀ action ∈ (ofNode options isSkipped group node).todo, action.IsFor h := by
  intro action haction
  simp only [todo, ofNode, actions, List.mem_append, List.mem_cons, List.mem_map, List.not_mem_nil,
    or_false] at haction
  rcases haction with (((rfl | ⟨c, -, rfl⟩) | rfl) | ⟨c, -, rfl⟩) | rfl | rfl | rfl
  case inl.inr => exact c.isFor_resolve
  all_goals trivial

/-- What comes of a search of the task of a class. -/
lemma found_of_lookup (hfor : ∀ action ∈ c.todo, action.IsFor h) {s : σ} {x : Lookup}
    (hx : c.lookup? b s = some x) :
    h.environmentFor x.candidate.source.environment = x.found := by
  unfold lookup? at hx
  split at hx
  · next candidate rest hphase =>
    have hname : candidate.source.environment = none :=
      hfor (.askDefault candidate) (by rw [todo, hphase]; exact List.mem_cons_self)
    rw [h.asks] at hx
    split at hx
    · exact absurd hx (by simp)
    · next e he =>
      obtain rfl := Option.some.inj hx
      rw [Backend.Steady.environmentFor, hname, Backend.Steady.nameFor, he]
  · next candidate name rest hphase =>
    have hname : h.nameFor candidate.source.environment = .ok name :=
      hfor (.lookUp candidate name) (by rw [todo, hphase]; exact List.mem_cons_self)
    obtain rfl := Option.some.inj hx
    rw [Backend.Steady.environmentFor, hname]
    exact (h.finds name s).symm
  · exact absurd hx (by simp)

/-- A step of the task of a class. -/
lemma isFor_of_turn (hfor : ∀ action ∈ c.todo, action.IsFor h) {found? : Option Lookup}
    (hturn : c.TaskTurn b o c' o' found?) : ∀ action ∈ c'.todo, action.IsFor h := by
  have hrest : ∀ {action : ClassAction} {rest : List ClassAction},
      c.phase = .running (action :: rest) → ∀ action ∈ rest, action.IsFor h :=
    fun hphase action haction =>
      hfor action (by rw [todo, hphase]; exact List.mem_cons_of_mem _ haction)
  cases hturn with
  | @asked candidate name rest s hphase hasked =>
      intro action haction
      rcases List.mem_cons.mp haction with rfl | haction
      · have hname : candidate.source.environment = none :=
          hfor (.askDefault candidate) (by rw [todo, hphase]; exact List.mem_cons_self)
        show h.nameFor candidate.source.environment = .ok name
        rw [hname, Backend.Steady.nameFor, ← h.asks o.backend, hasked]
      · exact hrest hphase action haction
  | @settled _ candidate rest found _ hphase =>
      intro action haction
      cases found with
      | ok environment => exact hrest hphase action haction
      | error e =>
          rcases List.mem_append.mp haction with haction | haction
          · exact ClassAction.isFor_of_candidate (cases_of_mem_failActions haction).1.1
          · exact hrest hphase action haction
  | launched hphase =>
      intro action haction
      rcases List.mem_append.mp haction with haction | haction
      · exact ClassAction.isFor_of_candidate (cases_of_mem_startAll haction).1.1
      · exact hrest hphase action haction
  | plain hphase hplain hact =>
      exact fun action haction =>
        hrest hphase action ((sublist_todo_of_plain hplain hact).subset haction)

end ClassRun

/-- Each step leaves searches for the environments that scenarios name. -/
lemma Run.isFor_of_step {options : RunOptions} {r r' : Run σ} {choice : Choice}
    (hfor : ∀ c ∈ r.classes, ∀ action ∈ c.todo, action.IsFor h)
    (hstep : r.step? b options choice = some r') :
    ∀ c ∈ r'.classes, ∀ action ∈ c.todo, action.IsFor h := by
  have hset : ∀ {k : Nat} {c c' : ClassRun}, r.classes[k]? = some c →
      ((∀ action ∈ c.todo, action.IsFor h) → ∀ action ∈ c'.todo, action.IsFor h) →
      ∀ d ∈ (r.setClass k c').classes, ∀ action ∈ d.todo, action.IsFor h := by
    intro k c c' hk hclass d hd
    rcases List.mem_or_eq_of_mem_set hd with hd | rfl
    · exact hfor d hd
    · exact hclass (hfor c (List.mem_of_getElem? hk))
  have hmoves := moves_of_step hstep
  generalize r.lookup? b choice = found? at hmoves
  cases hmoves with
  | engine hclasses =>
      rcases hclasses with hclasses | ⟨k, hclasses⟩
      · rw [hclasses]
        exact hfor
      · rw [hclasses]
        intro c hc
        obtain ⟨l, hl⟩ := List.getElem?_of_mem hc
        rw [List.getElem?_modify, Option.map_eq_map, Option.map_eq_some_iff] at hl
        obtain ⟨d, hd, rfl⟩ := hl
        split
        · rw [ClassRun.todo_begin]
          exact hfor d (List.mem_of_getElem? hd)
        · exact hfor d (List.mem_of_getElem? hd)
  | task hk hturn => exact hset hk fun hfor => ClassRun.isFor_of_turn hfor hturn
  | crashed hk hcrash =>
      refine hset hk fun hfor action haction => ?_
      unfold ClassRun.crash? at hcrash
      split at hcrash
      · rw [← Option.some.inj hcrash] at haction
        exact absurd haction List.not_mem_nil
      · exact absurd hcrash (by simp)
  | scenario hk => exact hset hk id

/-- **What a run finds** on a backend with fixed answers is known before. -/
theorem Run.agree_steady (h : b.Steady answer) {options : RunOptions} {request : RunRequest} {s : σ}
    {r : Run σ} {choices : List Choice}
    (hreaches : Reaches b options (ofRequest options request s) choices r) :
    h.findings.Agree ((ofRequest options request s).lookups b options choices) := by
  refine (trace_induct (motive := fun r lookups =>
    (∀ c ∈ r.classes, ∀ action ∈ c.todo, action.IsFor h) ∧ h.findings.Agree lookups) hreaches
    ⟨?_, fun x hx => absurd hx List.not_mem_nil⟩ ?_).2
  · intro c hc
    rw [RunRequest.classes_ofRequest] at hc
    obtain ⟨n, -, rfl⟩ := List.mem_map.mp hc
    exact ClassRun.isFor_ofNode options request.skip.contains n.2 n.1
  · intro before log r₁ choice r₂ _ _ ⟨hfor, hagree⟩ hstep
    refine ⟨isFor_of_step hfor hstep, fun x hx => ?_⟩
    rcases List.mem_append.mp hx with hx | hx
    · exact hagree x hx
    · unfold lookup? at hx
      split at hx
      · next k =>
        obtain ⟨c, hk, hfound⟩ := Option.bind_eq_some_iff.mp (Option.mem_toList.mp hx)
        exact ClassRun.found_of_lookup (hfor c (List.mem_of_getElem? hk)) hfound
      · exact absurd hx (by simp)

end Found

/-! ## Runs -/

/-- The number of scenarios of a request that run. -/
def RunRequest.tasks (findings : Findings) (request : RunRequest) : Nat :=
  total (fun P => P.jobs.length) (request.plans findings)

/-- What a run on a backend with fixed answers keeps of its classes: they follow their plans, and
their verdicts are those of their scenarios so far. -/
structure ClassPlan.Answered (answer : Scenario → Environment → Answer) (options : RunOptions)
    (P : ClassPlan) (c : ClassRun) (log : List Event) : Prop where
  follows : P.FollowsBy (Job.StageBy (Job.answers answer) options) options c log
  judged : P.Judged (Job.answers answer) c

namespace Run

variable {σ : Type} {b : Backend σ} {answer : Scenario → Environment → Answer}
  {options : RunOptions} {request : RunRequest} {findings : Findings} {r r' : Run σ}
  {h : b.Steady answer}

/-- Before the first step no scenario has been submitted. -/
lemma served_planned {s : σ} (hready : h.ready (request.tasks findings) s) :
    (planned findings options request s).Served h := by
  have hwaits : ∀ {k l : Nat} {c : ClassRun} {job : Job} {phase : Phase},
      (planned findings options request s).classes[k]? = some c →
      c.scenarios[l]? = some ⟨job, phase⟩ → phase = .waiting := by
    intro k l c job phase hk hl
    rw [planned, List.getElem?_map, Option.map_eq_some_iff] at hk
    obtain ⟨n, -, rfl⟩ := hk
    exact ClassPlan.phase_planned (findings n.2) options request.skip.contains n.2 n.1 hl
  have hnone : ∀ {k l : Nat} {job : Job} {id : ExecutionId},
      ¬ (planned findings options request s).Opens k l job id := by
    rintro k l job id ⟨c, hk, hl⟩
    exact absurd (hwaits hk hl) Phase.noConfusion
  have hcount : (planned findings options request s).unsubmitted = request.tasks findings := by
    refine total_congr ?_
    rw [planned, RunRequest.plans, List.map_map, List.map_map]
    refine List.map_congr_left fun n _ => ?_
    exact ClassRun.unsubmitted_planned (findings n.2) options request.skip.contains n.2 n.1
  refine ⟨?_, fun hopens => absurd hopens hnone, fun hopens => absurd hopens hnone⟩
  rw [hcount]
  exact hready

/-- A search leaves the tasks served. -/
lemma Served.consult (hserved : r.Served h) {s : σ} (hconsults : b.Consults r.outside.backend s) :
    ({ r with outside := { r.outside with backend := s } } : Run σ).Served h where
  ready := (h.consults hserved.ready hconsults).1
  owed := fun hopens => ((h.consults hserved.ready hconsults).2 _).trans (hserved.owed hopens)
  apart := hserved.apart

/-- A turn in which no task is cut off. -/
lemma goesOn_answered_of_turn {k : Nat} {P : ClassPlan} {c c' : ClassRun} {o' : Outside σ}
    {actor : Actor} {log : List Event} (hP : P ∈ request.plans findings) (hk : r.classes[k]? = some c)
    (hserved : r.Served h) (hanswered : P.Answered answer options c log)
    (hturn : r.Turn b options k c (.advance actor) c' o') :
    P.GoesOn (ClassPlan.Answered answer options) c r.outside log c' o' := by
  have hcourse := Job.course_stageBy (Job.answers answer) options
  have hplaced := Keeps.wellPlaced hP
  obtain ⟨hfollows, hjudged⟩ := hanswered
  obtain ⟨reached, tail, hlinked, hlogged⟩ := hfollows.logged
  cases hturn with
  | task hadvance =>
      obtain ⟨hrunning, hgoes, more, hevents, hwithin, hfollows'⟩ :=
        hfollows.task hcourse hplaced hadvance
      obtain ⟨reached', hstep, -⟩ := ClassPlan.taskStep_of_advance hlinked.stage hadvance
      exact ⟨hrunning, hgoes, more, hevents, hwithin, hfollows', hjudged.task hstep⟩
  | scenario hadvance =>
      obtain ⟨job, phase, phase', scope', hl, hstep, rfl⟩ :=
        ClassRun.scenarioStep_of_advance hadvance
      obtain ⟨hrunning, hgoes, more, hevents, hwithin, hfollows'⟩ :=
        hfollows.scenario hcourse hplaced hl (.step hstep)
          (Job.StageBy.passes hstep (hserved.replies hk hl))
      have hjudges := hstep.judges (Job.settled_answers answer) (hlogged.stages hl)
      exact ⟨hrunning, hgoes, more, hevents, hwithin, hfollows', hjudged.scenario hl hjudges⟩

/-- A step in which no task is cut off leaves the tasks served. -/
lemma Served.step (hserved : r.Served h)
    (hkeeps : r.Keeps (ClassPlan.Answered answer options) findings options request) {actor : Actor}
    (hadvance : r.advance? b options actor = some r') : r'.Served h := by
  cases actor with
  | engine => exact hserved.engine hadvance
  | classTask k =>
      obtain ⟨c, c', o', hk, hnext, rfl⟩ := advance_classTask_iff.mp hadvance
      obtain ⟨P, -, hanswered⟩ := hkeeps.exists_plan hk
      obtain ⟨reached, hlinked⟩ := hanswered.follows.linked
      obtain ⟨reached', hstep, -⟩ := ClassPlan.taskStep_of_advance hlinked.stage hnext
      exact hserved.task hk hstep
  | scenarioTask k l =>
      obtain ⟨c, c', o', hk, hnext, rfl⟩ := advance_scenarioTask_iff.mp hadvance
      obtain ⟨job, phase, phase', scope', hl, hstep, rfl⟩ :=
        ClassRun.scenarioStep_of_advance hnext
      exact hserved.scenario hk hl hstep

/-- **Every run** on a backend with fixed answers keeps this, if no task is cut off. -/
theorem keeps_served_of_reaches {s : σ} (hready : h.ready (request.tasks h.findings) s)
    {choices : List Choice} (hreaches : Reaches b options (ofRequest options request s) choices r)
    (hquiet : Quiet choices) :
    (r.foreseen h.findings).Keeps (ClassPlan.Answered answer options) h.findings options request ∧
      (r.foreseen h.findings).Served h := by
  refine (hreaches.proceeds hquiet (agree_steady h hreaches)).induct
    (motive := fun r =>
      r.Keeps (ClassPlan.Answered answer options) h.findings options request ∧ r.Served h)
    ⟨keeps_planned h.findings options request s fun i node => ⟨?_, ?_⟩, served_planned hready⟩ ?_
    fun ⟨hkeeps, hserved⟩ hconsults => ⟨hkeeps.consult _, hserved.consult hconsults⟩
  · exact ClassPlan.followsBy_planned (Job.course_stageBy ..) (h.findings i) options
      request.skip.contains i node
  · exact ClassPlan.judged_planned (h.findings i) options request.skip.contains i node
  · rintro r r' _ ⟨hkeeps, hserved⟩ ⟨actor, rfl⟩ hstep
    have hmild : (Choice.advance actor).IsMild := trivial
    refine ⟨hkeeps.step hmild hstep (fun hanswered => ⟨hanswered.follows.begin,
      hanswered.judged.begin⟩) fun hP hk hanswered hturn => ?_, hserved.step hkeeps hstep⟩
    exact goesOn_answered_of_turn (List.mem_of_getElem? hP) hk hserved hanswered hturn

end Run

end ScenarioRunner

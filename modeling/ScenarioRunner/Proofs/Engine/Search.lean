import ScenarioRunner.Proofs.Backend.Steady
import ScenarioRunner.Proofs.Engine.Accounts
import ScenarioRunner.Proofs.Engine.Choices
import ScenarioRunner.Proofs.Engine.RunPlan

/-!
# The searches of a run

The task of a class looks for the environments of its scenarios one by one while other tasks go on, and
what is found for a name may be another thing the next time.

* `ClassRun.TaskTurn` lists the steps of the task of a class, and `ClassRun.taskTurn_of_advance`: what
  the task does is in the list.
* `Lookup` is what came of the search for the environment of a scenario, and `Run.lookups` are those
  that some choices make.
* `ClassRun.Searched`: the scenarios for which a class has searched are the first ones of those that it
  is to search for, and those whose environments were found are its scenarios.
  `ClassRun.Searched.task`: each step of the task of a class keeps that.
* `Run.Moves` lists the steps of a run as the classes see them, and `Run.moves_of_step`: what a choice
  does is in the list.
* `Run.searched_of_reaches`: every run keeps that, whichever way its tasks are scheduled.
* `Run.Searched.exists_findings`: some findings agree with all searches of a run.

No scenario is searched for twice, so that what is found for it can be known before.
-/

namespace ScenarioRunner

/-- What came of the search for the environment of a scenario. -/
structure Lookup where
  /-- The place of the class. -/
  group : Nat
  candidate : Candidate
  found : Except Error Environment

namespace Lookup

/-- The scenario, if its environment was found. -/
def job? (x : Lookup) : Option Job :=
  match x.found with
  | .ok environment => some (x.candidate.job x.group environment)
  | .error _ => none

end Lookup

/-- The findings are what came of some searches. -/
def Findings.Agree (findings : Findings) (lookups : List Lookup) : Prop :=
  ∀ x ∈ lookups, findings x.group x.candidate = x.found

lemma Findings.Agree.of_subset {findings : Findings} {lookups more : List Lookup}
    (h : findings.Agree more) (hsub : lookups ⊆ more) : findings.Agree lookups :=
  fun x hx => h x (hsub hx)

namespace ClassAction

/-- The scenario whose environment is looked for. -/
def candidate? : ClassAction → Option Candidate
  | askDefault c | lookUp c _ => some c
  | _ => none

/-- The scenario among the tasks to which something is done. -/
def target? : ClassAction → Option Nat
  | grant k | start k => some k
  | _ => none

/-- The action does not depend on what is found. -/
def IsPlain (action : ClassAction) : Prop :=
  action.candidate? = none ∧ action ≠ .launch

/-- The action comes behind all searches. -/
def EndsSearches (action : ClassAction) : Prop :=
  action = .launch ∨ action = .close

/-- Actions behind which searches may come stand in front of others. -/
lemma pairwise_append {front rest : List ClassAction}
    (hfront : ∀ action ∈ front, ¬ action.EndsSearches)
    (hrest : rest.Pairwise fun action action' => action.EndsSearches → action'.candidate? = none) :
    (front ++ rest).Pairwise fun action action' =>
      action.EndsSearches → action'.candidate? = none := by
  refine List.pairwise_append.mpr ⟨List.pairwise_iff_forall_sublist.mpr fun hsub hends => ?_, hrest,
    fun action haction _ _ hends => absurd hends (hfront action haction)⟩
  exact absurd hends (hfront _ (hsub.subset List.mem_cons_self))

end ClassAction

lemma Candidate.candidate?_resolve (c : Candidate) : c.resolve.candidate? = some c := by
  unfold resolve
  split <;> rfl

lemma Candidate.target?_resolve (c : Candidate) : c.resolve.target? = none := by
  unfold resolve
  split <;> rfl

lemma Candidate.not_endsSearches_resolve (c : Candidate) : ¬ c.resolve.EndsSearches := by
  unfold resolve
  split <;> simp [ClassAction.EndsSearches]

namespace ClassRun

variable {σ : Type} {b : Backend σ} {options : RunOptions} {c c' : ClassRun} {o o' : Outside σ}

/-! ## The steps of the task of a class -/

/-- The actions that the task of a class has left. -/
def todo (c : ClassRun) : List ClassAction :=
  match c.phase with
  | .waiting => c.program
  | .running actions => actions
  | _ => []

/-- A class that starts has left what it is to do. -/
lemma todo_begin (c : ClassRun) : c.begin.todo = c.todo := by
  unfold begin
  split
  · next hwaiting => rw [todo, todo, hwaiting]
  · rfl

/-- What comes of the search that the task of a class ends with its next step. -/
def lookup? (b : Backend σ) (c : ClassRun) (s : σ) : Option Lookup :=
  match c.phase with
  | .running (.askDefault candidate :: _) =>
    match (b.defaultEnvironment s).1 with
    | .ok _ => none
    | .error e => some ⟨c.place, candidate, .error e⟩
  | .running (.lookUp candidate name :: _) => some ⟨c.place, candidate, (b.environment name s).1⟩
  | _ => none

/-- **The steps of the task of a class**: the class, what lies outside, and what comes of a search. -/
inductive TaskTurn (b : Backend σ) (c : ClassRun) (o : Outside σ) :
    ClassRun → Outside σ → Option Lookup → Prop where
  | asked {candidate : Candidate} {name : String} {rest : List ClassAction} {s : σ}
    (hphase : c.phase = .running (.askDefault candidate :: rest))
    (hasked : b.defaultEnvironment o.backend = (.ok name, s)) :
    TaskTurn b c o { c with phase := .running (.lookUp candidate name :: rest) }
      { o with backend := s } none
  | settled {action : ClassAction} {candidate : Candidate} {rest : List ClassAction}
    {found : Except Error Environment} {s : σ} (hphase : c.phase = .running (action :: rest))
    (hcandidate : action.candidate? = some candidate) (hconsults : b.Consults o.backend s) :
    TaskTurn b c o (c.settle rest candidate found) { o with backend := s }
      (some ⟨c.place, candidate, found⟩)
  | launched {rest : List ClassAction} (hphase : c.phase = .running (.launch :: rest)) :
    TaskTurn b c o
      { c with phase := .running (startAll 0 (c.scenarios.map ScenarioRun.job) ++ rest) } o none
  | plain {action : ClassAction} {rest : List ClassAction} {c' : ClassRun} {o' : Outside σ}
    (hphase : c.phase = .running (action :: rest)) (hplain : action.IsPlain)
    (hact : c.act b rest o action = some (c', o')) : TaskTurn b c o c' o' none

/-- **What the task of a class does** is one of the steps. -/
theorem taskTurn_of_advance (h : c.advance? b o = some (c', o')) :
    c.TaskTurn b o c' o' (c.lookup? b o.backend) := by
  unfold advance? at h
  split at h
  · next action rest hphase =>
    cases action with
    | askDefault candidate =>
        simp only [act, askDefault, Option.some.injEq] at h
        simp only [lookup?, hphase]
        cases hasked : b.defaultEnvironment o.backend with
        | mk named s =>
            rw [hasked] at h
            cases named with
            | ok name =>
                obtain ⟨rfl, rfl⟩ := Prod.mk.inj h
                exact .asked hphase hasked
            | error e =>
                obtain ⟨rfl, rfl⟩ := Prod.mk.inj h
                exact .settled hphase rfl (.asked hasked)
    | lookUp candidate name =>
        simp only [act, lookUp, Option.some.injEq] at h
        simp only [lookup?, hphase]
        obtain ⟨rfl, rfl⟩ := Prod.mk.inj h
        exact .settled hphase rfl (.found rfl)
    | launch =>
        obtain ⟨rfl, rfl⟩ := Prod.mk.inj (Option.some.inj h)
        simp only [lookup?, hphase]
        exact .launched hphase
    | _ =>
        simp only [lookup?, hphase]
        exact .plain hphase ⟨rfl, ClassAction.noConfusion⟩ h
  · exact absurd h (by simp)

/-- What an action that does not depend on what is found leaves of the class, and of the backend. -/
lemma of_plain {action : ClassAction} {rest : List ClassAction} (hplain : action.IsPlain)
    (hact : c.act b rest o action = some (c', o')) :
    c'.place = c.place ∧ c'.node = c.node ∧ c'.program = c.program ∧
      c'.scenarios.map ScenarioRun.job = c.scenarios.map ScenarioRun.job ∧
      o'.backend = o.backend ∧
      (c'.phase = .running rest ∨ c'.phase = .crashed ∨
        action = .close ∧ ∃ verdict, c'.phase = .finished verdict) := by
  cases action with
  | askDefault candidate => exact absurd hplain.1 (by simp [ClassAction.candidate?])
  | lookUp candidate name => exact absurd hplain.1 (by simp [ClassAction.candidate?])
  | launch => exact absurd rfl hplain.2
  | openGate =>
      simp only [act] at hact
      split at hact <;> obtain ⟨rfl, rfl⟩ := Prod.mk.inj (Option.some.inj hact) <;> simp
  | grant k =>
      simp only [act, Option.map_eq_some_iff] at hact
      obtain ⟨scope, -, heq⟩ := hact
      obtain ⟨rfl, rfl⟩ := Prod.mk.inj heq
      exact ⟨rfl, rfl, rfl, map_job_changePhase .., rfl, Or.inl rfl⟩
  | start k =>
      obtain ⟨rfl, rfl⟩ := Prod.mk.inj (Option.some.inj hact)
      exact ⟨rfl, rfl, rfl, map_job_changePhase .., rfl, Or.inl rfl⟩
  | awaitAll =>
      simp only [act] at hact
      split at hact
      · obtain ⟨rfl, rfl⟩ := Prod.mk.inj (Option.some.inj hact)
        simp
      · exact absurd hact (by simp)
  | close =>
      obtain ⟨rfl, rfl⟩ := Prod.mk.inj (Option.some.inj hact)
      exact ⟨rfl, rfl, rfl, rfl, rfl, Or.inr (Or.inr ⟨rfl, _, rfl⟩)⟩
  | _ =>
      obtain ⟨rfl, rfl⟩ := Prod.mk.inj (Option.some.inj hact)
      exact ⟨rfl, rfl, rfl, rfl, rfl, Or.inl rfl⟩

/-- Such an action leaves the others to do, or nothing. -/
lemma sublist_todo_of_plain {action : ClassAction} {rest : List ClassAction} (hplain : action.IsPlain)
    (hact : c.act b rest o action = some (c', o')) : c'.todo.Sublist rest := by
  obtain ⟨-, -, -, -, -, hphase | hphase | ⟨-, verdict, hphase⟩⟩ := of_plain hplain hact <;>
    simp [todo, hphase]

/-- **The task of a class** asks of the backend for environments only. -/
lemma TaskTurn.consults {found? : Option Lookup} (h : c.TaskTurn b o c' o' found?) :
    b.Consults o.backend o'.backend := by
  cases h with
  | asked _ hasked => exact .asked hasked
  | settled _ _ hconsults => exact hconsults
  | launched => exact .nothing
  | plain _ hplain hact =>
      obtain ⟨-, -, -, -, hbackend, -⟩ := of_plain hplain hact
      rw [hbackend]
      exact .nothing

/-- A step of the task of a class leaves its place and its node, and searches for a scenario of the
class. -/
lemma TaskTurn.same {found? : Option Lookup} (h : c.TaskTurn b o c' o' found?) :
    c'.place = c.place ∧ c'.node = c.node ∧ ∀ x ∈ found?.toList, x.group = c.place := by
  cases h with
  | @settled _ _ _ found =>
      refine ⟨?_, ?_, fun x hx => by rw [List.mem_singleton.mp hx]⟩ <;> cases found <;> rfl
  | plain _ hplain hact =>
      obtain ⟨hplace, hnode, -⟩ := of_plain hplain hact
      exact ⟨hplace, hnode, fun x hx => absurd hx List.not_mem_nil⟩
  | _ => exact ⟨rfl, rfl, fun x hx => absurd hx List.not_mem_nil⟩

/-! ## What a class has searched for -/

lemma candidates_actions (group : Nat) (node : Node) (skipped runnable : List Candidate) :
    (actions group node skipped runnable).filterMap ClassAction.candidate? = runnable := by
  have hskipped : (skipped.map fun c =>
      ClassAction.emit (c.event group (.skipped skipReason))).filterMap ClassAction.candidate? =
        [] := by
    rw [List.filterMap_map]
    exact List.filterMap_eq_nil_iff.mpr fun c _ => rfl
  have hrunnable : (runnable.map Candidate.resolve).filterMap ClassAction.candidate? = runnable := by
    induction runnable with
    | nil => rfl
    | cons c runnable ih =>
        rw [List.map_cons, List.filterMap_cons_some c.candidate?_resolve, ih]
  rw [actions, List.filterMap_append, List.filterMap_append, List.filterMap_append,
    List.filterMap_append, hskipped, hrunnable]
  exact List.append_nil _

/-- The starts of scenarios do not depend on what is found, and are about these scenarios. -/
lemma cases_of_mem_startAll {k : Nat} {jobs : List Job} {action : ClassAction}
    (h : action ∈ startAll k jobs) :
    action.IsPlain ∧ ¬ action.EndsSearches ∧
      ∀ l, action.target? = some l → l < k + jobs.length := by
  induction jobs generalizing k with
  | nil => exact absurd h List.not_mem_nil
  | cons job jobs ih =>
      rcases List.mem_append.mp h with h | h
      · simp only [List.mem_cons, List.not_mem_nil, or_false] at h
        rcases h with rfl | rfl | rfl | rfl <;>
          simp [ClassAction.IsPlain, ClassAction.candidate?, ClassAction.EndsSearches,
            ClassAction.target?]
      · obtain ⟨hplain, hends, htarget⟩ := ih h
        refine ⟨hplain, hends, fun l hl => ?_⟩
        have := htarget l hl
        rw [List.length_cons]
        omega

/-- What becomes of a scenario without an environment does not depend on what is found, and starts no
task. -/
lemma cases_of_mem_failActions {group : Nat} {candidate : Candidate} {e : Error}
    {action : ClassAction} (h : action ∈ failActions group candidate e) :
    action.IsPlain ∧ ¬ action.EndsSearches ∧ action.target? = none := by
  simp only [failActions, List.mem_cons, List.not_mem_nil, or_false] at h
  rcases h with rfl | rfl | rfl | rfl <;>
    simp [ClassAction.IsPlain, ClassAction.candidate?, ClassAction.EndsSearches,
      ClassAction.target?]

/-- **What a class has searched for**, with what came of it: some scenarios for which it is to search,
the first ones in front, and the others are ahead.  Those whose environments were found are the
scenarios of the class. -/
structure Searched (isSkipped : NodeId → Bool) (lookups : List Lookup) (c : ClassRun) : Prop where
  program : c.program.filterMap ClassAction.candidate? = ClassPlan.runnable isSkipped c.node
  scenarios : c.scenarios.map ScenarioRun.job = lookups.filterMap Lookup.job?
  groups : ∀ x ∈ lookups, x.group = c.place
  first : lookups.map Lookup.candidate <+: ClassPlan.runnable isSkipped c.node
  ahead : c.phase ≠ .crashed →
    lookups.map Lookup.candidate ++ c.todo.filterMap ClassAction.candidate? =
      ClassPlan.runnable isSkipped c.node
  /-- Something is done only to tasks that there are. -/
  known : ∀ action ∈ c.todo, ∀ k, action.target? = some k → k < c.scenarios.length
  /-- All searches come before the first scenario starts. -/
  ends : c.todo.Pairwise fun action action' =>
    action.EndsSearches → action'.candidate? = none

/-- At first a class has searched for nothing. -/
lemma searched_ofNode (options : RunOptions) (isSkipped : NodeId → Bool) (group : Nat)
    (node : Node) : (ofNode options isSkipped group node).Searched isSkipped [] where
  program := candidates_actions group node _ _
  scenarios := rfl
  groups := fun x hx => absurd hx List.not_mem_nil
  first := List.nil_prefix
  ahead := fun _ => candidates_actions group node _ _
  known := by
    intro action haction k htarget
    simp only [todo, ofNode, actions, List.mem_append, List.mem_cons, List.mem_map,
      List.not_mem_nil, or_false] at haction
    have hnone : action.target? = none := by
      rcases haction with (((rfl | ⟨c, -, rfl⟩) | rfl) | ⟨c, -, rfl⟩) | rfl | rfl | rfl
      case inl.inr => exact c.target?_resolve
      all_goals rfl
    exact absurd (hnone.symm.trans htarget) (by simp)
  ends := by
    refine ClassAction.pairwise_append (fun action haction => ?_) (by simp [ClassAction.candidate?])
    simp only [List.mem_append, List.mem_cons, List.mem_map, List.not_mem_nil, or_false] at haction
    rcases haction with ((rfl | ⟨c, -, rfl⟩) | rfl) | ⟨c, -, rfl⟩
    case inr => exact c.not_endsSearches_resolve
    all_goals simp [ClassAction.EndsSearches]

namespace Searched

variable {isSkipped : NodeId → Bool} {lookups : List Lookup}

lemma todo_of_running {actions : List ClassAction} (hphase : c.phase = .running actions) :
    c.todo = actions := by
  rw [todo, hphase]

/-- The task of a class replaces its next action by others: what the action searches for, is searched
for or remains to be. -/
lemma replace (h : c.Searched isSkipped lookups) {action : ClassAction}
    {rest front : List ClassAction} {more : List Lookup} (hphase : c.phase = .running (action :: rest))
    (hphase' : c'.phase = .running (front ++ rest)) (hplace : c'.place = c.place)
    (hnode : c'.node = c.node) (hprogram : c'.program = c.program)
    (hscenarios : c'.scenarios.map ScenarioRun.job =
      c.scenarios.map ScenarioRun.job ++ more.filterMap Lookup.job?)
    (hgroups : ∀ x ∈ more, x.group = c.place)
    (hmore : more.map Lookup.candidate ++ front.filterMap ClassAction.candidate? =
      [action].filterMap ClassAction.candidate?)
    (hfront : ∀ action ∈ front, ¬ action.EndsSearches ∧
      ∀ k, action.target? = some k → k < c'.scenarios.length) :
    c'.Searched isSkipped (lookups ++ more) := by
  have htodo := todo_of_running hphase
  have htodo' := todo_of_running hphase'
  have hlength : c.scenarios.length ≤ c'.scenarios.length := by
    have hlengths := congrArg List.length hscenarios
    rw [List.length_append, List.length_map, List.length_map] at hlengths
    omega
  have hall : (lookups ++ more).map Lookup.candidate ++ c'.todo.filterMap ClassAction.candidate? =
      ClassPlan.runnable isSkipped c'.node := by
    have hahead := h.ahead (by simp [hphase])
    rw [htodo, ← List.singleton_append, List.filterMap_append, ← hmore] at hahead
    rw [htodo', List.map_append, List.filterMap_append, hnode, ← hahead]
    simp only [List.append_assoc]
  have hknown := h.known
  have hends := h.ends
  rw [htodo] at hknown hends
  exact
    { program := by rw [hprogram, hnode, h.program]
      scenarios := by rw [hscenarios, h.scenarios, List.filterMap_append]
      groups := by
        rw [hplace]
        exact List.forall_mem_append.mpr ⟨h.groups, hgroups⟩
      first := ⟨_, hall⟩
      ahead := fun _ => hall
      known := by
        rw [htodo']
        refine List.forall_mem_append.mpr ⟨fun action haction => (hfront action haction).2, ?_⟩
        exact fun action haction k htarget =>
          Nat.lt_of_lt_of_le (hknown action (List.mem_cons_of_mem _ haction) k htarget) hlength
      ends := by
        rw [htodo']
        exact ClassAction.pairwise_append (fun action haction => (hfront action haction).1)
          (List.pairwise_cons.mp hends).2 }

/-- What is left to do becomes less, but no search is left out, or the task of the class is cut off. -/
lemma shorten (h : c.Searched isSkipped lookups) (hplace : c'.place = c.place)
    (hnode : c'.node = c.node) (hprogram : c'.program = c.program)
    (hscenarios : c'.scenarios.map ScenarioRun.job = c.scenarios.map ScenarioRun.job)
    (htodo : c'.todo.Sublist c.todo)
    (hahead : c'.phase ≠ .crashed → c.phase ≠ .crashed ∧
      c'.todo.filterMap ClassAction.candidate? = c.todo.filterMap ClassAction.candidate?) :
    c'.Searched isSkipped lookups where
  program := by rw [hprogram, hnode, h.program]
  scenarios := hscenarios.trans h.scenarios
  groups := by
    rw [hplace]
    exact h.groups
  first := by
    rw [hnode]
    exact h.first
  ahead hcrashed := by
    obtain ⟨hrunning, hsame⟩ := hahead hcrashed
    rw [hsame, hnode]
    exact h.ahead hrunning
  known action haction k htarget := by
    have hlength := congrArg List.length hscenarios
    rw [List.length_map, List.length_map] at hlength
    rw [hlength]
    exact h.known action (htodo.subset haction) k htarget
  ends := h.ends.sublist htodo

/-- **A step of the task of a class** adds what comes of its search. -/
theorem task (h : c.Searched isSkipped lookups) {found? : Option Lookup}
    (hturn : c.TaskTurn b o c' o' found?) :
    c'.Searched isSkipped (lookups ++ found?.toList) := by
  cases hturn with
  | @asked candidate name rest s hphase hasked =>
      -- the search goes on with a name
      have hfront : ∀ action ∈ [ClassAction.lookUp candidate name], ¬ action.EndsSearches ∧
          ∀ k, action.target? = some k → k < c.scenarios.length := by
        simp [ClassAction.EndsSearches, ClassAction.target?]
      exact h.replace hphase rfl rfl rfl rfl (List.append_nil _).symm nofun rfl hfront
  | @settled action candidate rest found s hphase hcandidate hconsults =>
      have hgroups : ∀ x ∈ [(⟨c.place, candidate, found⟩ : Lookup)], x.group = c.place := by simp
      cases found with
      | ok environment =>
          have hphase' : (c.settle rest candidate (.ok environment)).phase = .running ([] ++ rest) := rfl
          exact h.replace hphase hphase' rfl rfl rfl List.map_append hgroups
            (by rw [List.filterMap_cons_some hcandidate]; rfl) nofun
      | error e =>
          have hnone : (failActions c.place candidate e).filterMap ClassAction.candidate? = [] :=
            List.filterMap_eq_nil_iff.mpr fun action h => (cases_of_mem_failActions h).1.1
          refine h.replace hphase rfl rfl rfl rfl (List.append_nil _).symm hgroups
            (by rw [List.filterMap_cons_some hcandidate, hnone]; rfl) fun action haction => ?_
          obtain ⟨-, hends, htarget⟩ := cases_of_mem_failActions haction
          exact ⟨hends, by simp [htarget]⟩
  | @launched rest hphase =>
      have hnone : (startAll 0 (c.scenarios.map ScenarioRun.job)).filterMap
          ClassAction.candidate? = [] :=
        List.filterMap_eq_nil_iff.mpr fun action h => (cases_of_mem_startAll h).1.1
      refine h.replace hphase rfl rfl rfl rfl (List.append_nil _).symm nofun
        (by rw [hnone]; rfl) fun action haction => ?_
      obtain ⟨-, hends, htarget⟩ := cases_of_mem_startAll haction
      rw [Nat.zero_add, List.length_map] at htarget
      exact ⟨hends, htarget⟩
  | @plain action rest _ _ hphase hplain hact =>
      obtain ⟨hplace, hnode, hprogram, hscenarios, -, hnext⟩ := of_plain hplain hact
      have htodo := todo_of_running hphase
      have hsublist : c'.todo.Sublist c.todo :=
        htodo.symm ▸ (sublist_todo_of_plain hplain hact).trans (List.sublist_cons_self ..)
      have hrest : c.todo.filterMap ClassAction.candidate? =
          rest.filterMap ClassAction.candidate? := by
        rw [htodo, List.filterMap_cons_none hplain.1]
      rw [Option.toList_none, List.append_nil]
      refine h.shorten hplace hnode hprogram hscenarios hsublist fun hcrashed =>
        ⟨by simp [hphase], ?_⟩
      rcases hnext with hrunning | hcrashed' | ⟨rfl, verdict, hfinished⟩
      · rw [todo_of_running hrunning, hrest]
      · exact absurd hcrashed' hcrashed
      · -- behind the end of a class no search is left
        have hends := h.ends
        rw [htodo] at hends
        have hnone : rest.filterMap ClassAction.candidate? = [] :=
          List.filterMap_eq_nil_iff.mpr fun action haction =>
            (List.pairwise_cons.mp hends).1 action haction (Or.inr rfl)
        have htodo' : c'.todo = [] := by rw [todo, hfinished]
        rw [htodo', hrest, hnone, List.filterMap_nil]

lemma begin (h : c.Searched isSkipped lookups) : c.begin.Searched isSkipped lookups := by
  have htodo := todo_begin c
  unfold ClassRun.begin at htodo ⊢
  split
  · next hwaiting =>
    simp only [hwaiting] at htodo
    exact h.shorten rfl rfl rfl rfl (by simp only [htodo, List.Sublist.refl])
      fun _ => ⟨by simp [hwaiting], by rw [htodo]⟩
  · exact h

lemma crash (h : c.Searched isSkipped lookups) (hcrash : c.crash? = some c') :
    c'.Searched isSkipped lookups := by
  unfold crash? at hcrash
  split at hcrash
  · obtain rfl := Option.some.inj hcrash
    exact h.shorten rfl rfl rfl rfl (List.nil_sublist _) fun hne => absurd rfl hne
  · exact absurd hcrash (by simp)

/-- A scenario in another phase. -/
lemma setPhase (h : c.Searched isSkipped lookups) (l : Nat) (phase : Phase) (scope : ClassScope) :
    ({ c with scope := scope }.setPhase l phase).Searched isSkipped lookups :=
  h.shorten rfl rfl rfl (map_job_changePhase ..) (List.Sublist.refl _) fun hrunning => ⟨hrunning, rfl⟩

end Searched

end ClassRun

/-! ## The searches of a run -/

namespace Run

variable {σ : Type} {b : Backend σ} {options : RunOptions} {request : RunRequest} {r r' : Run σ}
  {choices : List Choice}

/-- What comes of the search that a choice ends. -/
def lookup? (b : Backend σ) (r : Run σ) : Choice → Option Lookup
  | .advance (.classTask k) => (r.classes[k]?).bind fun c => c.lookup? b r.outside.backend
  | _ => none

/-- **The searches of a run**, the first one in front: what came of each search that the choices end. -/
def lookups (b : Backend σ) (options : RunOptions) (r : Run σ) (choices : List Choice) :
    List Lookup :=
  r.trace (fun r choice => (r.lookup? b choice).toList) b options choices

/-- **The steps of a run**, as the classes see them, and what comes of a search. -/
inductive Moves (b : Backend σ) (r : Run σ) : Run σ → Option Lookup → Prop where
  | engine {r' : Run σ}
    (hclasses : r'.classes = r.classes ∨ ∃ k, r'.classes = r.classes.modify k ClassRun.begin) :
    Moves b r r' none
  | task {k : Nat} {c c' : ClassRun} {o' : Outside σ} {found? : Option Lookup}
    (hk : r.classes[k]? = some c) (hturn : c.TaskTurn b r.outside c' o' found?) :
    Moves b r { r.setClass k c' with outside := o' } found?
  | crashed {k : Nat} {c c' : ClassRun} (hk : r.classes[k]? = some c)
    (hcrash : c.crash? = some c') : Moves b r (r.setClass k c') none
  | scenario {k l : Nat} {c : ClassRun} {phase : Phase} {scope : ClassScope} {o' : Outside σ}
    (hk : r.classes[k]? = some c) :
    Moves b r { r.setClass k ({ c with scope := scope }.setPhase l phase) with outside := o' } none

/-- **Each choice** makes one of the steps. -/
theorem moves_of_step {choice : Choice} (hstep : r.step? b options choice = some r') :
    r.Moves b r' (r.lookup? b choice) := by
  cases choice with
  | advance actor =>
      cases actor with
      | engine =>
          simp only [step?, advance?] at hstep
          refine .engine ?_
          split at hstep
          · next action rest _ =>
            cases action with
            | start k => exact Or.inr ⟨k, by rw [← Option.some.inj hstep]⟩
            | awaitAll =>
                simp only [act, Option.ite_none_right_eq_some, Option.some.injEq] at hstep
                exact Or.inl (by rw [← hstep.2])
            | _ => exact Or.inl (by rw [← Option.some.inj hstep])
          · exact absurd hstep (by simp)
      | classTask k =>
          rw [step?] at hstep
          obtain ⟨c, c', o', hk, hadvance, rfl⟩ := advance_classTask_iff.mp hstep
          rw [lookup?, hk, Option.bind_some]
          exact .task hk (ClassRun.taskTurn_of_advance hadvance)
      | scenarioTask k l =>
          rw [step?] at hstep
          obtain ⟨c, c', o', hk, hadvance, rfl⟩ := advance_scenarioTask_iff.mp hstep
          obtain ⟨job, phase, phase', scope', -, -, rfl⟩ :=
            ClassRun.scenarioStep_of_advance hadvance
          exact .scenario hk
  | crash actor reason =>
      cases actor with
      | engine =>
          simp only [step?, crash?] at hstep
          split at hstep
          · exact absurd hstep (by simp)
          · exact .engine (Or.inl (by rw [← Option.some.inj hstep]))
      | classTask k =>
          rw [step?] at hstep
          obtain ⟨c, c', hk, hcrash, rfl⟩ := crash_classTask_iff.mp hstep
          exact .crashed hk hcrash
      | scenarioTask k l =>
          rw [step?] at hstep
          obtain ⟨c, c', hk, hcrash, rfl⟩ := crash_scenarioTask_iff.mp hstep
          obtain ⟨job, phase, -, -, rfl⟩ := ClassRun.exposed_of_crash hcrash
          show r.Moves b { r.setClass k _ with outside := r.outside } none
          exact .scenario hk

/-- **What a run has searched for**: each class that is not skipped has searched for its scenarios, and
nothing else is searched for. -/
structure Searched (request : RunRequest) (lookups : List Lookup) (r : Run σ) : Prop where
  length : r.classes.length = (request.placed false).length
  classes : ∀ {k : Nat} {p : Node × Nat} {c : ClassRun}, (request.placed false)[k]? = some p →
    r.classes[k]? = some c → c.node = p.1 ∧ c.place = p.2 ∧
      c.Searched request.skip.contains (lookups.filter fun x => x.group == p.2)
  within : ∀ x ∈ lookups, ∃ p ∈ request.placed false, x.group = p.2

namespace Searched

variable {lookups : List Lookup}

lemma exists_placed (h : r.Searched request lookups) {k : Nat} {c : ClassRun}
    (hk : r.classes[k]? = some c) :
    ∃ p, (request.placed false)[k]? = some p ∧ c.node = p.1 ∧ c.place = p.2 ∧
      c.Searched request.skip.contains (lookups.filter fun x => x.group == p.2) := by
  have hlt := (List.getElem?_eq_some_iff.mp hk).1
  rw [h.length] at hlt
  have hp := List.getElem?_eq_getElem hlt
  exact ⟨_, hp, h.classes hp hk⟩

/-- Each class that is not skipped is one of the run. -/
lemma exists_class (h : r.Searched request lookups) {p : Node × Nat} (hp : p ∈ request.placed false) :
    ∃ c ∈ r.classes, c.node = p.1 ∧
      c.Searched request.skip.contains (lookups.filter fun x => x.group == p.2) := by
  obtain ⟨k, hk⟩ := List.getElem?_of_mem hp
  have hlt : k < r.classes.length := by
    rw [h.length]
    exact (List.getElem?_eq_some_iff.mp hk).1
  obtain ⟨hnode, -, hsearched⟩ := h.classes hk (List.getElem?_eq_getElem hlt)
  exact ⟨_, List.getElem_mem hlt, hnode, hsearched⟩

/-- A class that is not skipped has searched for its first scenarios. -/
lemma first (h : r.Searched request lookups) {i : Nat} {node : Node}
    (hchild : request.root.children[i]? = some node)
    (hskip : request.skip.contains node.id = false) :
    (lookups.filter fun x => x.group == i).map Lookup.candidate <+:
      ClassPlan.runnable request.skip.contains node := by
  obtain ⟨c, -, rfl, hsearched⟩ :=
    h.exists_class (RunRequest.mem_placed (c := (node, i)).mpr ⟨hchild, hskip⟩)
  exact hsearched.first

/-- A class that is finished has searched for all of its scenarios. -/
lemma exists_lookup (h : r.Searched request lookups)
    (hfinished : ∀ c ∈ r.classes, ∃ verdict, c.phase = .finished verdict) {i : Nat} {node : Node}
    (hchild : request.root.children[i]? = some node)
    (hskip : request.skip.contains node.id = false) {candidate : Candidate}
    (hrunnable : candidate ∈ ClassPlan.runnable request.skip.contains node) :
    ∃ found, ⟨i, candidate, found⟩ ∈ lookups := by
  obtain ⟨c, hmem, rfl, hsearched⟩ :=
    h.exists_class (RunRequest.mem_placed (c := (node, i)).mpr ⟨hchild, hskip⟩)
  obtain ⟨verdict, hphase⟩ := hfinished c hmem
  have hall := hsearched.ahead (by simp [hphase])
  rw [ClassRun.todo, hphase, List.filterMap_nil, List.append_nil] at hall
  rw [← hall, List.mem_map] at hrunnable
  obtain ⟨⟨group, _, found⟩, hx, rfl⟩ := hrunnable
  obtain ⟨hmem, hgroup⟩ := List.mem_filter.mp hx
  obtain rfl : group = i := beq_iff_eq.mp hgroup
  exact ⟨found, hmem⟩

/-- A step of one class searches for nothing of the others. -/
lemma of_class (h : r.Searched request lookups) {k : Nat} {c c' : ClassRun} {o' : Outside σ}
    {more : List Lookup} (hk : r.classes[k]? = some c) (hnode : c'.node = c.node)
    (hplace : c'.place = c.place) (hmore : ∀ x ∈ more, x.group = c.place)
    (hclass : ∀ {own}, c.Searched request.skip.contains own →
      c'.Searched request.skip.contains (own ++ more)) :
    ({ r.setClass k c' with outside := o' } : Run σ).Searched request (lookups ++ more) := by
  have hlt := (List.getElem?_eq_some_iff.mp hk).1
  obtain ⟨p, hp, hpnode, hpplace, -⟩ := h.exists_placed hk
  have hall : ∀ {k' : Nat} {p' : Node × Nat}, (request.placed false)[k']? = some p' → k' ≠ k →
      more.filter (fun x => x.group == p'.2) = [] := by
    intro k' p' hp' hne
    rw [List.filter_eq_nil_iff]
    intro x hx hgroup
    have hsame : p'.2 = p.2 := by
      rw [← eq_of_beq hgroup, hmore x hx, hpplace]
    exact hne (eq_of_pairwise_lt (RunRequest.pairwise_placed false) hp' hp hsame)
  have hown : more.filter (fun x => x.group == p.2) = more := by
    rw [List.filter_eq_self]
    intro x hx
    rw [hmore x hx, hpplace]
    exact beq_self_eq_true _
  refine ⟨by rw [← h.length]; exact List.length_set, ?_, ?_⟩
  · intro k' p' d hp' hd
    rw [List.filter_append]
    by_cases hkk : k' = k
    · subst hkk
      obtain rfl := Option.some.inj (hp.symm.trans hp')
      obtain rfl : c' = d := by simpa [setClass, hlt] using hd
      obtain ⟨hdnode, hdplace, hsearched⟩ := h.classes hp hk
      rw [hown]
      exact ⟨hnode.trans hdnode, hplace.trans hdplace, hclass hsearched⟩
    · rw [hall hp' hkk, List.append_nil]
      exact h.classes hp' (by simpa [setClass, Ne.symm hkk] using hd)
  · intro x hx
    rcases List.mem_append.mp hx with hx | hx
    · exact h.within x hx
    · exact ⟨p, List.mem_of_getElem? hp, (hmore x hx).trans hpplace⟩

/-- The classes stay as they are, or some of them start. -/
lemma of_classes (h : r.Searched request lookups)
    (hclasses : r'.classes = r.classes ∨ ∃ k, r'.classes = r.classes.modify k ClassRun.begin) :
    r'.Searched request lookups := by
  rcases hclasses with hclasses | ⟨l, hclasses⟩
  · exact ⟨by rw [hclasses]; exact h.length, by rw [hclasses]; exact h.classes, h.within⟩
  · refine ⟨by rw [hclasses, List.length_modify]; exact h.length, ?_, h.within⟩
    intro k p c hp hk
    rw [hclasses, List.getElem?_modify, Option.map_eq_map, Option.map_eq_some_iff] at hk
    obtain ⟨d, hd, rfl⟩ := hk
    obtain ⟨hnode, hplace, hsearched⟩ := h.classes hp hd
    split
    · have hbegin : d.begin.node = d.node ∧ d.begin.place = d.place := by
        unfold ClassRun.begin
        split <;> exact ⟨rfl, rfl⟩
      exact ⟨hbegin.1.trans hnode, hbegin.2.trans hplace, hsearched.begin⟩
    · exact ⟨hnode, hplace, hsearched⟩

/-- **A step** adds what comes of its search. -/
theorem step (h : r.Searched request lookups) {choice : Choice}
    (hstep : r.step? b options choice = some r') :
    r'.Searched request (lookups ++ (r.lookup? b choice).toList) := by
  have hnone : ∀ {k : Nat} {c c' : ClassRun} (o' : Outside σ), r.classes[k]? = some c →
      c'.node = c.node → c'.place = c.place →
      (∀ {own}, c.Searched request.skip.contains own → c'.Searched request.skip.contains own) →
      ({ r.setClass k c' with outside := o' } : Run σ).Searched request (lookups ++ []) :=
    fun _ hk hnode hplace hclass => h.of_class hk hnode hplace
      (fun x hx => absurd hx List.not_mem_nil) fun hsearched => by
        rw [List.append_nil]
        exact hclass hsearched
  have hmoves := moves_of_step hstep
  generalize r.lookup? b choice = found? at hmoves ⊢
  cases hmoves with
  | engine hclasses =>
      rw [Option.toList_none, List.append_nil]
      exact h.of_classes hclasses
  | task hk hturn =>
      obtain ⟨hplace, hnode, hgroup⟩ := hturn.same
      exact h.of_class hk hnode hplace hgroup fun hsearched => hsearched.task hturn
  | @crashed _ c c' hk hcrash =>
      have hsame : c'.node = c.node ∧ c'.place = c.place := by
        unfold ClassRun.crash? at hcrash
        split at hcrash
        · rw [← Option.some.inj hcrash]
          exact ⟨rfl, rfl⟩
        · exact absurd hcrash (by simp)
      exact hnone r.outside hk hsame.1 hsame.2 fun hsearched => hsearched.crash hcrash
  | scenario hk => exact hnone _ hk rfl rfl fun hsearched => hsearched.setPhase ..

end Searched

/-- Nothing has been searched for before the first step. -/
lemma searched_ofRequest (options : RunOptions) (request : RunRequest) (s : σ) :
    (ofRequest options request s).Searched request [] where
  length := by rw [RunRequest.classes_ofRequest, List.length_map]
  classes := by
    intro k p c hp hk
    rw [RunRequest.classes_ofRequest, List.getElem?_map, hp] at hk
    obtain rfl := Option.some.inj hk
    exact ⟨rfl, rfl, ClassRun.searched_ofNode ..⟩
  within := fun x hx => absurd hx List.not_mem_nil

/-- **Every run** has searched for the first scenarios of each class, once for each of them, whichever
way its tasks are scheduled and cut off. -/
theorem searched_of_reaches {s : σ}
    (hreaches : Reaches b options (ofRequest options request s) choices r) :
    r.Searched request ((ofRequest options request s).lookups b options choices) :=
  trace_induct (motive := fun r lookups => r.Searched request lookups) hreaches
    (searched_ofRequest options request s) fun _ _ hsearched hstep => hsearched.step hstep

end Run

/-! ## What is going to be found -/

namespace Findings

/-- What came of some searches, and nothing for other scenarios. -/
def ofLookups (lookups : List Lookup) : Findings := fun group c =>
  (lookups.find? fun x => x.group == group && x.candidate.place == c.place).elim
    (.error (.internal "not searched for")) Lookup.found

/-- The findings tell each search that is the only one for its scenario. -/
lemma agree_ofLookups {lookups : List Lookup}
    (honce : ∀ x ∈ lookups, ∀ y ∈ lookups, x.group = y.group →
      x.candidate.place = y.candidate.place → x = y) :
    (ofLookups lookups).Agree lookups := by
  intro x hx
  obtain ⟨y, hy⟩ : ∃ y, lookups.find? (fun y =>
      y.group == x.group && y.candidate.place == x.candidate.place) = some y :=
    Option.isSome_iff_exists.mp (List.find?_isSome.mpr ⟨x, hx, by simp⟩)
  have hsame := List.find?_some hy
  simp only [Bool.and_eq_true, beq_iff_eq] at hsame
  rw [ofLookups, hy, honce x hx y (List.mem_of_find?_eq_some hy) hsame.1.symm hsame.2.symm]
  rfl

end Findings

/-- **Some findings agree with all searches of a run**, since no scenario is searched for twice. -/
theorem Run.Searched.exists_findings {σ : Type} {request : RunRequest} {lookups : List Lookup}
    {r : Run σ} (h : r.Searched request lookups) : ∃ findings : Findings, findings.Agree lookups := by
  refine ⟨.ofLookups lookups, Findings.agree_ofLookups fun x hx y hy hgroup hplace => ?_⟩
  obtain ⟨p, hp, hxp⟩ := h.within x hx
  obtain ⟨c, -, -, hsearched⟩ := h.exists_class hp
  -- the scenarios that were searched for stand in the order of their places
  have horder : ((lookups.filter fun x => x.group == p.2).map Lookup.candidate).Pairwise
      fun c c' => c.place < c'.place :=
    ((ClassPlan.pairwise_ofChildren 0 _).filter _).sublist hsearched.first.sublist
  have hown : ∀ z ∈ lookups, z.group = p.2 →
      ∃ i, (lookups.filter fun x => x.group == p.2)[i]? = some z := fun z hz hgroup =>
    List.getElem?_of_mem (List.mem_filter.mpr ⟨hz, by simpa using hgroup⟩)
  obtain ⟨i, hi⟩ := hown x hx hxp
  obtain ⟨j, hj⟩ := hown y hy (hgroup ▸ hxp)
  rw [List.pairwise_map] at horder
  obtain rfl := eq_of_pairwise_lt horder hi hj hplace
  exact Option.some.inj (hi.symm.trans hj)

end ScenarioRunner

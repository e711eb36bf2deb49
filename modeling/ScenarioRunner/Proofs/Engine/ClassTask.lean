import ScenarioRunner.Proofs.Engine.ClassPlan

/-!
# The steps of the task of a class

Every step that the task of a class can make, once and for all, so that what is proved of such steps
never opens `ClassRun.advance?`.

* `ClassPlan.Reached` is how far the task has come, and `ClassPlan.Stage` says where that is in its
  program.
* `ClassPlan.TaskStep` lists the steps: the class, what lies outside and what was reached, before and
  behind.
* `ClassPlan.taskStep_of_advance`: what the task does is in the list.

The program runs through the prelude, and then through four actions for each job: a permit is taken,
the start is told, the scenario is put in flight, and its task is launched.
-/

namespace ScenarioRunner

namespace ClassScope

/-- The scope behind an action of the prelude. -/
def prepared (scope : ClassScope) : ClassAction → ClassScope
  | .record verdict => scope.record verdict
  | .countDown => scope.countDown
  | _ => scope

/-- A permit is granted if one is free, and nothing but the free permits changes. -/
lemma acquire?_eq_some_iff {scope scope' : ClassScope} :
    scope.acquire? = some scope' ↔
      scope.free ≠ 0 ∧ scope' = { scope with free := scope.free - 1 } := by
  unfold acquire?
  split
  · next hfree => simp [hfree]
  · next free hfree => simp [hfree, eq_comm]

lemma of_acquire? {scope scope' : ClassScope} (h : scope.acquire? = some scope') :
    scope'.capacity = scope.capacity ∧ scope'.free + 1 = scope.free ∧
      scope'.remaining = scope.remaining := by
  obtain ⟨hfree, rfl⟩ := acquire?_eq_some_iff.mp h
  exact ⟨rfl, Nat.sub_add_cancel (Nat.pos_of_ne_zero hfree), rfl⟩

lemma enter_permits (scope : ClassScope) (id : NodeId) :
    (scope.enter id).capacity = scope.capacity ∧ (scope.enter id).free = scope.free ∧
      (scope.enter id).remaining = scope.remaining := by
  unfold enter
  split <;> exact ⟨rfl, rfl, rfl⟩

end ClassScope

namespace Outside

variable {σ : Type}

/-- What lies outside, behind an action of the prelude. -/
def prepared (o : Outside σ) : ClassAction → Outside σ
  | .emit e => o.emit e
  | _ => o

lemma prepared_eq (o : Outside σ) (action : ClassAction) :
    o.prepared action = { o with events := o.events ++ action.event?.toList } := by
  cases action <;> simp [prepared, emit, ClassAction.event?]

lemma events_prepared (o : Outside σ) (action : ClassAction) :
    (o.prepared action).events = o.events ++ action.event?.toList := by
  rw [prepared_eq]

end Outside

namespace ClassPlan

variable {σ : Type} {P : ClassPlan}

/-- How far the task of a class has come. -/
structure Reached where
  /-- The events that the prelude has told. -/
  told : List Event
  /-- The number of jobs that have been given a permit. -/
  granted : Nat
  /-- The number of jobs whose start was told. -/
  started : Nat
  /-- The number of jobs whose tasks were launched. -/
  launched : Nat

/-- The prelude has told some events, and no job has been given a permit. -/
def Reached.before (told : List Event) : Reached :=
  ⟨told, 0, 0, 0⟩

/-- **Where the task of a class is** in its program, by how far it has come. -/
inductive Stage (P : ClassPlan) : ClassPhase → Reached → Prop where
  | waiting : Stage P .waiting (.before [])
  | preparing {done todo : List ClassAction} {action : ClassAction}
    (hplan : P.prelude = done ++ action :: todo) :
    Stage P (.running (action :: (todo ++ P.ending 0))) (.before (toldBy done))
  | ready {k : Nat} (hk : k ≤ P.jobs.length) :
    Stage P (.running (P.ending k)) ⟨toldBy P.prelude, k, k, k⟩
  | granted {k : Nat} {job : Job} (hjob : P.jobs[k]? = some job) :
    Stage P
      (.running (.emit (job.event .started) :: .enter job.node.id :: .start k :: P.ending (k + 1)))
      ⟨toldBy P.prelude, k + 1, k, k⟩
  | begun {k : Nat} {job : Job} (hjob : P.jobs[k]? = some job) :
    Stage P (.running (.enter job.node.id :: .start k :: P.ending (k + 1)))
      ⟨toldBy P.prelude, k + 1, k + 1, k⟩
  | entered {k : Nat} {job : Job} (hjob : P.jobs[k]? = some job) :
    Stage P (.running (.start k :: P.ending (k + 1))) ⟨toldBy P.prelude, k + 1, k + 1, k⟩
  | closing :
    Stage P (.running [.close])
      ⟨toldBy P.prelude, P.jobs.length, P.jobs.length, P.jobs.length⟩
  | finished (verdict : Verdict) :
    Stage P (.finished verdict)
      ⟨toldBy P.prelude, P.jobs.length, P.jobs.length, P.jobs.length⟩
  /-- The gate could not be made. -/
  | crashed {done todo : List ClassAction} (hplan : P.prelude = done ++ .openGate :: todo) :
    Stage P .crashed (.before (toldBy done))

/-- A step of the task of a class: the class, what lies outside and what was reached, before and
behind. -/
inductive TaskStep (P : ClassPlan) (c : ClassRun) (o : Outside σ) :
    Reached → ClassRun → Outside σ → Reached → Prop where
  | prepared {done todo : List ClassAction} {action : ClassAction}
    (hplan : P.prelude = done ++ action :: todo)
    (hphase : c.phase = .running (action :: (todo ++ P.ending 0)))
    (hgate : action = .openGate → c.scope.capacity ≤ ClassScope.limit) :
    TaskStep P c o (.before (toldBy done))
      { c with phase := .running (todo ++ P.ending 0), scope := c.scope.prepared action }
      (o.prepared action) (.before (toldBy (done ++ [action])))
  | overloaded {done todo : List ClassAction} (hplan : P.prelude = done ++ .openGate :: todo)
    (hphase : c.phase = .running (.openGate :: (todo ++ P.ending 0)))
    (hgate : ClassScope.limit < c.scope.capacity) :
    TaskStep P c o (.before (toldBy done)) { c with phase := .crashed } o
      (.before (toldBy done))
  | granted {k : Nat} {job : Job} {scope : ClassScope} (hjob : P.jobs[k]? = some job)
    (hphase : c.phase = .running (P.ending k)) (hacquire : c.scope.acquire? = some scope) :
    TaskStep P c o ⟨toldBy P.prelude, k, k, k⟩
      ({ c with
        phase :=
          .running
            (.emit (job.event .started) :: .enter job.node.id :: .start k :: P.ending (k + 1))
        scope }.changePhase k .grant)
      o ⟨toldBy P.prelude, k + 1, k, k⟩
  | begun {k : Nat} {job : Job} (hjob : P.jobs[k]? = some job)
    (hphase : c.phase =
      .running (.emit (job.event .started) :: .enter job.node.id :: .start k :: P.ending (k + 1))) :
    TaskStep P c o ⟨toldBy P.prelude, k + 1, k, k⟩
      { c with phase := .running (.enter job.node.id :: .start k :: P.ending (k + 1)) }
      (o.emit (job.event .started)) ⟨toldBy P.prelude, k + 1, k + 1, k⟩
  | entered {k : Nat} {job : Job} (hjob : P.jobs[k]? = some job)
    (hphase : c.phase = .running (.enter job.node.id :: .start k :: P.ending (k + 1))) :
    TaskStep P c o ⟨toldBy P.prelude, k + 1, k + 1, k⟩
      { c with
        phase := .running (.start k :: P.ending (k + 1))
        scope := c.scope.enter job.node.id }
      o ⟨toldBy P.prelude, k + 1, k + 1, k⟩
  | launched {k : Nat} {job : Job} (hjob : P.jobs[k]? = some job)
    (hphase : c.phase = .running (.start k :: P.ending (k + 1))) :
    TaskStep P c o ⟨toldBy P.prelude, k + 1, k + 1, k⟩
      ({ c with phase := .running (P.ending (k + 1)) }.changePhase k .start) o
      ⟨toldBy P.prelude, k + 1, k + 1, k + 1⟩
  | awaited (hphase : c.phase = .running [.awaitAll, .close]) (hdone : c.scope.isDone = true) :
    TaskStep P c o ⟨toldBy P.prelude, P.jobs.length, P.jobs.length, P.jobs.length⟩
      { c with phase := .running [.close] } o
      ⟨toldBy P.prelude, P.jobs.length, P.jobs.length, P.jobs.length⟩
  | closed (hphase : c.phase = .running [.close]) :
    TaskStep P c o ⟨toldBy P.prelude, P.jobs.length, P.jobs.length, P.jobs.length⟩
      { c with phase := .finished c.scope.verdict }
      (o.emit ⟨.classAt c.place, c.node, .finished (.ofVerdict c.scope.verdict)⟩)
      ⟨toldBy P.prelude, P.jobs.length, P.jobs.length, P.jobs.length⟩

lemma stage_of_prelude {done todo : List ClassAction} (hplan : P.prelude = done ++ todo) :
    P.Stage (.running (todo ++ P.ending 0)) (.before (toldBy done)) := by
  cases todo with
  | nil =>
      rw [List.append_nil] at hplan
      rw [← hplan]
      exact .ready (Nat.zero_le _)
  | cons action todo => exact .preparing hplan

/-- **What the task of a class does** is one of the steps, and leads to a stage. -/
theorem taskStep_of_advance {b : Backend σ} {c c' : ClassRun} {o o' : Outside σ} {reached : Reached}
    (hstage : P.Stage c.phase reached) (h : c.advance? b o = some (c', o')) :
    ∃ reached', P.TaskStep c o reached c' o' reached' ∧ P.Stage c'.phase reached' := by
  generalize hphase : c.phase = phase at hstage
  cases hstage with
  | waiting => simp [ClassRun.advance?, hphase] at h
  | finished verdict => simp [ClassRun.advance?, hphase] at h
  | crashed hplan => simp [ClassRun.advance?, hphase] at h
  | @preparing done todo action hplan =>
      have hnext : P.Stage (.running (todo ++ P.ending 0)) (.before (toldBy (done ++ [action]))) :=
        stage_of_prelude (by rw [hplan, List.append_assoc]; rfl)
      have hmem : action ∈ P.prelude := by
        rw [hplan]
        simp
      rw [ClassRun.advance?, hphase] at h
      rcases cases_of_mem_prelude hmem with ⟨e, rfl⟩ | rfl | ⟨v, rfl⟩ | rfl
      · obtain ⟨rfl, rfl⟩ := Prod.mk.inj (Option.some.inj h)
        exact ⟨_, .prepared hplan hphase (by simp), hnext⟩
      · dsimp only [ClassRun.act] at h
        split at h
        · next hgate =>
          obtain ⟨rfl, rfl⟩ := Prod.mk.inj (Option.some.inj h)
          exact ⟨_, .prepared hplan hphase fun _ => hgate, hnext⟩
        · next hgate =>
          obtain ⟨rfl, rfl⟩ := Prod.mk.inj (Option.some.inj h)
          exact ⟨_, .overloaded hplan hphase (Nat.lt_of_not_le hgate), .crashed hplan⟩
      · obtain ⟨rfl, rfl⟩ := Prod.mk.inj (Option.some.inj h)
        exact ⟨_, .prepared hplan hphase (by simp), hnext⟩
      · obtain ⟨rfl, rfl⟩ := Prod.mk.inj (Option.some.inj h)
        exact ⟨_, .prepared hplan hphase (by simp), hnext⟩
  | @ready k hk =>
      rcases Nat.lt_or_ge k P.jobs.length with hlt | hge
      · have hjob := List.getElem?_eq_getElem hlt
        rw [ClassRun.advance?, hphase, ending_of_getElem? hjob] at h
        dsimp only [ClassRun.act] at h
        rw [Option.map_eq_some_iff] at h
        obtain ⟨scope, hacquire, heq⟩ := h
        obtain ⟨rfl, rfl⟩ := Prod.mk.inj heq
        exact ⟨_, .granted hjob hphase hacquire, .granted hjob⟩
      · obtain rfl : k = P.jobs.length := Nat.le_antisymm hk hge
        rw [ending_of_length_le (Nat.le_refl _)] at hphase
        rw [ClassRun.advance?, hphase] at h
        dsimp only [ClassRun.act] at h
        split at h
        · next hdone =>
          obtain ⟨rfl, rfl⟩ := Prod.mk.inj (Option.some.inj h)
          exact ⟨_, .awaited hphase hdone, .closing⟩
        · exact absurd h (by simp)
  | granted hjob =>
      rw [ClassRun.advance?, hphase] at h
      obtain ⟨rfl, rfl⟩ := Prod.mk.inj (Option.some.inj h)
      exact ⟨_, .begun hjob hphase, .begun hjob⟩
  | begun hjob =>
      rw [ClassRun.advance?, hphase] at h
      obtain ⟨rfl, rfl⟩ := Prod.mk.inj (Option.some.inj h)
      exact ⟨_, .entered hjob hphase, .entered hjob⟩
  | entered hjob =>
      rw [ClassRun.advance?, hphase] at h
      obtain ⟨rfl, rfl⟩ := Prod.mk.inj (Option.some.inj h)
      exact ⟨_, .launched hjob hphase, .ready (List.getElem?_eq_some_iff.mp hjob).1⟩
  | closing =>
      rw [ClassRun.advance?, hphase] at h
      obtain ⟨rfl, rfl⟩ := Prod.mk.inj (Option.some.inj h)
      exact ⟨_, .closed hphase, .finished _⟩

/-- By the plan the task of the class calls no backend and writes nothing.  It tells the prelude, the
starts of its jobs, and its end. -/
lemma TaskStep.exists_outside {c c' : ClassRun} {o o' : Outside σ} {reached reached' : Reached}
    (hstep : P.TaskStep c o reached c' o' reached') :
    ∃ more, o' = { o with events := o.events ++ more } ∧
      ∀ e ∈ more, e ∈ toldBy P.prelude ∨ (∃ job : Job, e = job.event .started) ∨
        ∃ result, e = ⟨.classAt c.place, c.node, .finished result⟩ := by
  cases hstep with
  | @prepared done todo action hplan =>
      refine ⟨_, Outside.prepared_eq .., fun e he => Or.inl ?_⟩
      rw [hplan, toldBy, List.mem_filterMap]
      exact ⟨action, by simp, Option.mem_toList.mp he⟩
  | begun => exact ⟨_, rfl, fun e he => Or.inr (Or.inl ⟨_, List.mem_singleton.mp he⟩)⟩
  | closed => exact ⟨_, rfl, fun e he => Or.inr (Or.inr ⟨_, List.mem_singleton.mp he⟩)⟩
  | _ => exact ⟨[], by rw [List.append_nil], fun e he => absurd he List.not_mem_nil⟩

end ClassPlan

end ScenarioRunner

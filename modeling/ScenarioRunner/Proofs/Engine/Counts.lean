import ScenarioRunner.Proofs.Engine.RunLog

/-!
# Sums over the tasks of a run

What the phases of the scenarios of a run count, for any way to count them, and what the steps of a
run change of it.

* `ClassRun.counts` and `Run.counts` are the sums over the scenarios of a class and of a run.
* `Run.counts_setPhase`: a step of the task of a scenario changes the sum by what its phase changes.
* `ClassPlan.TaskStep.counts_eq` and `Run.counts_of_engine`: the tasks of classes change nothing that
  does not tell a scenario that waits from one that is about to be submitted, and the engine changes
  nothing at all.
-/

namespace ScenarioRunner

namespace ClassRun

variable {c : ClassRun} {f : Phase → Nat} {k : Nat} {job : Job} {phase : Phase}

/-- What the phases of the scenarios of a class count. -/
def counts (f : Phase → Nat) (c : ClassRun) : Nat :=
  total (fun s => f s.phase) c.scenarios

lemma counts_changePhase (g : Phase → Phase) (hk : c.scenarios[k]? = some ⟨job, phase⟩) :
    (c.changePhase k g).counts f + f phase = c.counts f + f (g phase) :=
  total_modify (fun s : ScenarioRun => f s.phase) (fun s => { s with phase := g s.phase }) hk

/-- A change that is not counted. -/
lemma counts_changePhase_of_same {g : Phase → Phase} (h : ∀ phase, f (g phase) = f phase)
    (c : ClassRun) (k : Nat) : (c.changePhase k g).counts f = c.counts f := by
  cases hk : c.scenarios[k]? with
  | none => exact congrArg (total _) (modify_of_none _ hk)
  | some s =>
      have hcounts := counts_changePhase (f := f) g hk
      rw [h] at hcounts
      exact Nat.add_right_cancel hcounts

end ClassRun

/-- The task of a class gives permits to scenarios and starts them, and leaves the others alone. -/
lemma ClassPlan.TaskStep.counts_eq {σ : Type} {P : ClassPlan} {c c' : ClassRun} {o o' : Outside σ}
    {reached reached' : Reached} (hstep : P.TaskStep c o reached c' o' reached') {f : Phase → Nat}
    (hgrant : ∀ phase, f phase.grant = f phase) (hstart : ∀ phase, f phase.start = f phase) :
    c'.counts f = c.counts f := by
  cases hstep with
  | granted => exact ClassRun.counts_changePhase_of_same hgrant _ _
  | launched => exact ClassRun.counts_changePhase_of_same hstart _ _
  | _ => rfl

namespace Run

variable {σ : Type} {b : Backend σ} {options : RunOptions} {r r' : Run σ} {c : ClassRun}
  {f : Phase → Nat} {k l : Nat} {job : Job} {phase : Phase}

/-- What the phases of the scenarios of a run count. -/
def counts (f : Phase → Nat) (r : Run σ) : Nat :=
  total (ClassRun.counts f) r.classes

/-- When nothing is counted of any scenario, nothing is counted of the run. -/
lemma counts_eq_zero (h : ∀ c ∈ r.classes, ∀ s ∈ c.scenarios, f s.phase = 0) :
    r.counts f = 0 := by
  have hclasses : ∀ c ∈ r.classes, c.counts f = 0 := fun c hc => total_const (h c hc)
  exact total_const hclasses

lemma le_counts (hk : r.classes[k]? = some c) (hl : c.scenarios[l]? = some ⟨job, phase⟩) :
    f phase ≤ r.counts f :=
  Nat.le_trans (le_total (fun s : ScenarioRun => f s.phase) hl) (le_total (ClassRun.counts f) hk)

lemma counts_setClass (hk : r.classes[k]? = some c) (c' : ClassRun) (o' : Outside σ) :
    ({ r.setClass k c' with outside := o' } : Run σ).counts f + c.counts f =
      r.counts f + c'.counts f :=
  total_set (ClassRun.counts f) c' hk

/-- The run behind a turn of a scenario. -/
theorem counts_setPhase (hk : r.classes[k]? = some c) (hl : c.scenarios[l]? = some ⟨job, phase⟩)
    (phase' : Phase) (scope' : ClassScope) (o' : Outside σ) :
    ({ r.setClass k ({ c with scope := scope' }.setPhase l phase') with outside := o' } :
        Run σ).counts f + f phase =
      r.counts f + f phase' := by
  have hclass := counts_setClass (f := f) hk ({ c with scope := scope' }.setPhase l phase') o'
  have hphase : ({ c with scope := scope' }.setPhase l phase').counts f + f phase =
      c.counts f + f phase' :=
    ClassRun.counts_changePhase (fun _ => phase') hl
  omega

/-- The engine calls no backend, writes nothing and leaves scenarios alone.  It tells what its actions
say, and its end. -/
lemma scenarios_of_engine (hadvance : r.advance? b options .engine = some r') :
    (∃ more, r'.outside = { r.outside with events := r.outside.events ++ more } ∧
      ∀ e ∈ more, .emit e ∈ r.actions ∨ ∃ result, e = ⟨.engine, r.root, .finished result⟩) ∧
      r'.classes.map ClassRun.scenarios = r.classes.map ClassRun.scenarios := by
  have hsame : ∃ more, r.outside = { r.outside with events := r.outside.events ++ more } ∧
      ∀ e ∈ more, .emit e ∈ r.actions ∨ ∃ result, e = ⟨.engine, r.root, .finished result⟩ :=
    ⟨[], by rw [List.append_nil], fun e he => absurd he List.not_mem_nil⟩
  cases hactions : r.actions with
  | nil => simp [advance?, hactions] at hadvance
  | cons action rest =>
      rw [hactions] at hsame
      simp only [advance?, hactions] at hadvance
      cases action with
      | emit e =>
          obtain rfl := Option.some.inj hadvance
          refine ⟨⟨[e], rfl, fun e' he' => Or.inl ?_⟩, rfl⟩
          rw [List.mem_singleton.mp he']
          exact List.mem_cons_self
      | start k =>
          obtain rfl := Option.some.inj hadvance
          refine ⟨hsame, List.ext_getElem? fun i => ?_⟩
          have hbegin : ∀ c : ClassRun, c.begin.scenarios = c.scenarios := by
            intro c
            unfold ClassRun.begin
            split <;> rfl
          rw [List.getElem?_map, List.getElem?_modify, List.getElem?_map]
          cases r.classes[i]? with
          | none => rfl
          | some c => by_cases hki : k = i <;> simp [hki, hbegin]
      | awaitAll =>
          simp only [act] at hadvance
          split at hadvance
          · obtain rfl := Option.some.inj hadvance
            exact ⟨hsame, rfl⟩
          · exact absurd hadvance (by simp)
      | close =>
          obtain rfl := Option.some.inj hadvance
          exact ⟨⟨_, rfl, fun e he => Or.inr ⟨_, List.mem_singleton.mp he⟩⟩, rfl⟩

lemma counts_of_engine (hadvance : r.advance? b options .engine = some r') :
    r'.counts f = r.counts f := by
  have := congrArg (List.map (total fun s : ScenarioRun => f s.phase))
    (scenarios_of_engine hadvance).2
  rw [List.map_map, List.map_map] at this
  exact total_congr this

end Run

end ScenarioRunner

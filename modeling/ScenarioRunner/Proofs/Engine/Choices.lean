import Mathlib.Tactic.Lemma
import ScenarioRunner.Engine.Run

/-!
# The choices of a run

What can be said of the choices that lead from a run to another one, whatever they do.

* `Run.Quiet`: no task is cut off, and `Run.Stuck`: no task can go on.
* `Run.advance_classTask_iff`, `Run.advance_scenarioTask_iff` and their kin: what the task of a class
  or of a scenario makes of a run, it makes of its class.
* `Run.ReachesBy` adds to `Run.Reaches` that each choice is allowed where it is made.
* `Run.trace` lists what the choices of a run give out, the first of it in front, and
  `Run.trace_induct` says what each step keeps of a run and of its trace.
-/

namespace ScenarioRunner

/-- No task is cut off. -/
def Choice.IsQuiet (choice : Choice) : Prop :=
  ∃ actor, choice = .advance actor

/-- No task but that of a scenario is cut off. -/
def Choice.IsMild : Choice → Prop
  | .advance _ => True
  | .crash (.scenarioTask _ _) _ => True
  | .crash _ _ => False

namespace Run

variable {σ : Type} {b : Backend σ} {options : RunOptions} {r r' r'' : Run σ}
  {allowed : Run σ → Choice → Prop} {choices more : List Choice}

/-- No task is cut off. -/
def Quiet (choices : List Choice) : Prop :=
  ∀ choice ∈ choices, choice.IsQuiet

/-- No task can go on. -/
def Stuck (b : Backend σ) (options : RunOptions) (r : Run σ) : Prop :=
  ∀ actor, r.advance? b options actor = none

/-! ## Tasks of a class -/

section Tasks

variable {k l : Nat} {c : ClassRun} {reason : String}

lemma advance_classTask (hk : r.classes[k]? = some c) :
    r.advance? b options (.classTask k) =
      (c.advance? b r.outside).map fun next =>
        { r.setClass k next.1 with outside := next.2 } := by
  simp only [advance?, hk, Option.bind_eq_bind, Option.bind_some, Option.map_eq_bind]
  rfl

lemma advance_scenarioTask (hk : r.classes[k]? = some c) :
    r.advance? b options (.scenarioTask k l) =
      (c.advanceScenario? b options l r.outside).map fun next =>
        { r.setClass k next.1 with outside := next.2 } := by
  simp only [advance?, hk, Option.bind_eq_bind, Option.bind_some, Option.map_eq_bind]
  rfl

lemma crash_scenarioTask (hk : r.classes[k]? = some c) :
    r.crash? reason (.scenarioTask k l) = (c.crashScenario? l reason).map (r.setClass k) := by
  simp only [crash?, hk, Option.bind_eq_bind, Option.bind_some, Option.map_eq_bind]
  rfl

lemma advance_classTask_iff :
    r.advance? b options (.classTask k) = some r' ↔ ∃ c c' o', r.classes[k]? = some c ∧
      c.advance? b r.outside = some (c', o') ∧ { r.setClass k c' with outside := o' } = r' := by
  simp only [advance?, Option.bind_eq_bind, Option.bind_eq_some_iff, Option.some.injEq, Prod.exists,
    exists_and_left]

lemma advance_scenarioTask_iff :
    r.advance? b options (.scenarioTask k l) = some r' ↔ ∃ c c' o', r.classes[k]? = some c ∧
      c.advanceScenario? b options l r.outside = some (c', o') ∧
        { r.setClass k c' with outside := o' } = r' := by
  simp only [advance?, Option.bind_eq_bind, Option.bind_eq_some_iff, Option.some.injEq, Prod.exists,
    exists_and_left]

lemma crash_classTask_iff :
    r.crash? reason (.classTask k) = some r' ↔ ∃ c c', r.classes[k]? = some c ∧
      c.crash? = some c' ∧ r.setClass k c' = r' := by
  simp only [crash?, Option.bind_eq_bind, Option.bind_eq_some_iff, Option.some.injEq,
    exists_and_left]

lemma crash_scenarioTask_iff :
    r.crash? reason (.scenarioTask k l) = some r' ↔ ∃ c c', r.classes[k]? = some c ∧
      c.crashScenario? l reason = some c' ∧ r.setClass k c' = r' := by
  simp only [crash?, Option.bind_eq_bind, Option.bind_eq_some_iff, Option.some.injEq,
    exists_and_left]

/-- In a run that is stuck the task of no class can go on. -/
lemma Stuck.classTask (h : r.Stuck b options) (hk : r.classes[k]? = some c) :
    c.advance? b r.outside = none :=
  Option.map_eq_none_iff.mp (advance_classTask hk ▸ h (.classTask k))

/-- In a run that is stuck the task of no scenario can go on. -/
lemma Stuck.scenarioTask (h : r.Stuck b options) (hk : r.classes[k]? = some c) (l : Nat) :
    c.advanceScenario? b options l r.outside = none :=
  Option.map_eq_none_iff.mp (advance_scenarioTask hk ▸ h (.scenarioTask k l))

end Tasks

/-! ## Choices that are allowed -/

/-- Choices lead from a run to another one, and each of them is allowed where it is made. -/
inductive ReachesBy (allowed : Run σ → Choice → Prop) (b : Backend σ) (options : RunOptions) :
    Run σ → List Choice → Run σ → Prop where
  | refl (r : Run σ) : ReachesBy allowed b options r [] r
  | step {r r' r'' : Run σ} {choice : Choice} {choices : List Choice} (hallowed : allowed r choice)
    (first : r.step? b options choice = some r')
    (rest : ReachesBy allowed b options r' choices r'') :
    ReachesBy allowed b options r (choice :: choices) r''

lemma Reaches.reachesBy {allowed : Choice → Prop} (hreaches : Reaches b options r choices r')
    (hallowed : ∀ choice ∈ choices, allowed choice) :
    ReachesBy (fun _ => allowed) b options r choices r' := by
  induction hreaches with
  | refl r => exact .refl r
  | step first _ ih =>
      refine .step (hallowed _ List.mem_cons_self) first (ih fun choice hmem => ?_)
      exact hallowed choice (List.mem_cons_of_mem _ hmem)

lemma ReachesBy.reaches (hreaches : ReachesBy allowed b options r choices r') :
    Reaches b options r choices r' := by
  induction hreaches with
  | refl r => exact .refl r
  | step _ first _ ih => exact .step first ih

/-- Choices lead from the run that others lead to. -/
lemma Reaches.trans (hreaches : Reaches b options r choices r')
    (hmore : Reaches b options r' more r'') : Reaches b options r (choices ++ more) r'' := by
  induction hreaches with
  | refl => exact hmore
  | step first _ ih => exact .step first (ih hmore)

lemma Reaches.concat {choice : Choice} (hreaches : Reaches b options r choices r')
    (hstep : r'.step? b options choice = some r'') :
    Reaches b options r (choices ++ [choice]) r'' :=
  hreaches.trans (.step hstep (.refl _))

/-! ## What choices give out -/

section Trace

variable {α : Type} {out : Run σ → Choice → List α}

/-- **The trace of a run**: what its choices give out, one after the other. -/
def trace (out : Run σ → Choice → List α) (b : Backend σ) (options : RunOptions) (r : Run σ) :
    List Choice → List α
  | [] => []
  | choice :: choices =>
    out r choice ++
      match r.step? b options choice with
      | some r' => r'.trace out b options choices
      | none => []

lemma trace_append (hreaches : Reaches b options r choices r') :
    r.trace out b options (choices ++ more) =
      r.trace out b options choices ++ r'.trace out b options more := by
  induction hreaches with
  | refl => rfl
  | step first _ ih =>
      rw [List.cons_append, trace, trace, first, List.append_assoc]
      exact congrArg _ ih

/-- **What each step keeps** of a run and of its trace so far is true at the end.  Each step starts
where some of the choices have led to. -/
theorem trace_induct {motive : Run σ → List α → Prop}
    (hreaches : Reaches b options r choices r') (hfirst : motive r [])
    (hstep : ∀ {before log r₁ choice r₂}, Reaches b options r before r₁ →
      before ++ [choice] <+: choices → motive r₁ log → r₁.step? b options choice = some r₂ →
      motive r₂ (log ++ out r₁ choice)) :
    motive r' (r.trace out b options choices) := by
  have hgoesOn : ∀ {r₁ : Run σ} {more : List Choice}, Reaches b options r₁ more r' →
      ∀ {before : List Choice} {log : List α}, Reaches b options r before r₁ →
      before ++ more = choices → motive r₁ log →
        motive r' (log ++ r₁.trace out b options more) := by
    intro r₁ more hmore
    induction hmore with
    | refl =>
        intro before log _ _ hmotive
        rwa [trace, List.append_nil]
    | @step r₁ r₂ _ choice more first _ ih =>
        intro before log hbefore hchoices hmotive
        rw [trace, first, ← List.append_assoc]
        have hsplit : before ++ [choice] ++ more = choices := by
          rw [← hchoices, List.append_assoc]
          rfl
        exact ih hreaches (hbefore.concat first) hsplit
          (hstep hbefore ⟨more, hsplit⟩ hmotive first)
  exact hgoesOn hreaches (.refl r) (List.nil_append _) hfirst

end Trace

end Run

end ScenarioRunner

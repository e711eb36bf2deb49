import ScenarioRunner.Engine.Run

/-!
# Runs come to an end

Every step brings a run closer to its end.  `Run.ahead` counts the searches for environments that are
ahead, `Run.coarse` the actions and phases that tasks have left, and `Run.fine` the actions of
scenarios within their present phase.

* `Run.closer_of_step?`: a step lowers the first number, or does not raise it and lowers the second
  one, or keeps that and lowers the third one.

A search that comes to its end may leave more to do than before: an environment that is found gives a
scenario of the class its task.
-/

namespace ScenarioRunner

/-! ## Sums over lists -/

/-- The sum of a measure over a list. -/
def total {α : Type} (f : α → Nat) : List α → Nat
  | [] => 0
  | x :: xs => f x + total f xs

/-- Changing one item changes the sum by what the item changes. -/
theorem total_modify {α : Type} (f : α → Nat) (g : α → α) {xs : List α} {k : Nat} {x : α}
    (h : xs[k]? = some x) : total f (xs.modify k g) + f x = total f xs + f (g x) := by
  induction xs generalizing k with
  | nil => simp at h
  | cons y ys ih =>
    cases k with
    | zero =>
      simp only [List.getElem?_cons_zero, Option.some.injEq] at h
      subst h
      simp only [List.modify_zero_cons, total]
      omega
    | succ k =>
      simp only [List.getElem?_cons_succ] at h
      simp only [List.modify_succ_cons, total]
      have := ih h
      omega

/-- Changing an item beyond the end changes nothing. -/
theorem modify_of_none {α : Type} (g : α → α) {xs : List α} {k : Nat} (h : xs[k]? = none) :
    xs.modify k g = xs := by
  induction xs generalizing k with
  | nil => cases k <;> rfl
  | cons y ys ih =>
    cases k with
    | zero => simp at h
    | succ k =>
      simp only [List.getElem?_cons_succ] at h
      simp only [List.modify_succ_cons, ih h]

/-- A change that raises no item does not raise the sum. -/
theorem total_modify_le {α : Type} (f : α → Nat) (g : α → α) (hg : ∀ x, f (g x) ≤ f x)
    (xs : List α) (k : Nat) : total f (xs.modify k g) ≤ total f xs := by
  cases h : xs[k]? with
  | none => exact Nat.le_of_eq (congrArg (total f) (modify_of_none g h))
  | some x =>
    have := total_modify f g h
    have := hg x
    omega

/-- Putting another item at a place changes the sum by what the item changes. -/
theorem total_set {α : Type} (f : α → Nat) {xs : List α} {k : Nat} {x : α} (y : α)
    (h : xs[k]? = some x) : total f (xs.set k y) + f x = total f xs + f y := by
  induction xs generalizing k with
  | nil => simp at h
  | cons z zs ih =>
    cases k with
    | zero =>
      simp only [List.getElem?_cons_zero, Option.some.injEq] at h
      subst h
      simp only [List.set_cons_zero, total]
      omega
    | succ k =>
      simp only [List.getElem?_cons_succ] at h
      simp only [List.set_cons_succ, total]
      have := ih h
      omega

/-! ## What is left -/

def Phase.rank : Phase → Nat
  | waiting => 9
  | granted => 8
  | submitting => 7
  | opening _ => 6
  | acting _ => 5
  | rescuing _ => 4
  | telling _ => 3
  | releasing => 2
  | counting => 1
  | done => 0

/-- How many actions are left in a phase. -/
def Phase.length : Phase → Nat
  | acting actions => actions.length
  | _ => 0

/-- What an action counts among the searches for environments, and the launch behind them. -/
def ClassAction.searches : ClassAction → Nat
  | .askDefault _ => 2
  | .lookUp .. | .launch => 1
  | _ => 0

namespace ClassRun

/-- The searches for environments that are ahead of the task of a class. -/
def ahead (c : ClassRun) : Nat :=
  match c.phase with
  | .waiting => total ClassAction.searches c.program
  | .running actions => total ClassAction.searches actions
  | _ => 0

/-- How many actions the task of a class has left. -/
def left (c : ClassRun) : Nat :=
  match c.phase with
  | .waiting => c.program.length + 2
  | .running actions => actions.length + 1
  | _ => 0

/-- The actions and phases that are left in a class. -/
def coarse (c : ClassRun) : Nat :=
  c.left + total (fun s => s.phase.rank) c.scenarios

/-- The actions that are left to the scenarios of a class within their phases. -/
def fine (c : ClassRun) : Nat :=
  total (fun s => s.phase.length) c.scenarios

/-- A class is closer to its end than another one. -/
def Closer (c' c : ClassRun) : Prop :=
  c'.ahead < c.ahead ∨
    (c'.ahead ≤ c.ahead ∧
      (c'.coarse < c.coarse ∨ (c'.coarse = c.coarse ∧ c'.fine < c.fine)))

theorem coarse_changePhase_le (c : ClassRun) (k : Nat) (f : Phase → Phase)
    (hf : ∀ p, (f p).rank ≤ p.rank) : (c.changePhase k f).coarse ≤ c.coarse := by
  have := total_modify_le (fun s : ScenarioRun => s.phase.rank)
    (fun s => { s with phase := f s.phase }) (fun s => hf s.phase) c.scenarios k
  simp only [coarse, left, changePhase] at this ⊢
  omega

theorem coarse_setPhase {c : ClassRun} {k : Nat} {job : Job} {phase : Phase} (p : Phase)
    (h : c.scenarios[k]? = some ⟨job, phase⟩) :
    (c.setPhase k p).coarse + phase.rank = c.coarse + p.rank := by
  have := total_modify (fun s : ScenarioRun => s.phase.rank) (fun s => { s with phase := p }) h
  simp only [coarse, left, setPhase, changePhase] at this ⊢
  omega

theorem fine_setPhase {c : ClassRun} {k : Nat} {job : Job} {phase : Phase} (p : Phase)
    (h : c.scenarios[k]? = some ⟨job, phase⟩) :
    (c.setPhase k p).fine + phase.length = c.fine + p.length := by
  have := total_modify (fun s : ScenarioRun => s.phase.length) (fun s => { s with phase := p }) h
  simpa only [fine, setPhase, changePhase] using this

theorem closer_setPhase {c : ClassRun} {k : Nat} {job : Job} {phase p : Phase}
    (h : c.scenarios[k]? = some ⟨job, phase⟩) (hp : p.rank < phase.rank) :
    Closer (c.setPhase k p) c := by
  have := coarse_setPhase p h
  exact .inr ⟨Nat.le_refl _, .inl (by omega)⟩

theorem rank_grant (p : Phase) : p.grant.rank ≤ p.rank := by
  cases p <;> simp [Phase.grant, Phase.rank]

theorem rank_start (p : Phase) : p.start.rank ≤ p.rank := by
  cases p <;> simp [Phase.start, Phase.rank]

theorem coarse_begin (c : ClassRun) : c.begin.coarse ≤ c.coarse := by
  unfold begin
  split
  · next h => simp [coarse, left, h]
  · exact Nat.le_refl _

theorem ahead_begin (c : ClassRun) : c.begin.ahead = c.ahead := by
  unfold begin
  split
  · next h => simp [ahead, h]
  · rfl

/-- The starts of scenarios search for nothing. -/
theorem searches_startAll (k : Nat) (jobs : List Job) (rest : List ClassAction) :
    total ClassAction.searches (startAll k jobs ++ rest) = total ClassAction.searches rest := by
  induction jobs generalizing k with
  | nil => rfl
  | cons job jobs ih => simpa [startAll, total, ClassAction.searches] using ih (k + 1)

/-- A search that comes to its end leaves only those behind it. -/
theorem ahead_settle (c : ClassRun) (rest : List ClassAction) (candidate : Candidate)
    (found : Except Error Environment) :
    (c.settle rest candidate found).ahead = total ClassAction.searches rest := by
  cases found with
  | ok environment => rfl
  | error e => simp [settle, ahead, failActions, total, ClassAction.searches]

/-- A search of the task of a class leaves fewer searches ahead. -/
theorem ahead_askDefault {σ : Type} (b : Backend σ) (c : ClassRun) (rest : List ClassAction)
    (candidate : Candidate) (o : Outside σ) :
    (c.askDefault b rest candidate o).1.ahead < total ClassAction.searches rest + 2 := by
  unfold askDefault
  split
  · simp only [ahead, total, ClassAction.searches]
    omega
  · rw [ahead_settle]
    omega

/-- A step of the task of a class is a search, or leaves it one action fewer. -/
theorem closer_act {σ : Type} {b : Backend σ} {c c' : ClassRun} {o o' : Outside σ}
    {action : ClassAction} {rest : List ClassAction} (hc : c.phase = .running (action :: rest))
    (h : c.act b rest o action = some (c', o')) : Closer c' c := by
  have hahead : c.ahead = action.searches + total ClassAction.searches rest := by
    simp [ahead, hc, total]
  have hleft : c.left = rest.length + 2 := by simp [left, hc]
  have hkeep : ∀ (scope : ClassScope) (k : Nat) (f : Phase → Phase),
      (∀ p, (f p).rank ≤ p.rank) →
      Closer (changePhase { c with phase := .running rest, scope } k f) c := by
    intro scope k f hf
    have := coarse_changePhase_le { c with phase := .running rest, scope } k f hf
    refine .inr ⟨?_, .inl ?_⟩
    · simp only [ahead, changePhase] at hahead ⊢
      omega
    · simp only [coarse, left] at this hleft ⊢
      omega
  have hphase : ∀ (scope : ClassScope) (phase : ClassPhase),
      ClassRun.ahead { c with phase, scope } ≤ total ClassAction.searches rest →
      ClassRun.left { c with phase, scope } < rest.length + 2 →
      Closer { c with phase, scope } c := by
    intro scope phase ha hp
    refine .inr ⟨by omega, .inl ?_⟩
    simp only [coarse] at hleft ⊢
    omega
  have hrun : ∀ scope : ClassScope, Closer { c with phase := .running rest, scope } c :=
    fun scope => hphase scope (.running rest) (Nat.le_refl _) (by simp [left])
  cases action with
  | emit e => simp only [act, Option.some.injEq, Prod.mk.injEq] at h; exact h.1 ▸ hrun c.scope
  | openGate =>
    simp only [act] at h
    split at h
    · simp only [Option.some.injEq, Prod.mk.injEq] at h; exact h.1 ▸ hrun c.scope
    · simp only [Option.some.injEq, Prod.mk.injEq] at h
      exact h.1 ▸ hphase c.scope .crashed (by simp [ahead]) (by simp [left])
  | askDefault candidate =>
    simp only [act, Option.some.injEq] at h
    have hfewer := ahead_askDefault b c rest candidate o
    rw [h] at hfewer
    refine .inl ?_
    simp only [ClassAction.searches] at hahead hfewer
    omega
  | lookUp candidate name =>
    simp only [act, lookUp, Option.some.injEq, Prod.mk.injEq] at h
    have := ahead_settle c rest candidate (b.environment name o.backend).1
    rw [h.1] at this
    refine .inl ?_
    simp only [ClassAction.searches] at hahead
    omega
  | launch =>
    simp only [act, Option.some.injEq, Prod.mk.injEq] at h
    have hfewer := searches_startAll 0 (c.scenarios.map ScenarioRun.job) rest
    refine .inl ?_
    rw [← h.1, hahead]
    simp only [ahead, hfewer, ClassAction.searches]
    omega
  | record v => simp only [act, Option.some.injEq, Prod.mk.injEq] at h; exact h.1 ▸ hrun _
  | countDown => simp only [act, Option.some.injEq, Prod.mk.injEq] at h; exact h.1 ▸ hrun _
  | grant k =>
    simp only [act, Option.map_eq_some_iff] at h
    obtain ⟨scope, -, h⟩ := h
    simp only [Prod.mk.injEq] at h
    exact h.1 ▸ hkeep scope k _ rank_grant
  | enter id => simp only [act, Option.some.injEq, Prod.mk.injEq] at h; exact h.1 ▸ hrun _
  | start k =>
    simp only [act, Option.some.injEq, Prod.mk.injEq] at h
    exact h.1 ▸ hkeep c.scope k _ rank_start
  | awaitAll =>
    simp only [act] at h
    split at h
    · simp only [Option.some.injEq, Prod.mk.injEq] at h; exact h.1 ▸ hrun c.scope
    · simp at h
  | close =>
    simp only [act, Option.some.injEq, Prod.mk.injEq] at h
    exact h.1 ▸ hphase c.scope (.finished c.scope.verdict) (by simp [ahead]) (by simp [left])

theorem closer_advance? {σ : Type} {b : Backend σ} {c c' : ClassRun} {o o' : Outside σ}
    (h : c.advance? b o = some (c', o')) : Closer c' c := by
  unfold advance? at h
  split at h
  · next action rest hc => exact closer_act hc h
  · simp at h

theorem closer_crash? {c c' : ClassRun} (h : c.crash? = some c') : Closer c' c := by
  unfold crash? at h
  split at h
  · next hc =>
    simp only [Option.some.injEq] at h
    subst h
    refine .inr ⟨by simp [ahead], .inl ?_⟩
    simp only [coarse, left, hc]
    simp
  · simp at h

/-- A change of the book of a class does not matter for what is left. -/
theorem closer_withScope {c : ClassRun} {k : Nat} {job : Job} {phase p : Phase} (scope : ClassScope)
    (h : c.scenarios[k]? = some ⟨job, phase⟩) (hp : p.rank < phase.rank) :
    Closer (setPhase { c with scope } k p) c :=
  closer_setPhase (c := { c with scope }) h hp

theorem closer_actScenario {σ : Type} {c : ClassRun} {k : Nat} {job : Job} {action : JobAction}
    {rest : List JobAction} (o : Outside σ)
    (h : c.scenarios[k]? = some ⟨job, .acting (action :: rest)⟩) :
    Closer (c.actScenario k job rest o action).1 c := by
  have key : ∀ scope : ClassScope, Closer (setPhase { c with scope } k (.acting rest)) c := by
    intro scope
    have h1 := coarse_setPhase (c := { c with scope }) (.acting rest) h
    have h2 := fine_setPhase (c := { c with scope }) (.acting rest) h
    refine .inr ⟨Nat.le_refl _, .inr ⟨?_, ?_⟩⟩
    · simp only [Phase.rank] at h1
      have : ClassRun.coarse { c with scope } = c.coarse := rfl
      omega
    · simp only [Phase.length, List.length_cons] at h2
      have : ClassRun.fine { c with scope } = c.fine := rfl
      omega
  cases action with
  | emit e => exact key c.scope
  | write report => exact key c.scope
  | leave verdict => exact key _

theorem closer_submitScenario {σ : Type} (b : Backend σ) (options : RunOptions) {c : ClassRun}
    {k : Nat} {job : Job} (o : Outside σ) (h : c.scenarios[k]? = some ⟨job, .submitting⟩) :
    Closer (c.submitScenario b options k job o).1 c := by
  unfold submitScenario
  split <;> exact closer_setPhase h (by simp [Phase.rank])

theorem closer_openScenario {σ : Type} (b : Backend σ) (options : RunOptions) {c : ClassRun}
    {k : Nat} {job : Job} {id : ExecutionId} (o : Outside σ)
    (h : c.scenarios[k]? = some ⟨job, .opening id⟩) :
    Closer (c.openScenario b options k job id o).1 c := by
  unfold openScenario
  split <;> exact closer_setPhase h (by simp [Phase.rank])

theorem closer_rescueScenario {c : ClassRun} {k : Nat} {job : Job} {reason : String}
    (h : c.scenarios[k]? = some ⟨job, .rescuing reason⟩) :
    Closer (c.rescueScenario k job reason) c := by
  refine closer_withScope _ h ?_
  split <;> simp [Phase.rank]

theorem closer_advanceScenario? {σ : Type} {b : Backend σ} {options : RunOptions}
    {c c' : ClassRun} {k : Nat} {o o' : Outside σ}
    (h : c.advanceScenario? b options k o = some (c', o')) : Closer c' c := by
  unfold advanceScenario? at h
  split at h
  · simp at h
  · next job phase hk =>
    split at h
    · simp at h
    · simp at h
    · simp at h
    · simp only [Option.some.injEq] at h
      have := closer_submitScenario b options o hk
      rw [h] at this
      exact this
    · simp only [Option.some.injEq] at h
      have := closer_openScenario b options o hk
      rw [h] at this
      exact this
    · simp only [Option.some.injEq] at h
      have := closer_actScenario o hk
      rw [h] at this
      exact this
    · simp only [Option.some.injEq, Prod.mk.injEq] at h
      exact h.1 ▸ closer_setPhase hk (by simp [Phase.rank])
    · simp only [Option.some.injEq, Prod.mk.injEq] at h
      exact h.1 ▸ closer_rescueScenario hk
    · simp only [Option.some.injEq, Prod.mk.injEq] at h
      exact h.1 ▸ closer_setPhase hk (by simp [Phase.rank])
    · simp only [Option.some.injEq, Prod.mk.injEq] at h
      exact h.1 ▸ closer_withScope _ hk (by simp [Phase.rank])
    · simp only [Option.some.injEq, Prod.mk.injEq] at h
      exact h.1 ▸ closer_withScope _ hk (by simp [Phase.rank])

theorem closer_crashScenario? {c c' : ClassRun} {k : Nat} {reason : String}
    (h : c.crashScenario? k reason = some c') : Closer c' c := by
  unfold crashScenario? at h
  split at h
  · next r hk =>
    simp only [phaseAt, Option.map_eq_some_iff] at hk
    obtain ⟨⟨job, phase⟩, hk, rfl⟩ := hk
    simp only [Option.some.injEq] at h
    exact h ▸ closer_setPhase hk (by simp_all [Phase.rank])
  · next phase hphase hk =>
    simp only [phaseAt, Option.map_eq_some_iff] at hk
    obtain ⟨⟨job, phase⟩, hk, rfl⟩ := hk
    split at h
    · next hexposed =>
      simp only [Option.some.injEq] at h
      refine h ▸ closer_setPhase hk ?_
      cases phase <;> simp_all [Phase.isExposed, Phase.rank]
    · simp at h
  · simp at h

end ClassRun

namespace Run

variable {σ : Type}

/-- The searches for environments that are ahead in a run. -/
def ahead (r : Run σ) : Nat :=
  total ClassRun.ahead r.classes

/-- The actions and phases that are left in a run. -/
def coarse (r : Run σ) : Nat :=
  r.actions.length + total ClassRun.coarse r.classes

/-- The actions that are left to scenarios within their phases. -/
def fine (r : Run σ) : Nat :=
  total ClassRun.fine r.classes

/-- A run is closer to its end than another one. -/
def Closer (r' r : Run σ) : Prop :=
  r'.ahead < r.ahead ∨
    (r'.ahead ≤ r.ahead ∧
      (r'.coarse < r.coarse ∨ (r'.coarse = r.coarse ∧ r'.fine < r.fine)))

/-- The three numbers of a run that is closer to its end come first in their order. -/
theorem lex_of_closer {r' r : Run σ} (h : Closer r' r) :
    Prod.Lex (· < ·) (Prod.Lex (· < ·) (· < ·)) (r'.ahead, r'.coarse, r'.fine)
      (r.ahead, r.coarse, r.fine) := by
  rcases h with hahead | ⟨hahead, hcloser⟩
  · exact .left _ _ hahead
  · rcases Nat.lt_or_eq_of_le hahead with hlt | heq
    · exact .left _ _ hlt
    · rw [heq]
      refine .right _ ?_
      rcases hcloser with hcoarse | ⟨hcoarse, hfine⟩
      · exact .left _ _ hcoarse
      · rw [hcoarse]
        exact .right _ hfine

theorem closer_setClass {r : Run σ} {k : Nat} {c c' : ClassRun} (outside : Outside σ)
    (hk : r.classes[k]? = some c) (h : ClassRun.Closer c' c) :
    Closer { r.setClass k c' with outside } r := by
  have h0 := total_set ClassRun.ahead c' hk
  have h1 := total_set ClassRun.coarse c' hk
  have h2 := total_set ClassRun.fine c' hk
  simp only [Closer, ClassRun.Closer, ahead, coarse, fine, setClass] at h h0 h1 h2 ⊢
  omega

theorem closer_act {r r' : Run σ} {action : EngineAction} {rest : List EngineAction}
    (hr : r.actions = action :: rest) (h : r.act rest action = some r') : Closer r' r := by
  cases action with
  | emit e =>
    simp only [act, Option.some.injEq] at h
    subst h
    exact .inr ⟨Nat.le_refl _, .inl (by simp [coarse, hr])⟩
  | start k =>
    simp only [act, Option.some.injEq] at h
    subst h
    have := total_modify_le ClassRun.coarse ClassRun.begin ClassRun.coarse_begin r.classes k
    have hahead := total_modify_le ClassRun.ahead ClassRun.begin
      (fun c => Nat.le_of_eq c.ahead_begin) r.classes k
    exact .inr ⟨hahead, .inl (by simp only [coarse, hr, List.length_cons]; omega)⟩
  | awaitAll =>
    simp only [act] at h
    split at h
    · simp only [Option.some.injEq] at h
      subst h
      exact .inr ⟨Nat.le_refl _, .inl (by simp [coarse, hr])⟩
    · simp at h
  | close =>
    simp only [act, Option.some.injEq] at h
    subst h
    exact .inr ⟨Nat.le_refl _, .inl (by simp [coarse, hr])⟩

/-- **Every step brings a run closer to its end.** -/
theorem closer_of_step? {b : Backend σ} {options : RunOptions} {r r' : Run σ} {choice : Choice}
    (h : r.step? b options choice = some r') : Closer r' r := by
  cases choice with
  | advance actor =>
    cases actor with
    | engine =>
      simp only [step?, advance?] at h
      split at h
      · next hr => exact closer_act hr h
      · simp at h
    | classTask k =>
      simp only [step?, advance?, Option.bind_eq_bind, Option.bind_eq_some_iff] at h
      obtain ⟨c, hk, ⟨c', o'⟩, hc, h⟩ := h
      simp only [Option.some.injEq] at h
      exact h ▸ closer_setClass o' hk (ClassRun.closer_advance? hc)
    | scenarioTask k l =>
      simp only [step?, advance?, Option.bind_eq_bind, Option.bind_eq_some_iff] at h
      obtain ⟨c, hk, ⟨c', o'⟩, hc, h⟩ := h
      simp only [Option.some.injEq] at h
      exact h ▸ closer_setClass o' hk (ClassRun.closer_advanceScenario? hc)
  | crash actor reason =>
    cases actor with
    | engine =>
      simp only [step?, crash?] at h
      split at h
      · simp at h
      · next hr =>
        simp only [Option.some.injEq] at h
        subst h
        refine .inr ⟨Nat.le_refl _, .inl ?_⟩
        cases ha : r.actions with
        | nil => simp [ha] at hr
        | cons a as => simp [coarse, ha]
    | classTask k =>
      simp only [step?, crash?, Option.bind_eq_bind, Option.bind_eq_some_iff] at h
      obtain ⟨c, hk, c', hc, h⟩ := h
      simp only [Option.some.injEq] at h
      exact h ▸ closer_setClass r.outside hk (ClassRun.closer_crash? hc)
    | scenarioTask k l =>
      simp only [step?, crash?, Option.bind_eq_bind, Option.bind_eq_some_iff] at h
      obtain ⟨c, hk, c', hc, h⟩ := h
      simp only [Option.some.injEq] at h
      exact h ▸ closer_setClass r.outside hk (ClassRun.closer_crashScenario? hc)

end Run

end ScenarioRunner

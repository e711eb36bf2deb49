import ScenarioRunner.Proofs.Engine.JobEvents

/-!
# The plan of a class

What a class is going to do is fixed by what is going to be found for its scenarios: which of them are
skipped, which fail because their environments are not found, and which run.

* `ClassPlan.ofNode` is the plan of a class for what is found, and `ClassPlan.prelude` what its task
  does before the first scenario runs.
* `ClassPlan.planned` is the class before its first step as the plan sees it: its program is the
  prelude, the starts of its jobs, and its end, and all of its jobs wait.
* `ClassPlan.toldBy_prelude` lists the events of the prelude.
* `ClassPlan.skipped_iff`, `ClassPlan.failed_iff` and `ClassPlan.jobs_iff` tell the three groups of
  scenarios apart by their places.
-/

namespace ScenarioRunner

/-- The event that an action of a class tells. -/
def ClassAction.event? : ClassAction → Option Event
  | .emit e => some e
  | _ => none

/-- What is fixed of a class before it starts. -/
structure ClassPlan where
  /-- The place of the class. -/
  place : Nat
  node : Node
  skipped : List Candidate
  /-- The scenarios whose environments are not found, and why. -/
  failed : List (Candidate × Error)
  /-- The scenarios that run. -/
  jobs : List Job

namespace ClassPlan

/-- The scenarios of a class that are not skipped. -/
def runnable (isSkipped : NodeId → Bool) (node : Node) : List Candidate :=
  (Candidate.ofChildren 0 node.children).filter fun c => !isSkipped c.node.id

/-- A scenario whose environment is not found. -/
def failing? (found : Candidate → Except Error Environment) (c : Candidate) :
    Option (Candidate × Error) :=
  match found c with
  | .ok _ => none
  | .error e => some (c, e)

/-- The scenarios whose environments are found. -/
def jobsOf (found : Candidate → Except Error Environment) (group : Nat)
    (candidates : List Candidate) : List Job :=
  candidates.filterMap fun c =>
    match found c with
    | .ok environment => some (c.job group environment)
    | .error _ => none

/-- The plan of a class. -/
def ofNode (found : Candidate → Except Error Environment) (isSkipped : NodeId → Bool) (group : Nat)
    (node : Node) : ClassPlan where
  place := group
  node
  skipped := (Candidate.ofChildren 0 node.children).filter fun c => isSkipped c.node.id
  failed := (runnable isSkipped node).filterMap (failing? found)
  jobs := jobsOf found group (runnable isSkipped node)

/-- What the class tells of itself. -/
def event (P : ClassPlan) (change : Change) : Event :=
  ⟨.classAt P.place, P.node, change⟩

/-- What the task does before the first scenario runs. -/
def prelude (P : ClassPlan) : List ClassAction :=
  [.emit (P.event .started)] ++
    P.skipped.map (fun c => .emit (c.event P.place (.skipped skipReason))) ++ [.openGate] ++
    P.failed.flatMap fun f => ClassRun.failActions P.place f.1 f.2

/-- What the task does from the job at a place on. -/
def ending (P : ClassPlan) (k : Nat) : List ClassAction :=
  ClassRun.startAll k (P.jobs.drop k) ++ [.awaitAll, .close]

/-- The events that some actions of a class tell. -/
def toldBy (actions : List ClassAction) : List Event :=
  actions.filterMap ClassAction.event?

@[simp] lemma toldBy_nil : toldBy [] = [] := rfl

@[simp] lemma toldBy_append (actions more : List ClassAction) :
    toldBy (actions ++ more) = toldBy actions ++ toldBy more :=
  List.filterMap_append ..

/-- **A class before its first step**, as the plan sees it. -/
def planned (found : Candidate → Except Error Environment) (options : RunOptions)
    (isSkipped : NodeId → Bool) (group : Nat) (node : Node) : ClassRun :=
  let P := ofNode found isSkipped group node
  { ClassRun.ofNode options isSkipped group node with
    program := P.prelude ++ P.ending 0
    scenarios := P.jobs.map fun job => ⟨job, .waiting⟩ }

/-! ## The program of a class -/

lemma ending_of_getElem? {P : ClassPlan} {k : Nat} {job : Job} (h : P.jobs[k]? = some job) :
    P.ending k =
      .grant k :: .emit (job.event .started) :: .enter job.node.id :: .start k ::
        P.ending (k + 1) := by
  obtain ⟨hk, rfl⟩ := List.getElem?_eq_some_iff.mp h
  rw [ending, List.drop_eq_getElem_cons hk]
  rfl

lemma ending_of_length_le {P : ClassPlan} {k : Nat} (h : P.jobs.length ≤ k) :
    P.ending k = [.awaitAll, .close] := by
  rw [ending, List.drop_eq_nil_of_le h]
  rfl

/-- The actions of the prelude are of a few kinds only. -/
lemma cases_of_mem_prelude {P : ClassPlan} {action : ClassAction} (h : action ∈ P.prelude) :
    (∃ e, action = .emit e) ∨ action = .openGate ∨ (∃ v, action = .record v) ∨
      action = .countDown := by
  simp only [prelude, ClassRun.failActions, List.mem_append, List.mem_map, List.mem_flatMap,
    List.mem_cons, List.not_mem_nil, or_false] at h
  rcases h with ((rfl | ⟨c, -, rfl⟩) | rfl) | ⟨f, -, rfl | rfl | rfl | rfl⟩ <;> simp

/-- What the task does from a job on is of a few kinds as well. -/
lemma cases_of_mem_ending {P : ClassPlan} {k : Nat} {action : ClassAction}
    (h : action ∈ P.ending k) :
    (∃ job : Job, action = .emit (job.event .started)) ∨ (∃ id, action = .enter id) ∨
      (∃ l, action = .grant l) ∨ (∃ l, action = .start l) ∨ action = .awaitAll ∨
      action = .close := by
  have hstarts : ∀ (k : Nat) (jobs : List Job), ∀ action ∈ ClassRun.startAll k jobs,
      ∃ l job, action ∈
        [.grant l, .emit (Job.event job .started), .enter job.node.id, .start l] := by
    intro k jobs
    induction jobs generalizing k with
    | nil => exact fun action haction => absurd haction List.not_mem_nil
    | cons job jobs ih =>
        intro action haction
        rcases List.mem_append.mp haction with haction | haction
        · exact ⟨k, job, haction⟩
        · exact ih _ action haction
  rcases List.mem_append.mp h with h | h
  · obtain ⟨l, job, h⟩ := hstarts _ _ action h
    simp only [List.mem_cons, List.not_mem_nil, or_false] at h
    rcases h with rfl | rfl | rfl | rfl
    · simp
    · exact Or.inl ⟨job, rfl⟩
    · simp
    · simp
  · simp only [List.mem_cons, List.not_mem_nil, or_false] at h
    rcases h with rfl | rfl <;> simp

/-- **The events of the prelude**: the class starts, some scenarios are skipped, and some start and
fail. -/
theorem toldBy_prelude (P : ClassPlan) :
    toldBy P.prelude =
      P.event .started :: P.skipped.map (fun c => c.event P.place (.skipped skipReason)) ++
        P.failed.flatMap fun f =>
          [f.1.event P.place .started, f.1.event P.place (.finished (.failure f.2.message))] := by
  have hskipped : ∀ candidates : List Candidate,
      toldBy (candidates.map fun c => .emit (c.event P.place (.skipped skipReason))) =
        candidates.map fun c => c.event P.place (.skipped skipReason) := by
    intro candidates
    induction candidates with
    | nil => rfl
    | cons c candidates ih => rw [List.map_cons, List.map_cons, ← ih]; rfl
  have hfailed : ∀ failed : List (Candidate × Error),
      toldBy (failed.flatMap fun f => ClassRun.failActions P.place f.1 f.2) =
        failed.flatMap fun f =>
          [f.1.event P.place .started, f.1.event P.place (.finished (.failure f.2.message))] := by
    intro failed
    induction failed with
    | nil => rfl
    | cons f failed ih => rw [List.flatMap_cons, toldBy_append, ih, List.flatMap_cons]; rfl
  rw [prelude, toldBy_append, toldBy_append, toldBy_append, hskipped, hfailed]
  simp [toldBy, ClassAction.event?]

/-! ## The places of scenarios -/

/-- The candidates among some children are those that stand for scenarios. -/
lemma mem_ofChildren {place : Nat} {nodes : List Node} {c : Candidate} :
    c ∈ Candidate.ofChildren place nodes ↔
      ∃ j, nodes[j]? = some c.node ∧ c.place = place + j ∧ c.node.scenario? = some c.source := by
  induction nodes generalizing place with
  | nil => simp [Candidate.ofChildren]
  | cons node nodes ih =>
      have hrest : (∃ j, (node :: nodes)[j]? = some c.node ∧ c.place = place + j ∧
          c.node.scenario? = some c.source) ↔
          (node = c.node ∧ c.place = place ∧ c.node.scenario? = some c.source) ∨
            c ∈ Candidate.ofChildren (place + 1) nodes := by
        rw [ih]
        constructor
        · rintro ⟨j, hj, hplace, hsource⟩
          cases j with
          | zero => exact Or.inl ⟨by simpa using hj, by omega, hsource⟩
          | succ j => exact Or.inr ⟨j, by simpa using hj, by omega, hsource⟩
        · rintro (⟨hnode, hplace, hsource⟩ | ⟨j, hj, hplace, hsource⟩)
          · exact ⟨0, by simpa using hnode, by omega, hsource⟩
          · exact ⟨j + 1, by simpa using hj, by omega, hsource⟩
      rw [hrest, Candidate.ofChildren]
      cases hsource : node.scenario? with
      | none =>
          constructor
          · exact Or.inr
          · rintro (⟨rfl, -, hc⟩ | h)
            · rw [hsource] at hc
              exact absurd hc (by simp)
            · exact h
      | some source =>
          rw [List.mem_cons]
          refine or_congr_left ⟨?_, ?_⟩
          · rintro rfl
            exact ⟨rfl, rfl, hsource⟩
          · rintro ⟨rfl, hplace, hc⟩
            obtain ⟨place', node', source'⟩ := c
            obtain rfl : source = source' := Option.some.inj (hsource.symm.trans hc)
            rw [show place' = place from hplace]

/-- The candidates stand in the order of their places. -/
lemma pairwise_ofChildren (place : Nat) (nodes : List Node) :
    (Candidate.ofChildren place nodes).Pairwise fun c c' => c.place < c'.place := by
  induction nodes generalizing place with
  | nil => exact .nil
  | cons node nodes ih =>
      rw [Candidate.ofChildren]
      split
      · refine .cons (fun c hc => ?_) (ih (place + 1))
        obtain ⟨j, -, hplace, -⟩ := mem_ofChildren.mp hc
        show place < c.place
        omega
      · exact ih (place + 1)

section Groups

variable {found : Candidate → Except Error Environment} {isSkipped : NodeId → Bool} {group : Nat}
  {node : Node}

/-- The child of a class at a place, as a candidate. -/
def candidateAt? (node : Node) (j : Nat) : Option Candidate := do
  let child ← node.children[j]?
  let source ← child.scenario?
  some ⟨j, child, source⟩

lemma mem_candidates_iff {c : Candidate} :
    c ∈ Candidate.ofChildren 0 node.children ↔ candidateAt? node c.place = some c := by
  rw [mem_ofChildren]
  obtain ⟨j, child, source⟩ := c
  constructor
  · rintro ⟨j', hj', hplace, hsource⟩
    obtain rfl : j = j' := by simpa using hplace
    simp_all [candidateAt?]
  · intro h
    simp only [candidateAt?, Option.bind_eq_bind, Option.bind_eq_some_iff, Option.some.injEq,
      Candidate.mk.injEq, true_and] at h
    obtain ⟨_, hchild, _, hsource, rfl, rfl⟩ := h
    exact ⟨j, hchild, by simp, hsource⟩

/-- The skipped scenarios of a class. -/
theorem skipped_iff {c : Candidate} :
    c ∈ (ofNode found isSkipped group node).skipped ↔
      candidateAt? node c.place = some c ∧ isSkipped c.node.id = true := by
  rw [ofNode, List.mem_filter, mem_candidates_iff]

lemma runnable_iff {c : Candidate} :
    c ∈ runnable isSkipped node ↔
      candidateAt? node c.place = some c ∧ isSkipped c.node.id = false := by
  rw [runnable, List.mem_filter, mem_candidates_iff, Bool.not_eq_true']

/-- The scenarios of a class whose environments are not found. -/
theorem failed_iff {c : Candidate} {e : Error} :
    (c, e) ∈ (ofNode found isSkipped group node).failed ↔
      candidateAt? node c.place = some c ∧ isSkipped c.node.id = false ∧
        found c = .error e := by
  rw [ofNode, List.mem_filterMap]
  constructor
  · rintro ⟨c', hc', hfailing⟩
    rw [failing?] at hfailing
    split at hfailing
    · exact absurd hfailing (by simp)
    · next e' he =>
      obtain ⟨rfl, rfl⟩ := Prod.mk.inj (Option.some.inj hfailing)
      exact ⟨(runnable_iff.mp hc').1, (runnable_iff.mp hc').2, he⟩
  · rintro ⟨hc, hskipped, he⟩
    exact ⟨c, runnable_iff.mpr ⟨hc, hskipped⟩, by rw [failing?, he]⟩

/-- The jobs of a class. -/
theorem jobs_iff {job : Job} :
    job ∈ (ofNode found isSkipped group node).jobs ↔
      ∃ c environment, candidateAt? node c.place = some c ∧ isSkipped c.node.id = false ∧
        found c = .ok environment ∧ job = c.job group environment := by
  rw [ofNode, jobsOf, List.mem_filterMap]
  constructor
  · rintro ⟨c, hc, hjob⟩
    split at hjob
    · next environment he =>
      exact ⟨c, environment, (runnable_iff.mp hc).1, (runnable_iff.mp hc).2, he,
        (Option.some.inj hjob).symm⟩
    · exact absurd hjob (by simp)
  · rintro ⟨c, environment, hc, hskipped, he, rfl⟩
    exact ⟨c, runnable_iff.mpr ⟨hc, hskipped⟩, by rw [he]⟩

/-- The jobs stand in the order of their places. -/
theorem pairwise_jobs :
    (ofNode found isSkipped group node).jobs.Pairwise fun job job' => job.place < job'.place := by
  rw [ofNode, jobsOf]
  refine List.Pairwise.filterMap _ ?_ ((pairwise_ofChildren 0 node.children).filter _)
  intro c c' hlt job hjob job' hjob'
  split at hjob
  · split at hjob'
    · rw [← Option.some.inj hjob, ← Option.some.inj hjob']
      exact hlt
    · exact absurd hjob' (by simp)
  · exact absurd hjob (by simp)

end Groups

end ClassPlan

end ScenarioRunner

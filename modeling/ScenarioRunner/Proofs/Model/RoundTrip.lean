import Mathlib.Tactic.Common
import ScenarioRunner.Document.Load
import ScenarioRunner.Model.Environment
import ScenarioRunner.Model.Scenario
import ScenarioRunner.Proofs.DateTime.Reading
import ScenarioRunner.Proofs.Document.Records

/-!
# Reports, scenarios and environments survive their writing

What is written as JSON is read as it was.  A field that is left out has no value, and the draft into
which a record is read starts without one, too; nothing else is left out.

* `StepReport.Storable`, `ExecutionReport.Storable` and `Scenario.Storable` hold of what can be written:
  dates are dates, and what tables hold are JSON values.
* `ExecutionReport.reads_encode`, `Scenario.reads_encode`, `Environment.reads_encode`: these are read from
  what is written of them, in each dialect.
* `ExecutionReport.yields_decode`, `Scenario.yields_decode`: no others are read, from any document.
* `survives_writing` puts them together.

Trees of steps are read with as many levels as the JSON value has, which are more than the tree has.
-/

namespace ScenarioRunner

open Document Decode

/-! ## Parts -/

namespace Document

namespace Reads

lemma status (s : Status) : Reads Status.decode (.str s.name) s := by
  intro dialect
  cases dialect <;> cases s <;> rfl

lemma date {d : DateTime} (h : d.valid) : Reads Decode.date (.str d.text) d := by
  intro dialect
  rw [Decode.date, stringAs _ _ dialect]
  simp only [Bind.bind, Except.bind, DateTime.read_text h]

end Reads

namespace Decode.Yields

lemma date : Yields Decode.date fun d => d.valid := by
  intro dialect d t hread
  obtain ⟨s, -, hread⟩ := bind_eq_ok_iff.mp hread
  split at hread
  · next ht =>
    obtain rfl := Except.ok.inj hread
    exact DateTime.valid_of_read ht
  · exact absurd hread (by simp)

lemma json : Yields Decode.json Json.IsValue := isValue_of_json

end Decode.Yields

end Document

/-! ## Reports -/

namespace StepReport

lemma encodeAll_eq (steps : List StepReport) : encodeAll steps = steps.map encode := by
  induction steps with
  | nil => rfl
  | cons step steps ih => rw [encodeAll, ih, List.map_cons]

/-- A report that can be written: the dates in its tree are dates, and its tables hold values. -/
inductive Storable : StepReport → Prop where
  | node {r : StepReport} (hdate : ∀ d, r.startDate = some d → d.valid)
    (hinputs : ∀ entry ∈ r.evaluatedInputs.entries, entry.2.IsValue)
    (houtputs : ∀ entry ∈ r.stepOutputs.entries, entry.2.IsValue)
    (hsteps : ∀ step ∈ r.steps, Storable step) : Storable r

/-- A report is read from what is written of it, if its sub-steps are. -/
lemma reads_record {inner : Decoder StepReport} {r : StepReport} (h : r.Storable)
    (hinner : ∀ step ∈ r.steps, Reads inner step.encode step) :
    Reads (record inner).decode r.encode r := by
  obtain ⟨hdate, hinputs, houtputs, -⟩ := h
  obtain ⟨name, status, duration, startDate, errors, information, evaluatedInputs, stepOutputs, kind,
    targetName, strategy, steps⟩ := r
  rw [encode, encodeAll_eq]
  simp only [List.append_assoc, List.cons_append, List.nil_append]
  refine Record.reads_of_writes (r := record inner) _ rfl (fun dialect => ?_) rfl
  exact .defaulted (.string name) <| .defaulted (.status status) <| .defaulted (.word duration) <|
    .optional (fun d hd => .date (hdate d hd)) (by simp) rfl <|
    .defaulted (.texts errors) <| .defaulted (.texts information) <|
    .defaulted (.jsonTable hinputs) <| .defaulted (.jsonTable houtputs) <|
    .optional (fun s _ => .string s) (by simp) rfl <|
    .optional (fun s _ => .string s) (by simp) rfl <|
    .optional (fun s _ => .string s) (by simp) rfl <|
    .defaulted (.list hinner) <| .nil _

/-- The sub-steps are less deep than the report. -/
lemma depth_encode_lt {r step : StepReport} (h : step ∈ r.steps) :
    (Datum.ofJson step.encode).depth < (Datum.ofJson r.encode).depth := by
  obtain ⟨name, status, duration, startDate, errors, information, evaluatedInputs, stepOutputs, kind,
    targetName, strategy, steps⟩ := r
  rw [encode, encodeAll_eq]
  exact Datum.depth_lt_of_mem (show ("steps", _) ∈ _ by simp) (List.mem_map_of_mem h)

lemma reads_decodeWithin {r : StepReport} (h : r.Storable) {fuel : Nat}
    (hfuel : (Datum.ofJson r.encode).depth ≤ fuel) : Reads (decodeWithin fuel) r.encode r := by
  induction h generalizing fuel with
  | @node r hdate hinputs houtputs hsteps ih =>
      cases fuel with
      | zero => exact absurd (Datum.depth_pos r.encode) (Nat.not_lt.mpr hfuel)
      | succ fuel =>
          exact reads_record ⟨hdate, hinputs, houtputs, hsteps⟩ fun step hstep =>
            ih step hstep (Nat.le_of_lt_succ ((depth_encode_lt hstep).trans_le hfuel))

/-- **The report of a step is read from what is written of it.** -/
theorem reads_encode {r : StepReport} (h : r.Storable) : Reads decode r.encode r :=
  fun dialect => reads_decodeWithin h (Nat.le_refl _) dialect

lemma storable_blank : blank.Storable :=
  ⟨fun _ h => absurd h (by simp [blank]), fun _ h => absurd h List.not_mem_nil,
    fun _ h => absurd h List.not_mem_nil, fun _ h => absurd h List.not_mem_nil⟩

lemma yields_record {inner : Decoder StepReport} (hinner : Yields inner Storable) :
    Yields (record inner).decode Storable := by
  intro dialect d r hread
  have hkeeps : ∀ f ∈ (record inner).fields, Record.Keeps Storable f := by
    intro f hf
    simp only [record, List.mem_cons, List.not_mem_nil, or_false] at hf
    -- a field leaves all that is required as it is, or gives one part of it anew
    rcases hf with rfl | rfl | rfl | rfl | rfl | rfl | rfl | rfl | rfl | rfl | rfl | rfl <;>
      refine Record.keeps_of_store rfl fun hx ⟨hdate, hinputs, houtputs, hsteps⟩ => ?_
    all_goals first
      | exact ⟨hdate, hinputs, houtputs, hsteps⟩
      | exact ⟨Yields.date.optional hx, hinputs, houtputs, hsteps⟩
      | exact ⟨hdate, Yields.json.table hx, houtputs, hsteps⟩
      | exact ⟨hdate, hinputs, Yields.json.table hx, hsteps⟩
      | exact ⟨hdate, hinputs, houtputs, hinner.list hx⟩
  obtain ⟨draft, hdraft, hfinish⟩ := Record.exists_draft_of_decode hkeeps storable_blank hread
  obtain rfl := Except.ok.inj hfinish
  exact hdraft

/-- **Only reports that can be written are read.** -/
theorem yields_decode : Yields decode Storable := by
  have hwithin (fuel : Nat) : Yields (decodeWithin fuel) Storable := by
    induction fuel with
    | zero => exact fun hread => absurd hread (by simp [decodeWithin])
    | succ fuel ih => exact yields_record ih
  exact fun {_ _ _} hread => hwithin _ hread

end StepReport

namespace ExecutionReport

/-- A snapshot that can be written. -/
structure Storable (r : ExecutionReport) : Prop where
  date : ∀ d, r.startDate = some d → d.valid
  report : r.report.Storable

/-- **A snapshot is read from what is written of it.** -/
theorem reads_encode {r : ExecutionReport} (h : r.Storable) : Reads decode r.encode r := by
  obtain ⟨hdate, hreport⟩ := h
  obtain ⟨executionId, scenarioName, environment, status, duration, startDate, report, constants,
    dataset⟩ := r
  rw [encode]
  simp only [List.append_assoc, List.cons_append, List.nil_append]
  rw [← List.append_nil (Json.optional "dataset" _ _)]
  refine Record.reads_of_writes (r := record) _ rfl (fun dialect => ?_) rfl
  exact .defaulted (.word executionId) <| .defaulted (.string scenarioName) <|
    .defaulted (.string environment) <| .defaulted (.status status) <| .defaulted (.word duration) <|
    .optional (fun d hd => .date (hdate d hd)) (by simp) rfl <|
    .defaulted (StepReport.reads_encode hreport) <|
    .defaulted (.table fun entry _ => .string entry.2) <|
    .optional (fun s _ => .string s) (by simp) rfl <| .nil _

/-- **Only snapshots that can be written are read.** -/
theorem yields_decode : Yields decode Storable := by
  intro dialect d r hread
  have hblank : blank.Storable :=
    ⟨fun _ h => absurd h (by simp [blank]), StepReport.storable_blank⟩
  have hkeeps : ∀ f ∈ record.fields, Record.Keeps Storable f := by
    intro f hf
    simp only [record, List.mem_cons, List.not_mem_nil, or_false] at hf
    rcases hf with rfl | rfl | rfl | rfl | rfl | rfl | rfl | rfl | rfl <;>
      refine Record.keeps_of_store rfl fun hx ⟨hdate, hreport⟩ => ?_
    all_goals first
      | exact ⟨hdate, hreport⟩
      | exact ⟨Yields.date.optional hx, hreport⟩
      | exact ⟨hdate, StepReport.yields_decode hx⟩
  obtain ⟨draft, hdraft, hfinish⟩ := Record.exists_draft_of_decode hkeeps hblank hread
  obtain rfl := Except.ok.inj hfinish
  exact hdraft

end ExecutionReport

/-! ## Scenarios -/

namespace Implementation

/-- An invocation that can be written: its tables hold values. -/
structure Storable (i : Implementation) : Prop where
  inputs : ∀ entry ∈ i.inputs.entries, entry.2.IsValue
  outputs : ∀ entry ∈ i.outputs.entries, entry.2.IsValue
  validations : ∀ entry ∈ i.validations.entries, entry.2.IsValue

lemma reads_encode {i : Implementation} (h : i.Storable) : Reads decode i.encode i := by
  obtain ⟨hinputs, houtputs, hvalidations⟩ := h
  obtain ⟨action, target, inputs, outputs, validations⟩ := i
  rw [encode]
  simp only [List.cons_append, List.nil_append]
  refine Record.reads_of_writes (r := record) ⟨some action, "", target, inputs, outputs, validations⟩
    rfl (fun dialect => ?_) rfl
  exact .required (.string action) <| .optional (fun s _ => .string s) (by simp) rfl <|
    .defaulted (.jsonTable hinputs) <| .defaulted (.jsonTable houtputs) <|
    .defaulted (.jsonTable hvalidations) <| .nil _

lemma yields_decode : Yields decode Storable := by
  intro dialect d i hread
  have hstart : record.start.rest.Storable :=
    ⟨fun _ h => absurd h List.not_mem_nil, fun _ h => absurd h List.not_mem_nil,
      fun _ h => absurd h List.not_mem_nil⟩
  have hkeeps : ∀ f ∈ record.fields, Record.Keeps (fun draft => draft.rest.Storable) f := by
    intro f hf
    simp only [record, List.mem_cons, List.not_mem_nil, or_false] at hf
    rcases hf with rfl | rfl | rfl | rfl | rfl <;>
      refine Record.keeps_of_store (P := fun draft : Draft => draft.rest.Storable) rfl
        fun hx ⟨hinputs, houtputs, hvalidations⟩ => ?_
    all_goals first
      | exact ⟨hinputs, houtputs, hvalidations⟩
      | exact ⟨Yields.json.table hx, houtputs, hvalidations⟩
      | exact ⟨hinputs, Yields.json.table hx, hvalidations⟩
      | exact ⟨hinputs, houtputs, Yields.json.table hx⟩
  obtain ⟨draft, hdraft, hfinish⟩ := Record.exists_draft_of_decode hkeeps hstart hread
  obtain ⟨action, -, hfinish⟩ := bind_eq_ok_iff.mp hfinish
  obtain rfl := Except.ok.inj hfinish
  exact ⟨hdraft.inputs, hdraft.outputs, hdraft.validations⟩

end Implementation

lemma Strategy.reads_encode (s : Strategy) : Reads decode s.encode s := by
  obtain ⟨kind, parameters⟩ := s
  refine Record.reads_of_writes (r := record) ⟨some kind, parameters⟩
    rfl (fun dialect => ?_) rfl
  exact .required (.string kind) <| .defaulted (.table fun entry _ => .string entry.2) <| .nil _

namespace Step

lemma encodeAll_eq (steps : List Step) : encodeAll steps = steps.map encode := by
  induction steps with
  | nil => rfl
  | cons step steps ih => rw [encodeAll, ih, List.map_cons]

/-- A step that can be written: so are the invocations in its tree. -/
inductive Storable : Step → Prop where
  | node {s : Step} (himplementation : ∀ i, s.implementation = some i → i.Storable)
    (hsteps : ∀ step ∈ s.subSteps, Storable step) : Storable s

lemma reads_record {inner : Decoder Step} {s : Step} (h : s.Storable)
    (hinner : ∀ step ∈ s.subSteps, Reads inner step.encode step) :
    Reads (record inner).decode s.encode s := by
  obtain ⟨himplementation, -⟩ := h
  obtain ⟨description, implementation, strategy, subSteps⟩ := s
  rw [encode, encodeAll_eq]
  simp only [List.append_assoc, List.cons_append, List.nil_append]
  refine Record.reads_of_writes (r := record inner) ⟨some description, implementation, strategy, subSteps⟩
    rfl (fun dialect => ?_) rfl
  have hsteps (draft : Draft) :=
    congrArg (Except.map fun steps => { draft with subSteps := steps }) (Reads.list hinner dialect)
  exact .required (.string description) <|
    .optional (fun i hi => Implementation.reads_encode (himplementation i hi))
      (by simp [Implementation.encode]) rfl <|
    .optional (fun t _ => t.reads_encode) (by simp [Strategy.encode]) rfl <|
    .member (hsteps _) <| .nil _

/-- The sub-steps are less deep than the step. -/
lemma depth_encode_lt {s step : Step} (h : step ∈ s.subSteps) :
    (Datum.ofJson step.encode).depth < (Datum.ofJson s.encode).depth := by
  obtain ⟨description, implementation, strategy, subSteps⟩ := s
  rw [encode, encodeAll_eq]
  exact Datum.depth_lt_of_mem (show ("subSteps", _) ∈ _ by simp) (List.mem_map_of_mem h)

lemma reads_decodeWithin {s : Step} (h : s.Storable) {fuel : Nat}
    (hfuel : (Datum.ofJson s.encode).depth ≤ fuel) : Reads (decodeWithin fuel) s.encode s := by
  induction h generalizing fuel with
  | @node s himplementation hsteps ih =>
      cases fuel with
      | zero => exact absurd (Datum.depth_pos s.encode) (Nat.not_lt.mpr hfuel)
      | succ fuel =>
          exact reads_record ⟨himplementation, hsteps⟩ fun step hstep =>
            ih step hstep (Nat.le_of_lt_succ ((depth_encode_lt hstep).trans_le hfuel))

/-- **A step is read from what is written of it.** -/
theorem reads_encode {s : Step} (h : s.Storable) : Reads decode s.encode s :=
  fun dialect => reads_decodeWithin h (Nat.le_refl _) dialect

lemma yields_record {inner : Decoder Step} (hinner : Yields inner Storable) :
    Yields (record inner).decode Storable := by
  intro dialect d s hread
  let Parts (draft : Draft) : Prop :=
    (∀ i, draft.implementation = some i → i.Storable) ∧ ∀ step ∈ draft.subSteps, step.Storable
  have hstart : Parts (record inner).start :=
    ⟨fun _ h => absurd h (by simp [record]), fun _ h => absurd h List.not_mem_nil⟩
  have hkeeps : ∀ f ∈ (record inner).fields, Record.Keeps Parts f := by
    intro f hf
    simp only [record, List.mem_cons, List.not_mem_nil, or_false] at hf
    rcases hf with rfl | rfl | rfl | rfl <;>
      refine Record.keeps_of_store (P := Parts) rfl fun hx ⟨himplementation, hsteps⟩ => ?_
    all_goals first
      | exact ⟨himplementation, hsteps⟩
      | exact ⟨Implementation.yields_decode.optional hx, hsteps⟩
      | exact ⟨himplementation, hinner.list hx⟩
  obtain ⟨draft, hdraft, hfinish⟩ := Record.exists_draft_of_decode hkeeps hstart hread
  obtain ⟨description, -, hfinish⟩ := bind_eq_ok_iff.mp hfinish
  obtain rfl := Except.ok.inj hfinish
  exact ⟨hdraft.1, hdraft.2⟩

/-- **Only steps that can be written are read.** -/
theorem yields_decode : Yields decode Storable := by
  have hwithin (fuel : Nat) : Yields (decodeWithin fuel) Storable := by
    induction fuel with
    | zero => exact fun hread => absurd hread (by simp [decodeWithin])
    | succ fuel ih => exact yields_record ih
  exact fun {_ _ _} hread => hwithin _ hread

end Step

namespace Scenario

/-- A scenario that can be written: so can all of its steps. -/
def Storable (s : Scenario) : Prop :=
  ∀ step ∈ s.steps, step.Storable

lemma storable_iff {s : Scenario} :
    s.Storable ↔ (∀ step ∈ s.givens, step.Storable) ∧ s.action.Storable ∧
      ∀ step ∈ s.thens, step.Storable := by
  rw [Storable, steps, List.forall_mem_append, List.forall_mem_cons]

/-- **A scenario is read from what is written of it.** -/
theorem reads_encode {s : Scenario} (h : s.Storable) : Reads decode s.encode s := by
  obtain ⟨hgivens, haction, hthens⟩ := storable_iff.mp h
  obtain ⟨title, id, tags, defaultDataset, givens, action, thens⟩ := s
  rw [encode, Step.encodeAll_eq, Step.encodeAll_eq]
  simp only [List.append_assoc, List.cons_append, List.nil_append]
  refine Record.reads_of_writes (r := record)
    ⟨some title, some action, "", id, tags, defaultDataset, givens, default, thens⟩
    rfl (fun dialect => ?_) rfl
  exact .required (.string title) <| .optional (fun n _ => .word n) (by simp) rfl <|
    .defaulted (.texts tags) <| .optional (fun s _ => .string s) (by simp) rfl <|
    .defaulted (.list fun step hstep => Step.reads_encode (hgivens step hstep)) <|
    .required (Step.reads_encode haction) <|
    .defaulted (.list fun step hstep => Step.reads_encode (hthens step hstep)) <| .nil _

/-- **Only scenarios that can be written are read.** -/
theorem yields_decode : Yields decode Storable := by
  intro dialect d s hread
  let Parts (draft : Draft) : Prop :=
    (∀ step ∈ draft.rest.givens, step.Storable) ∧
      (∀ step, draft.action = some step → step.Storable) ∧
      ∀ step ∈ draft.rest.thens, step.Storable
  have hstart : Parts record.start :=
    ⟨fun _ h => absurd h List.not_mem_nil, fun _ h => absurd h (by simp [record]),
      fun _ h => absurd h List.not_mem_nil⟩
  have hkeeps : ∀ f ∈ record.fields, Record.Keeps Parts f := by
    intro f hf
    simp only [record, List.mem_cons, List.not_mem_nil, or_false] at hf
    rcases hf with rfl | rfl | rfl | rfl | rfl | rfl | rfl <;>
      refine Record.keeps_of_store (P := Parts) rfl fun hx ⟨hgivens, haction, hthens⟩ => ?_
    all_goals first
      | exact ⟨hgivens, haction, hthens⟩
      | exact ⟨Step.yields_decode.list hx, haction, hthens⟩
      | exact ⟨hgivens, haction, Step.yields_decode.list hx⟩
      | exact ⟨hgivens, fun step h => Option.some.inj h ▸ Step.yields_decode hx, hthens⟩
  obtain ⟨draft, ⟨hgivens, haction, hthens⟩, hfinish⟩ :=
    Record.exists_draft_of_decode hkeeps hstart hread
  obtain ⟨title, -, hfinish⟩ := bind_eq_ok_iff.mp hfinish
  obtain ⟨action, hfound, hfinish⟩ := bind_eq_ok_iff.mp hfinish
  obtain rfl := Except.ok.inj hfinish
  refine storable_iff.mpr ⟨hgivens, ?_, hthens⟩
  cases hsome : draft.action with
  | none =>
      rw [hsome] at hfound
      exact absurd hfound (by simp [Decode.present])
  | some step =>
      rw [hsome] at hfound
      obtain rfl := Except.ok.inj hfound
      exact haction step hsome

end Scenario

/-! ## Environments -/

lemma Target.reads_encode (t : Target) : Reads decode t.encode t := by
  obtain ⟨name, url, properties⟩ := t
  refine Record.reads_of_writes (r := record) ⟨some name, some url, properties⟩
    rfl (fun dialect => ?_) rfl
  exact .required (.string name) <| .required (.string url) <|
    .defaulted (.table fun entry _ => .string entry.2) <| .nil _

/-- **An environment is read from what is written of it.** -/
theorem Environment.reads_encode (e : Environment) : Reads decode e.encode e := by
  obtain ⟨name, description, targets⟩ := e
  refine Record.reads_of_writes (r := record) ⟨some name, "", description, targets⟩
    rfl (fun dialect => ?_) rfl
  exact .required (.string name) <| .defaulted (.string description) <|
    .defaulted (.list fun target _ => target.reads_encode) <| .nil _

/-! ## All of them -/

/-- **Reports, scenarios and environments survive their writing.**  What is written of a report or a
scenario reads as the same one exactly if its dates are dates, and the JSON values in its tables have
finite numbers and increasing keys.  What is written of an environment always reads as the same one. -/
theorem survives_writing :
    (∀ r : ExecutionReport, ofJson ExecutionReport.decode r.encode = .ok r ↔ r.Storable) ∧
      (∀ s : Scenario, ofJson Scenario.decode s.encode = .ok s ↔ s.Storable) ∧
      ∀ e : Environment, ofJson Environment.decode e.encode = .ok e :=
  ⟨fun _ => ⟨ExecutionReport.yields_decode, fun h => ExecutionReport.reads_encode h .value⟩,
    fun _ => ⟨Scenario.yields_decode, fun h => Scenario.reads_encode h .value⟩,
    fun e => e.reads_encode .value⟩

/-- A snapshot with a date, a sub-step and a table of JSON values, and without optional texts. -/
def ExecutionReport.dated : ExecutionReport :=
  .around 1 "s" "DEV"
    { StepReport.blank with
      startDate := some ⟨2024, 3, 9, 7, 5, 1, 500000000⟩
      steps :=
        [{ StepReport.blank with
          evaluatedInputs := Table.empty.insert "list" (.arr [.int 1, .obj [("a", .null)]]) }] }

/-- A scenario with a step that has a sub-step. -/
def Scenario.grouped : Scenario :=
  .ofStep "s" (.group "outer" [.action "inner" ((Implementation.ofAction "debug").onTarget "t")])

theorem survives_writing_dated :
    ExecutionReport.dated.Storable ∧ Scenario.grouped.Storable ∧
      ofJson ExecutionReport.decode ExecutionReport.dated.encode = .ok ExecutionReport.dated ∧
      ofJson Scenario.decode Scenario.grouped.encode = .ok Scenario.grouped := by
  have hdate (d : DateTime) (h : ExecutionReport.dated.startDate = some d) : d.valid := by
    obtain rfl := Option.some.inj h
    decide
  have hlist : (Json.arr [.int 1, .obj [("a", .null)]]).IsValue :=
    .arr <| List.forall_mem_cons.mpr ⟨.int 1, List.forall_mem_singleton.mpr <|
      .obj (List.pairwise_singleton _ _) (List.forall_mem_singleton.mpr .null)⟩
  have hreport : ExecutionReport.dated.Storable := by
    refine ⟨hdate, hdate, fun _ h => absurd h List.not_mem_nil, fun _ h => absurd h List.not_mem_nil,
      List.forall_mem_singleton.mpr ?_⟩
    exact ⟨fun _ h => absurd h (by simp [StepReport.blank]), List.forall_mem_singleton.mpr hlist,
      fun _ h => absurd h List.not_mem_nil, fun _ h => absurd h List.not_mem_nil⟩
  have haction : ((Implementation.ofAction "debug").onTarget "t").Storable :=
    ⟨fun _ h => absurd h List.not_mem_nil, fun _ h => absurd h List.not_mem_nil,
      fun _ h => absurd h List.not_mem_nil⟩
  have hscenario : Scenario.grouped.Storable := by
    refine List.forall_mem_singleton.mpr ⟨nofun,
      List.forall_mem_singleton.mpr ⟨?_, fun _ h => absurd h List.not_mem_nil⟩⟩
    rintro _ ⟨⟩
    exact haction
  exact ⟨hreport, hscenario, (survives_writing.1 _).mpr hreport,
    (survives_writing.2.1 _).mpr hscenario⟩

end ScenarioRunner

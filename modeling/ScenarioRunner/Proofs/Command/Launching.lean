import Mathlib.Tactic.Common
import ScenarioRunner.Backend.Replay
import ScenarioRunner.Command.Session
import ScenarioRunner.Proofs.Discovery.Selection
import ScenarioRunner.Proofs.Files.Trees

/-!
# Launched and discovered scenarios

A launch reads one file and runs its scenarios as they are.  A discovery names the same scenarios,
drops those that the tags exclude, tells of producers that yield none, and prunes classes without any.

* `DiscoveryRequest.definitions_scenarios`: the nodes of a class stand for what its producers yield, as
  far as they are taken and kept.
* `DiscoveryRequest.found_ofClass`: the request for a class finds this class or nothing.
* `Node.Shows` says that a tree has exactly some scenarios, of one class, and `Discovery.shows_discover`
  which ones it has for this request.
* `Session.launched_as_discovered`: a launch of a file runs what the tree of its class shows.
-/

namespace ScenarioRunner

/-- The definition of the scenario that a node stands for. -/
def Node.definition? (n : Node) : Option Scenario :=
  n.scenario?.map ScenarioSource.definition

lemma Node.definition?_ofScenario (parent : NodeId) (segment : String) (source : ScenarioSource)
    (stepAsTest : Bool) :
    (ofScenario parent segment source stepAsTest).definition? = some source.definition := by
  cases stepAsTest <;> rfl

/-- **A tree shows some scenarios of a class**: it is empty if there are none, and else it has this one
class with one node for each of them, in their order. -/
structure Node.Shows (root : Node) (className : String) (scenarios : List Scenario) : Prop where
  absent : root.children = [] ↔ scenarios = []
  listed : ∀ c ∈ root.children, root.children = [c] ∧ c.source = .class className ∧
    c.children.map definition? = scenarios.map some

/-- The names that scenarios are given leave them in their order. -/
lemma Producer.map_snd_named (p : Producer) : p.named.map Prod.snd = p.output.scenarios := by
  rw [named]
  cases p.output with
  | single s => rfl
  | many ss => simp [Output.scenarios, List.mapIdx_eq_zipIdx_map, Function.comp_def]
  | unsupported description => rfl

/-! ## A class in a discovery -/

namespace DiscoveryRequest

variable {stepAsTest : Bool} {catalog : Catalog} {c : ClassSource}

/-- **The nodes of a class** stand for what its producers yield, in the order in which it is declared:
for the producers that the request takes, and for the scenarios that the tag filter keeps. -/
theorem definitions_scenarios (request : DiscoveryRequest) (stepAsTest : Bool) (c : ClassSource) :
    (request.scenarios stepAsTest c).map Node.definition? =
      ((c.producers.filter (request.Takes c)).flatMap fun p =>
        p.output.scenarios.filter (request.tags.Keeps ·)).map some := by
  rw [scenarios, List.map_flatMap, List.map_flatMap]
  refine List.flatMap_congr fun p _ => ?_
  rw [← p.map_snd_named, List.filter_map, List.map_map, List.map_map]
  exact List.map_congr_left fun named _ => Node.definition?_ofScenario ..

/-- The request for a whole class. -/
def ofClass (name : String) : DiscoveryRequest :=
  ⟨[.class name], .none⟩

lemma takes_ofClass (c : ClassSource) (p : Producer) : (ofClass c.name).Takes c p :=
  Or.inl ⟨.class c.name, List.mem_singleton_self _, rfl⟩

lemma keeps_ofClass (name : String) (s : Scenario) : (ofClass name).tags.Keeps s :=
  ⟨Or.inl rfl, fun _ htag => absurd htag List.not_mem_nil⟩

/-- The request for a class takes everything that its producers yield. -/
lemma definitions_ofClass (stepAsTest : Bool) (c : ClassSource) :
    ((ofClass c.name).scenarios stepAsTest c).map Node.definition? =
      (c.producers.flatMap fun p => p.output.scenarios).map some := by
  simp only [definitions_scenarios, takes_ofClass, keeps_ofClass, decide_true, List.filter_true]

/-- The request for a class finds this class, if it could be read and yields a scenario. -/
lemma found_ofClass (hc : c ∈ catalog.classes) (hload : c.loadError = none) :
    (ofClass c.name).found stepAsTest catalog =
      if (ofClass c.name).scenarios stepAsTest c = [] then [] else [c] := by
  have hclasses : Plan.classes catalog (ofClass c.name).selectors = [c] := by
    have hname := catalog.filter_name c.name
    rw [Catalog.class?_eq_some_iff.mpr ⟨hc, rfl⟩] at hname
    exact (Plan.classes_singleton ..).trans hname
  rw [found, hclasses]
  simp [hload, List.filter_singleton]

end DiscoveryRequest

/-- **The request for a class** shows everything that the producers of the class yield. -/
theorem Discovery.shows_discover {catalog : Catalog} {c : ClassSource} (hc : c ∈ catalog.classes)
    (hload : c.loadError = none) (stepAsTest : Bool) :
    (discover catalog stepAsTest (.ofClass c.name)).root.Shows c.name
      (c.producers.flatMap fun p => p.output.scenarios) := by
  have hlisted := DiscoveryRequest.definitions_ofClass stepAsTest c
  have hempty : (DiscoveryRequest.ofClass c.name).scenarios stepAsTest c = [] ↔
      (c.producers.flatMap fun p => p.output.scenarios) = [] := by
    rw [← List.map_eq_nil_iff, hlisted, List.map_eq_nil_iff]
  rw [root_discover, DiscoveryRequest.found_ofClass hc hload]
  split
  · next hnone => exact ⟨iff_of_true rfl (hempty.mp hnone), fun c hc => absurd hc List.not_mem_nil⟩
  · next hsome =>
    refine ⟨iff_of_false (List.cons_ne_nil _ _) (hempty.not.mp hsome), fun node hnode => ?_⟩
    obtain rfl := List.mem_singleton.mp hnode
    exact ⟨rfl, rfl, hlisted⟩

/-! ## Launching -/

/-- The class of a file whose text has been read. -/
lemma Catalog.ofFile_eq {name text : String} {f : SourceFile} {producers : List Producer}
    (hread : Disk.textOf f.bytes = .ok text) (hparse : Producer.parseAll text = .ok producers) :
    ofFile name f = ⟨name, producers, none⟩ := by
  simp only [ofFile, Producer.ofFile, hread, hparse]

namespace Session

variable {σ : Type} {s : Session σ} {file text name : String} {producers : List Producer}
  {catalog : Catalog}

/-- The scenarios of a file are what its producers yield. -/
lemma scenariosOf_eq (hread : s.disk.readText file = .ok text)
    (hparse : Producer.parseAll text = .ok producers) :
    s.scenariosOf file = .ok (producers.flatMap fun p => p.output.scenarios) := by
  simp only [scenariosOf, Producer.load, Producer.ofFile, hread, hparse]
  rfl

/-- **A launch runs what a discovery shows.**  If the text of a file is a document of producers, and
these are the producers of a class of a catalog, the launch of the file runs one list of scenarios, and
the tree of the class shows this list, whether steps are tests or not. -/
theorem launched_as_discovered (hread : s.disk.readText file = .ok text)
    (hparse : Producer.parseAll text = .ok producers)
    (hclass : ⟨name, producers, none⟩ ∈ catalog.classes) :
    ∃ scenarios, s.scenariosOf file = .ok scenarios ∧
      (∀ settings environment expected dryRun,
        s.launch settings file environment expected dryRun =
          .ok (s.onBackend settings dryRun
            (Aftermath.ofLaunch scenarios environment expected))) ∧
      ∀ stepAsTest, (Discovery.discover catalog stepAsTest ⟨[.class name], .none⟩).root.Shows name
        scenarios := by
  have hscenarios := scenariosOf_eq hread hparse
  refine ⟨_, hscenarios, fun settings environment expected dryRun => ?_,
    Discovery.shows_discover hclass rfl⟩
  rw [launch, hscenarios]
  rfl

/-! ## A directory with one file -/

/-- A session that sees the file `s/a.yaml` with these bytes, and nothing else. -/
def withFile (bytes : List UInt8) : Session Unit where
  disk := ⟨.directory [("s", .directory [("a.yaml", .file bytes)])], []⟩
  lookup := fun _ => none
  clock := fun _ => ⟨2024, 1, 1, 0, 0, 0, 0⟩
  transport := Transport.silent
  network := ()

lemma readText_withFile (bytes : List UInt8) :
    (withFile bytes).disk.readText "s/a.yaml" = Disk.textOf bytes := by
  have hread : (withFile bytes).disk.read "s/a.yaml" = .ok bytes := by
    rw [Disk.read, Disk.get, Disk.locate, Disk.start_eq _ (by decide) (by decide) (by decide)]
    rfl
  rw [Disk.readText, hread]
  rfl

lemma load_withFile (bytes : List UInt8) :
    Catalog.load (withFile bytes).disk "s" =
      .ok (.ofList [Catalog.ofFile "a" ⟨"s/a.yaml", bytes⟩]) := by
  have hentries : (withFile bytes).disk.entries? "s" = some [("a.yaml", .file bytes)] := by
    rw [Disk.entries?, Disk.get, Disk.locate, Disk.start_eq _ (by decide) (by decide) (by decide)]
    rfl
  have hfiles : Catalog.scenarioFiles "s" [("a.yaml", .file bytes)] = [⟨"s/a.yaml", bytes⟩] := rfl
  have hname : Catalog.className "s" "s/a.yaml" = "a" := by decide +kernel
  simp only [Catalog.load, hentries, hfiles, Catalog.ofFiles, Catalog.addFiles, hname,
    List.lookup_nil]
  rfl

/-- A document with producers of each sort: of one scenario, of two, of none, and of a text. -/
def mixedPage : String :=
  "producers:\n p:\n  produces:\n   title: a\n   when: &w\n    description: d\n" ++
  " q:\n  produces:\n  - title: b\n    when: *w\n  - title: c\n    when: *w\n" ++
  " r:\n  produces: []\n u:\n  produces: e\n"

lemma textOf_mixedPage : Disk.textOf (Text.Utf8.encode mixedPage) = .ok mixedPage := by
  have hdecode : Text.Utf8.decode? (Text.Utf8.encode mixedPage) = some mixedPage.toList := by
    decide +kernel
  rw [Disk.textOf, hdecode]
  exact congrArg Except.ok mixedPage.ofList_toList

lemma exists_parseAll_mixedPage :
    ∃ producers, Producer.parseAll mixedPage = .ok producers ∧
      (producers.flatMap fun p => p.output.scenarios).map Scenario.title = ["a", "b", "c"] := by
  have htitles : ((Producer.parseAll mixedPage).toOption.map fun producers =>
      (producers.flatMap fun p => p.output.scenarios).map Scenario.title) =
        some ["a", "b", "c"] := by
    decide +kernel
  obtain ⟨producers, hparse, htitles⟩ := Option.map_eq_some_iff.mp htitles
  refine ⟨producers, ?_, htitles⟩
  generalize Producer.parseAll mixedPage = parsed at hparse
  cases parsed with
  | error reason => cases hparse
  | ok parsed => exact congrArg Except.ok (Option.some.inj hparse)

/-- A file with such a document is launched as it is discovered in its directory. -/
theorem launched_as_discovered_mixed :
    ∃ producers catalog scenarios,
      (withFile (Text.Utf8.encode mixedPage)).disk.readText "s/a.yaml" = .ok mixedPage ∧
      Producer.parseAll mixedPage = .ok producers ∧
      Catalog.load (withFile (Text.Utf8.encode mixedPage)).disk "s" = .ok catalog ∧
      ⟨"a", producers, none⟩ ∈ catalog.classes ∧
      (withFile (Text.Utf8.encode mixedPage)).scenariosOf "s/a.yaml" = .ok scenarios ∧
      scenarios.map Scenario.title = ["a", "b", "c"] ∧
      ∀ stepAsTest, (Discovery.discover catalog stepAsTest ⟨[.class "a"], .none⟩).root.Shows "a"
        scenarios := by
  obtain ⟨producers, hparse, htitles⟩ := exists_parseAll_mixedPage
  have hread := (readText_withFile (Text.Utf8.encode mixedPage)).trans textOf_mixedPage
  have hload := load_withFile (Text.Utf8.encode mixedPage)
  rw [Catalog.ofFile_eq textOf_mixedPage hparse] at hload
  have hclass : ⟨"a", producers, none⟩ ∈ (Catalog.ofList [⟨"a", producers, none⟩]).classes :=
    List.mem_singleton_self _
  obtain ⟨scenarios, hscenarios, -, hshows⟩ := launched_as_discovered hread hparse hclass
  refine ⟨producers, _, scenarios, hread, hparse, hload, hclass, hscenarios, ?_, hshows⟩
  rw [scenariosOf_eq hread hparse, Except.ok.injEq] at hscenarios
  rw [← hscenarios, htitles]

end Session

end ScenarioRunner

import ScenarioRunner.Model.Scenario

/-!
# Catalogs

A catalog lists the classes that discovery can see, in the order of their declaration.  A class
lists producers, and each of these yields a scenario, a list of scenarios, or something else.

* `Output`, `Producer`, `ClassSource` and `Catalog` are the parts.
* `ClassSource.inPackage` holds when a class lies under a package.
* `Catalog.add` puts a class in; a class with the same name is replaced where it stands, so that the
  classes of a catalog have different names.
-/

namespace ScenarioRunner

/-- What a producer yields. -/
inductive Output where
  | single (scenario : Scenario)
  | many (scenarios : List Scenario)
  /-- Neither a scenario nor a list of them, but what this text says. -/
  | unsupported (description : String)

instance : Inhabited Output := ⟨.many []⟩

def Output.scenarios : Output → List Scenario
  | single scenario => [scenario]
  | many scenarios => scenarios
  | unsupported _ => []

/-- A named source of scenarios. -/
structure Producer where
  name : String
  /-- The environment in which its scenarios run. -/
  environment : Option String
  output : Output

/-- The producers of one class. -/
structure ClassSource where
  /-- The full name, with points between its parts. -/
  name : String
  producers : List Producer
  /-- Why the class could not be read, if it could not. -/
  loadError : Option String

namespace ClassSource

def broken (name reason : String) : ClassSource :=
  ⟨name, [], some reason⟩

def simpleName (c : ClassSource) : String :=
  Text.lastSegment '.' c.name

/-- The class lies under a package.  The empty package holds all classes. -/
def inPackage (c : ClassSource) (package : String) : Bool :=
  package == "" ||
    match Text.dropStart? package.toList c.name.toList with
    | some ('.' :: _) => true
    | _ => false

/-- The first producer with this name. -/
def producer? (c : ClassSource) (name : String) : Option Producer :=
  c.producers.find? fun p => p.name == name

end ClassSource

/-- Every class that discovery can see. -/
structure Catalog where
  classes : List ClassSource
  distinct : (classes.map ClassSource.name).Nodup

namespace Catalog

def empty : Catalog :=
  ⟨[], .nil⟩

instance : Inhabited Catalog := ⟨empty⟩

/-- Puts a class in the place of the first one with its name, or at the end. -/
def place (c : ClassSource) : List ClassSource → List ClassSource
  | [] => [c]
  | d :: rest => if d.name = c.name then c :: rest else d :: place c rest

/-- Only the name of the class that is put in can be new. -/
theorem names_place (c : ClassSource) (classes : List ClassSource) :
    (place c classes).map ClassSource.name =
      if c.name ∈ classes.map ClassSource.name then classes.map ClassSource.name
      else classes.map ClassSource.name ++ [c.name] := by
  induction classes with
  | nil => rfl
  | cons d rest ih =>
    rw [place]
    split
    · next h => simp [h]
    · next h =>
      have hne : ¬ c.name = d.name := fun heq => h heq.symm
      simp only [List.map_cons, List.mem_cons, ih, hne, false_or]
      split <;> rfl

theorem distinct_place (c : ClassSource) {classes : List ClassSource}
    (h : (classes.map ClassSource.name).Nodup) : ((place c classes).map ClassSource.name).Nodup := by
  rw [names_place]
  split
  · exact h
  · next hnew =>
    refine List.nodup_append.mpr ⟨h, List.pairwise_singleton .., fun name hname other hother => ?_⟩
    rw [List.mem_singleton.mp hother]
    exact fun heq => hnew (heq ▸ hname)

/-- The catalog with one more class. -/
def add (catalog : Catalog) (c : ClassSource) : Catalog :=
  ⟨place c catalog.classes, distinct_place c catalog.distinct⟩

/-- The catalog of some classes, put in one by one. -/
def ofList (classes : List ClassSource) : Catalog :=
  classes.foldl add empty

def class? (catalog : Catalog) (name : String) : Option ClassSource :=
  catalog.classes.find? fun c => c.name == name

end Catalog

end ScenarioRunner

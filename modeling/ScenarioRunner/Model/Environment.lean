import ScenarioRunner.Document.Decode

/-!
# Environments

An environment is a named set of targets that a scenario runs against.  `Environment.target?` finds
a target by name; `encode` and `decode` write environments as JSON and read them from documents.
-/

namespace ScenarioRunner

open Document

/-- A system under test. -/
structure Target where
  name : String
  url : String
  properties : Table String
deriving Repr

namespace Target

def encode (t : Target) : Json :=
  .obj [("name", .str t.name), ("url", .str t.url), ("properties", t.properties.toJson .str)]

/-- The fields read so far. -/
structure Draft where
  name : Option String := none
  url : Option String := none
  properties : Table String := Table.empty

def record : Decode.Record Draft Target where
  name := "Target"
  fields :=
    [Decode.required "name" Decode.string fun x d => { d with name := some x },
      Decode.required "url" Decode.string fun x d => { d with url := some x },
      Decode.defaulted "properties" (Decode.table Decode.string) fun x d =>
        { d with properties := x }]
  start := {}
  finish := fun d => do
    let name ← Decode.present "name" d.name
    let url ← Decode.present "url" d.url
    .ok ⟨name, url, d.properties⟩

def decode : Decoder Target :=
  record.decode

end Target

/-- A named set of targets. -/
structure Environment where
  name : String
  description : String
  targets : List Target
deriving Repr

namespace Environment

/-- The environment without targets. -/
def named (name : String) : Environment :=
  ⟨name, "", []⟩

instance : Inhabited Environment := ⟨named ""⟩

/-- The first target with this name. -/
def target? (e : Environment) (name : String) : Option Target :=
  e.targets.find? fun t => t.name == name

def encode (e : Environment) : Json :=
  .obj
    [("name", .str e.name), ("description", .str e.description),
      ("targets", .arr (e.targets.map Target.encode))]

/-- The fields read so far. -/
structure Draft where
  name : Option String := none
  rest : Environment := default

def record : Decode.Record Draft Environment where
  name := "Environment"
  fields :=
    [Decode.required "name" Decode.string fun x d => { d with name := some x },
      Decode.defaulted "description" Decode.string fun x d =>
        { d with rest := { d.rest with description := x } },
      Decode.defaulted "targets" (Decode.list Target.decode) fun x d =>
        { d with rest := { d.rest with targets := x } }]
  start := {}
  finish := fun d => do
    let name ← Decode.present "name" d.name
    .ok { d.rest with name }

def decode : Decoder Environment :=
  record.decode

end Environment

end ScenarioRunner

import ScenarioRunner.Document.Decode
import ScenarioRunner.Json.Reader
import ScenarioRunner.Yaml.Value

/-!
# Reading values from JSON values, JSON texts and YAML texts

`ofJson` reads a value from a JSON value.  `ofText` reads one from a JSON text: the text has to end
after it, but an objection to a part of it comes before one to what follows.  `ofYaml` reads one
from a YAML text, which has to be well formed as a whole.
-/

namespace ScenarioRunner.Document

/-- Reads a value from a JSON value. -/
def ofJson {α : Type} (decoder : Decoder α) (j : Json) : Except DecodeError α :=
  decoder .value (.ofJson j)

def ofText {α : Type} (decoder : Decoder α) (text : String) : Except DecodeError α :=
  let source := Json.document text
  match decoder .text source.datum with
  | .ok x => if source.complete then .ok x else .error .malformed
  | .error e => .error e

def ofYaml {α : Type} (decoder : Decoder α) (text : String) : Except DecodeError α :=
  match Yaml.datum? text with
  | some d => decoder .yaml d
  | none => .error .malformedYaml

end ScenarioRunner.Document

namespace ScenarioRunner.Json

/-- Reads a JSON text as a JSON value. -/
def parse (text : String) : Except Document.DecodeError Json :=
  Document.ofText Document.Decode.json text

end ScenarioRunner.Json

import ScenarioRunner.Catalog.Basic
import ScenarioRunner.Document.Load

/-!
# Producers of a scenario document

A scenario document has a mapping `producers`: every entry is named by a text, may name an
environment, and says under `produces` what it yields.

* `Output.ofDatum` reads what is produced as a scenario or a list of scenarios.
* `Producer.parseAll` reads the producers of a document, in their order.
-/

namespace ScenarioRunner

open Document

namespace Document.Datum

def kindName : Datum → String
  | null => "null"
  | bool _ => "boolean"
  | int _ | float _ | unreadable | broken => "number"
  | str _ => "string"
  | seq _ => "sequence"
  | map _ => "mapping"
  | tagged _ _ => "tagged value"
  | buried content => content.kindName

/-- The member of a mapping under a text; tags around the mapping do not matter. -/
def member? (key : String) (d : Datum) : Option Datum :=
  match d.untagged with
  | map members =>
    (members.find? fun (k, _) => match k with | str s => s == key | _ => false).map Prod.snd
  | _ => none

/-- The text of a datum; tags around it do not matter. -/
def text? (d : Datum) : Option String :=
  match d.untagged with
  | str s => some s
  | _ => none

end Document.Datum

namespace Output

/-- Reads the items of a list, where `index` items come before. -/
def readItems (index : Nat) : List Datum → Except String (List Scenario)
  | [] => .ok []
  | d :: rest =>
    match Scenario.decode .yaml d with
    | .error e =>
      .error ("sequence whose item " ++ toString index ++ " is not a scenario (" ++ e.message ++ ")")
    | .ok s => (readItems (index + 1) rest).map fun ss => s :: ss

def ofDatum (d : Datum) : Output :=
  match d with
  | .map _ =>
    match Scenario.decode .yaml d with
    | .ok s => single s
    | .error e => unsupported ("mapping that is not a scenario (" ++ e.message ++ ")")
  | .seq items =>
    match readItems 0 items with
    | .ok ss => many ss
    | .error description => unsupported description
  | d => unsupported d.kindName

end Output

namespace Producer

/-- Reads a producer from its entry. -/
def ofEntry (name : String) (entry : Datum) : Producer where
  name
  environment := (entry.member? "environment").bind Datum.text?
  output :=
    match entry.member? "produces" with
    | some d => Output.ofDatum d
    | none => .unsupported "nothing ('produces' is missing)"

/-- Reads the entries of the mapping; each is named by a text. -/
def ofMembers : List (Datum × Datum) → Except String (List Producer)
  | [] => .ok []
  | (.str name, entry) :: rest => (ofMembers rest).map fun ps => ofEntry name entry :: ps
  | (key, _) :: _ => .error ("producer name must be a string, got " ++ key.kindName)

/-- Reads the producers of a document. -/
def ofDocument (d : Datum) : Except String (List Producer) :=
  match d.member? "producers" with
  | some (.map members) => ofMembers members
  | some _ => .error "'producers' must be a mapping"
  | none => .error "missing 'producers' section"

/-- Reads the producers of the text of a document. -/
def parseAll (text : String) : Except String (List Producer) :=
  match Yaml.datum? text with
  | some d => ofDocument d
  | none => .error DecodeError.malformedYaml.message

end Producer

end ScenarioRunner

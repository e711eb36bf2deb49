import ScenarioRunner.Document.Datum
import ScenarioRunner.DateTime.Basic
import ScenarioRunner.Text.Quoted

/-!
# Why a document does not read as a value

* `Found` is the kind of thing found where something else was wanted, `DecodeError` the cause of a
  failure, and `DecodeError.message` its wording.  The wording of a found value depends on the
  dialect: JSON knows `null` where YAML has a unit value, and the two write numbers differently.
-/

namespace ScenarioRunner.Document

open Decimal (Binary64)

/-- What was found where something else was wanted. -/
inductive Found where
  | null
  | bool (b : Bool)
  | int (n : Int)
  | float (x : Binary64)
  | str (s : String)
  | seq
  | map
  | enum
deriving Repr, DecidableEq

def Found.describe (dialect : Dialect) : Found → String
  | null => if dialect = .yaml then "unit value" else "null"
  | bool b => "boolean `" ++ (if b then "true" else "false") ++ "`"
  | int n => "integer `" ++ toString n ++ "`"
  | float x =>
    "floating point `" ++
      Decimal.render (if dialect = .yaml then .plain else .document) x ++ "`"
  | str s => "string " ++ Text.quoted s
  | seq => "sequence"
  | map => "map"
  | enum => "enum"

/-- Why a datum does not read as a value. -/
inductive DecodeError where
  /-- The JSON text is not well formed. -/
  | malformed
  /-- The YAML text is not well formed, or stands for nothing. -/
  | malformedYaml
  | missingField (name : String)
  | duplicateField (name : String)
  | unknownVariant (got : String) (known : List String)
  | invalidType (dialect : Dialect) (got : Found) (wanted : String)
  | invalidValue (dialect : Dialect) (got : Found) (wanted : String)
  | invalidLength (length : Nat) (wanted : String)
  | date (reason : DateTime.ReadError)
deriving Repr, DecidableEq

/-- The wording of an error.  A text that is not well formed has no wording of its own. -/
def DecodeError.message : DecodeError → String
  | malformed => "<json>"
  | malformedYaml => "<yaml>"
  | missingField name => "missing field `" ++ name ++ "`"
  | duplicateField name => "duplicate field `" ++ name ++ "`"
  | unknownVariant got known =>
    "unknown variant `" ++ got ++ "`, expected one of " ++
      Text.joined ", " (known.map fun k => "`" ++ k ++ "`")
  | invalidType dialect got wanted =>
    "invalid type: " ++ got.describe dialect ++ ", expected " ++ wanted
  | invalidValue dialect got wanted =>
    "invalid value: " ++ got.describe dialect ++ ", expected " ++ wanted
  | invalidLength length wanted =>
    "invalid length " ++ toString length ++ ", expected " ++ wanted
  | date reason => reason.message

end ScenarioRunner.Document

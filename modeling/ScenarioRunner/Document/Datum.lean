import ScenarioRunner.Json.Basic

/-!
# Data held by documents

A `Datum` is what a document holds, before it is read as anything in particular.  It keeps what a
later reading has to see: the order of members, repeated members, keys that are no text, tags, and
the place where the text stops being well formed.

* `Dialect` says where a datum comes from, which decides some wordings and liberties.
* `Datum.intact` holds when a datum may be skipped.
* `Datum.ofJson` is the datum of a JSON value.
-/

namespace ScenarioRunner.Document

open Decimal (Binary64)

/-- Where a datum comes from. -/
inductive Dialect where
  /-- A JSON value. -/
  | value
  /-- A JSON text, read from its start. -/
  | text
  /-- A YAML document. -/
  | yaml
deriving DecidableEq, Repr, Inhabited

/-- What a document holds. -/
inductive Datum where
  | null
  | bool (b : Bool)
  | int (n : Int)
  | float (x : Binary64)
  | str (s : String)
  | seq (items : List Datum)
  | map (members : List (Datum × Datum))
  /-- A value with a tag. -/
  | tagged (tag : String) (content : Datum)
  /-- A sequence or mapping nested too deep: it may be skipped, but not entered. -/
  | buried (content : Datum)
  /-- A number or text that may be skipped, but has no value. -/
  | unreadable
  /-- The text is not well formed from here on. -/
  | broken
deriving Inhabited, BEq, Repr

namespace Datum

mutual

/-- Nothing in the datum is broken, so that it may be skipped. -/
def intact : Datum → Bool
  | broken => false
  | seq items => intactItems items
  | map members => intactMembers members
  | tagged _ content => content.intact
  | buried content => content.intact
  | null | bool _ | int _ | float _ | str _ | unreadable => true

/-- Nothing in these items is broken. -/
def intactItems : List Datum → Bool
  | [] => true
  | item :: items => item.intact && intactItems items

/-- Nothing in these members is broken. -/
def intactMembers : List (Datum × Datum) → Bool
  | [] => true
  | (key, value) :: members => key.intact && value.intact && intactMembers members

end

mutual

/-- The number of levels of a datum. -/
def depth : Datum → Nat
  | seq items => depthItems items + 1
  | map members => depthMembers members + 1
  | tagged _ content => content.depth + 1
  | buried content => content.depth + 1
  | null | bool _ | int _ | float _ | str _ | unreadable | broken => 1

/-- The largest number of levels among items. -/
def depthItems : List Datum → Nat
  | [] => 0
  | item :: items => max item.depth (depthItems items)

/-- The largest number of levels among the values of members. -/
def depthMembers : List (Datum × Datum) → Nat
  | [] => 0
  | (_, value) :: members => max value.depth (depthMembers members)

end

/-- The value without the tags around it. -/
def untagged : Datum → Datum
  | tagged _ content => content.untagged
  | d => d

mutual

def ofJson : Json → Datum
  | .null => null
  | .bool b => bool b
  | .int n => int n
  | .float x => float x
  | .str s => str s
  | .arr items => seq (ofItems items)
  | .obj members => map (ofMembers members)

def ofItems : List Json → List Datum
  | [] => []
  | item :: items => ofJson item :: ofItems items

/-- The data of the members of an object. -/
def ofMembers : List (String × Json) → List (Datum × Datum)
  | [] => []
  | (key, value) :: members => (str key, ofJson value) :: ofMembers members

end

end Datum

end ScenarioRunner.Document

import ScenarioRunner.Decimal.Reading

/-!
# TOML values

* `Toml` is the type of values; tables keep how they came about, because that decides who may add
  to them.
* `Toml.addValue?`, `Toml.addTable?` and `Toml.addElement?` add a value, a table and an element of an
  array of tables to a document.  They fail where a key is taken or a table is closed.
-/

namespace ScenarioRunner

open Decimal (Binary64)

/-- How a table came about. -/
inductive Toml.Origin where
  /-- By a header of its own. -/
  | header
  /-- By the header of a table below it. -/
  | implied
  /-- By a key with points. -/
  | dotted
  /-- By braces. -/
  | inline
deriving DecidableEq, Repr

/-- A TOML value. -/
inductive Toml where
  | str (s : String)
  | int (n : Int)
  | float (x : Binary64)
  | bool (b : Bool)
  /-- A date, a time of day, or both. -/
  | time (text : String)
  | array (items : List Toml)
  | table (origin : Toml.Origin) (entries : List (String × Toml))
  /-- An array of tables, written by headers; the element that was written last comes first. -/
  | tables (elements : List (List (String × Toml)))
deriving Inhabited

namespace Toml

/-- The entries of a table. -/
abbrev Entries := List (String × Toml)

/-- The entries with one of them changed, or added. -/
def put (key : String) (value : Toml) : Entries → Entries
  | [] => [(key, value)]
  | (k, v) :: rest => if k = key then (key, value) :: rest else (k, v) :: put key value rest

/-- Where entries are added: behind headers, behind the points of a key, or between braces. -/
inductive Place where
  | header
  | dotted
  | braces
deriving DecidableEq

/-- A table may be entered on the way to a place. -/
def Place.enters : Place → Origin → Bool
  | header, origin => origin != .inline
  | dotted, origin => origin != .inline && origin != .header
  | braces, _ => true

/-- The origin of a table that is made on the way to a place. -/
def Place.origin : Place → Origin
  | header => .implied
  | dotted | braces => .dotted

/-- Changes the entries at a path.  `change` is told whether they belong to a table that came about
by a key with points; `here` tells this of the entries given. -/
def descend? (place : Place) (change : Bool → Entries → Option Entries) :
    List String → Bool → Entries → Option Entries
  | [], here, entries => change here entries
  | key :: path, _, entries =>
    match entries.lookup key with
    | none =>
      (descend? place change path (place.origin == .dotted) []).map fun inner =>
        put key (.table place.origin inner) entries
    | some (.table origin inner) =>
      if place.enters origin then
        (descend? place change path (origin == .dotted) inner).map fun inner =>
          put key (.table origin inner) entries
      else none
    | some (.tables (last :: before)) =>
      if place == .braces then none
      else
        (descend? place change path false last).map fun last =>
          put key (.tables (last :: before)) entries
    | some _ => none

/-- Adds a value under a key that is not taken.  With points in front of the key, the table has to
have come about by such a key itself. -/
def addKey? (dotted : Bool) (key : String) (value : Toml) (here : Bool) (entries : Entries) :
    Option Entries :=
  if dotted != here || (entries.lookup key).isSome then none
  else some (put key value entries)

/-- Adds a value under the last part of a key. -/
def addAt? (place : Place) (path : List String) (key : String) (value : Toml) (entries : Entries) :
    Option Entries :=
  descend? place (addKey? (!path.isEmpty) key value) path false entries

/-- Adds a value to a document, below a header. -/
def addValue? (header path : List String) (key : String) (value : Toml) (document : Entries) :
    Option Entries :=
  descend? .header (fun _ entries => addAt? .dotted path key value entries) header false document

def addTable? (path : List String) (key : String) (document : Entries) : Option Entries :=
  descend? .header (fun _ entries =>
    match entries.lookup key with
    | none => some (put key (.table .header []) entries)
    | some (.table .implied inner) => some (put key (.table .header inner) entries)
    | some _ => none) path false document

/-- Adds an element to an array of tables in a document. -/
def addElement? (path : List String) (key : String) (document : Entries) : Option Entries :=
  descend? .header (fun _ entries =>
    match entries.lookup key with
    | none => some (put key (.tables [[]]) entries)
    | some (.tables elements) => some (put key (.tables ([] :: elements)) entries)
    | some _ => none) path false document

end Toml

end ScenarioRunner

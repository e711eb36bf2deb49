import ScenarioRunner.Document.Error

/-!
# Reading values from data

A `Decoder α` reads a value of type `α` from a datum, part by part in the order of the document, and
stops at the first part that does not fit.

* `string`, `word`, `date`, `list`, `table`, `optional` and `json` read the common kinds of value.
* `Record` describes a value with named fields; `Record.decode` reads it from a mapping, and in JSON
  also from the sequence of its fields.
* `Variants` describes a value that is one of some names.

A YAML null reads as a sequence or mapping without parts, and tags in YAML are looked through.
-/

namespace ScenarioRunner.Document

/-- Reads a value from a datum of a dialect. -/
abbrev Decoder (α : Type) := Dialect → Datum → Except DecodeError α

namespace Datum

/-- The datum as a reading for a given kind of value sees it. -/
def view (dialect : Dialect) (d : Datum) : Datum :=
  if dialect = .yaml then d.untagged else d

/-- What the datum is, if it can be seen at all. -/
def found (d : Datum) : Except DecodeError Found :=
  match d with
  | null => .ok .null
  | bool b => .ok (.bool b)
  | int n => .ok (.int n)
  | float x => .ok (.float x)
  | str s => .ok (.str s)
  | seq _ => .ok .seq
  | map _ => .ok .map
  | tagged _ _ => .ok .enum
  | buried content => found content
  | unreadable | broken => .error .malformed

/-- The datum is not of the wanted kind. -/
def mismatch {α : Type} (dialect : Dialect) (wanted : String) (d : Datum) :
    Except DecodeError α :=
  match d.found with
  | .ok f => .error (.invalidType dialect f wanted)
  | .error e => .error e

end Datum

namespace Decode

open Datum (mismatch)

/-- Reads a text, named `wanted` in messages. -/
def stringAs (wanted : String) : Decoder String := fun dialect d =>
  match d.view dialect with
  | .str s => .ok s
  | d => mismatch dialect wanted d

def string : Decoder String :=
  stringAs "a string"

/-- Reads a whole number of 64 bits without a sign. -/
def word : Decoder UInt64 := fun dialect d =>
  match d.view dialect with
  | .int n =>
    if 0 ≤ n ∧ n < Nat.pow 2 64 then .ok (UInt64.ofNat n.toNat)
    else .error (.invalidValue dialect (.int n) "u64")
  | d => mismatch dialect "u64" d

def unit : Decoder Unit := fun dialect d =>
  match d.view dialect with
  | .null => .ok ()
  | d => mismatch dialect "unit" d

/-- Reads a date with a time of day. -/
def date : Decoder DateTime := fun dialect d => do
  let s ← stringAs "a formatted date and time string" dialect d
  match DateTime.read s with
  | .ok t => .ok t
  | .error e => .error (.date e)

def optional {α : Type} (item : Decoder α) : Decoder (Option α) := fun dialect d =>
  match d with
  | .null => .ok none
  | d => (item dialect d).map some

def each {α : Type} (item : Decoder α) (dialect : Dialect) : List Datum → Except DecodeError (List α)
  | [] => .ok []
  | d :: rest => do
    let x ← item dialect d
    let xs ← each item dialect rest
    .ok (x :: xs)

def list {α : Type} (item : Decoder α) : Decoder (List α) := fun dialect d =>
  match d.view dialect, dialect with
  | .seq items, _ => each item dialect items
  | .buried (.seq _), _ => .error .malformed
  | .null, .yaml => .ok []
  | d, _ => mismatch dialect "a sequence" d

/-- Reads the members of a mapping in their order. -/
def pairs {α : Type} (item : Decoder α) (dialect : Dialect) :
    List (Datum × Datum) → Except DecodeError (List (String × α))
  | [] => .ok []
  | (key, value) :: rest => do
    let k ← string dialect key
    let x ← item dialect value
    let xs ← pairs item dialect rest
    .ok ((k, x) :: xs)

/-- Reads a mapping from texts; of two members with one key the later one counts. -/
def table {α : Type} (item : Decoder α) : Decoder (Table α) := fun dialect d =>
  match d.view dialect, dialect with
  | .map members, _ => (pairs item dialect members).map Table.ofList
  | .buried (.map _), _ => .error .malformed
  | .null, .yaml => .ok Table.empty
  | d, _ => mismatch dialect "a map" d

/-! ## Any value -/

/-- Reads the key of a member: the first key of a mapping has a wording of its own. -/
def memberKey (first : Bool) : Decoder String :=
  stringAs (if first then "a string key" else "a string")

mutual

/-- Reads any JSON value.  A number that is not finite becomes null, and a tag fits nothing. -/
def json (dialect : Dialect) : Datum → Except DecodeError Json
  | .null => .ok .null
  | .bool b => .ok (.bool b)
  | .int n => .ok (.int n)
  | .float x => .ok (if x.isFinite then .float x else .null)
  | .str s => .ok (.str s)
  | .seq items => (jsonItems dialect items).map .arr
  | .map members => (jsonMembers dialect true members).map Json.ofEntries
  | .tagged _ _ => .error (.invalidType dialect .enum "any valid JSON value")
  | .buried _ | .unreadable | .broken => .error .malformed

def jsonItems (dialect : Dialect) : List Datum → Except DecodeError (List Json)
  | [] => .ok []
  | d :: rest => do
    let x ← json dialect d
    let xs ← jsonItems dialect rest
    .ok (x :: xs)

/-- Reads the members of a JSON object. -/
def jsonMembers (dialect : Dialect) (first : Bool) :
    List (Datum × Datum) → Except DecodeError (List (String × Json))
  | [] => .ok []
  | (key, value) :: rest => do
    let k ← memberKey first dialect key
    let x ← json dialect value
    let xs ← jsonMembers dialect false rest
    .ok ((k, x) :: xs)

end

/-! ## Names -/

/-- A value that is one of some names. -/
structure Variants (α : Type) where
  known : List (String × α)

namespace Variants

variable {α : Type}

def named (v : Variants α) (name : String) : Except DecodeError α :=
  match v.known.lookup name with
  | some x => .ok x
  | none => .error (.unknownVariant name (v.known.map Prod.fst))

/-- Reads the name of a value from a key. -/
def key (v : Variants α) : Decoder α := fun dialect d => do
  let name ← stringAs "variant identifier" dialect d
  v.named name

/-- Reads a value by its name: the name alone, or as the only key of a mapping to null; in YAML, a
tag on null. -/
def decode (v : Variants α) : Decoder α := fun dialect d =>
  match dialect, d with
  | _, .str s => v.named s
  | .value, .map [(k, content)] => do
    let x ← v.key dialect k
    let _ ← unit dialect content
    .ok x
  | .value, .map _ => .error (.invalidValue dialect .map "map with a single key")
  | .value, d => mismatch dialect "string or map" d
  | .text, .map ((k, content) :: rest) => do
    let x ← v.key dialect k
    let _ ← unit dialect content
    if rest.isEmpty then .ok x else .error .malformed
  | .text, _ => .error .malformed
  | .yaml, .tagged tag content => do
    let x ← v.named tag
    let _ ← unit dialect content
    .ok x
  | .yaml, d => mismatch dialect "a Value::Tag enum" d

end Variants

/-! ## Records -/

/-- A field of a record that is read into a draft of type `β`. -/
structure Field (β : Type) where
  name : String
  /-- Another name of the field. -/
  also : Option String
  /-- Without this field there is no value. -/
  required : Bool
  read : Dialect → Datum → β → Except DecodeError β

/-- A value with named fields: they are read into a draft, from which the value is made. -/
structure Record (β α : Type) where
  name : String
  fields : List (Field β)
  start : β
  finish : β → Except DecodeError α

namespace Record

variable {α β : Type}

/-- The place of the field with this name. -/
def place? (fields : List (Field β)) (name : String) : Option Nat :=
  fields.findIdx? fun f => f.name == name || f.also == some name

/-- Reads the members of a mapping into the draft.  `seen` holds the places of fields met so far;
members that are no fields are skipped. -/
def readMembers (fields : List (Field β)) (dialect : Dialect) :
    List Nat → List (Datum × Datum) → β → Except DecodeError β
  | _, [], draft => .ok draft
  | seen, (key, value) :: rest, draft =>
    match stringAs "field identifier" dialect key with
    | .error e => .error e
    | .ok name =>
      match place? fields name with
      | none =>
        if value.intact then readMembers fields dialect seen rest draft else .error .malformed
      | some i =>
        match fields[i]? with
        | none => .error .malformed
        | some f =>
          if seen.contains i then .error (.duplicateField f.name)
          else
            match f.read dialect value draft with
            | .error e => .error e
            | .ok draft => readMembers fields dialect (i :: seen) rest draft

/-- The wording of a sequence of the right length. -/
def lengthWanted (name : String) (count : Nat) : String :=
  "struct " ++ name ++ " with " ++ toString count ++ (if count = 1 then " element" else " elements")

/-- Reads the items of a sequence into the fields in their order.  `index` fields are read. -/
def readItems (name : String) (count : Nat) (dialect : Dialect) (length : Nat) :
    Nat → List (Field β) → List Datum → β → Except DecodeError β
  | _, [], [], draft => .ok draft
  | _, [], _ :: _, _ =>
    if dialect = .value then .error (.invalidLength length "fewer elements in array")
    else .error .malformed
  | index, f :: fields, [], draft =>
    if f.required then .error (.invalidLength index (lengthWanted name count))
    else readItems name count dialect length (index + 1) fields [] draft
  | index, f :: fields, d :: rest, draft =>
    match f.read dialect d draft with
    | .error e => .error e
    | .ok draft => readItems name count dialect length (index + 1) fields rest draft

def decode (r : Record β α) : Decoder α := fun dialect d =>
  match d.view dialect, dialect with
  | .map members, _ => readMembers r.fields dialect [] members r.start >>= r.finish
  | .buried (.map _), _ | .buried (.seq _), _ => .error .malformed
  | .null, .yaml => r.finish r.start
  | .seq items, .value | .seq items, .text =>
    readItems r.name r.fields.length dialect items.length 0 r.fields items r.start >>= r.finish
  | d, _ => mismatch dialect ("struct " ++ r.name) d

end Record

def required {β γ : Type} (name : String) (read : Decoder γ) (store : γ → β → β) : Field β :=
  ⟨name, none, true, fun dialect d draft => (read dialect d).map fun x => store x draft⟩

def defaulted {β γ : Type} (name : String) (read : Decoder γ) (store : γ → β → β) : Field β :=
  ⟨name, none, false, fun dialect d draft => (read dialect d).map fun x => store x draft⟩

/-- The value of a field that has to be there. -/
def present {γ : Type} (name : String) : Option γ → Except DecodeError γ
  | some x => .ok x
  | none => .error (.missingField name)

end Decode

end ScenarioRunner.Document

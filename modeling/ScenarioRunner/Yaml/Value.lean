import ScenarioRunner.Document.Datum
import ScenarioRunner.Yaml.Node

/-!
# The data of a document

* `plainDatum?` gives the value of a plain scalar: null, a truth value, a number, or a text.
* `Datum.same` compares the keys of a mapping, which have to differ.
* `datum?` gives the data of a text, with aliases replaced by what they stand for.

Sequences and mappings nest up to `maxNesting` levels, and the number of aliases followed is bounded
by the size of the document, so that a small document cannot stand for a huge value.
-/

namespace ScenarioRunner.Yaml

open Decimal (Binary64)
open ScenarioRunner.Document (Datum)

/-! ## Plain scalars -/

/-- The base that a number is written in, and its digits. -/
def basePrefix? (s : List Char) : Option (Nat × List Char) :=
  match s with
  | '0' :: 'x' :: digits => some (16, digits)
  | '0' :: 'o' :: digits => some (8, digits)
  | '0' :: 'b' :: digits => some (2, digits)
  | _ => none

/-- A sign at the start, and the rest. -/
def signed (s : List Char) : Option Char × List Char :=
  match s with
  | '+' :: rest => (some '+', rest)
  | '-' :: rest => (some '-', rest)
  | _ => (none, s)

/-- Digits with a zero in front of them are a text. -/
def isPaddedNumber (s : List Char) : Bool :=
  match (signed s).2 with
  | '0' :: c :: rest => (c :: rest).all Char.isDigit
  | _ => false

/-- The whole number that a scalar stands for, of any size. -/
def whole? (s : List Char) : Option Int :=
  let (sign, body) := signed s
  let magnitude :=
    match basePrefix? body with
    | some (base, digits) => Text.number? base digits
    | none => if isPaddedNumber s then none else Text.number? 10 body
  magnitude.map fun n => if sign == some '-' then -(n : Int) else n

/-- A whole number fits into a signed or unsigned word of this many bits. -/
def fits (bits : Nat) (n : Int) : Bool :=
  -(Nat.pow 2 (bits - 1)) ≤ n && n < Nat.pow 2 bits

/-- The floating-point number that a scalar stands for. -/
def float? (s : List Char) : Option Binary64 :=
  let (sign, body) := signed s
  if [".inf", ".Inf", ".INF"].contains (String.ofList body) then
    some (.infinity (sign == some '-'))
  else if sign.isNone && [".nan", ".NaN", ".NAN"].contains (String.ofList s) then
    some ⟨0x7FF8000000000000⟩
  else if sign == some '+' && (signed body).1.isSome then none
  else (Decimal.parse? s).bind fun x => if x.isFinite then some x else none

def bool? (s : String) : Option Bool :=
  if ["true", "True", "TRUE"].contains s then some true
  else if ["false", "False", "FALSE"].contains s then some false
  else none

def isNull (s : String) : Bool :=
  ["null", "Null", "NULL", "~"].contains s

/-- A whole number as a value: one of more than 64 bits has none, unless it has more than 128. -/
def wordDatum? (n : Int) : Option Datum :=
  if fits 64 n then some (.int n) else none

def plainDatum? (s : String) : Option Datum :=
  let cs := s.toList
  if cs.isEmpty || isNull s then some .null
  else
    match bool? s with
    | some b => some (.bool b)
    | none =>
      match (whole? cs).filter (fits 128) with
      | some n => wordDatum? n
      | none =>
        if isPaddedNumber cs then some (.str s)
        else
          match float? cs with
          | some x => some (.float x)
          | none => some (.str s)

/-- The value of a scalar with a standard tag. -/
def standardDatum? (kind s : String) : Option Datum :=
  if kind = "tag:yaml.org,2002:bool" then (bool? s).map .bool
  else if kind = "tag:yaml.org,2002:int" then
    ((whole? s.toList).filter (fits 128)).bind wordDatum?
  else if kind = "tag:yaml.org,2002:float" then (float? s.toList).map .float
  else if kind = "tag:yaml.org,2002:null" then (if isNull s then some .null else none)
  else some (.str s)

/-- The value of a scalar without regard to a tag. -/
def bareDatum? (plain : Bool) (s : String) : Option Datum :=
  if plain then plainDatum? s else some (.str s)

/-! ## Tags -/

/-- The name of a tag of one's own: what follows the `!`. -/
def ownTag? (tag : String) : Option String :=
  match tag.toList with
  | '!' :: rest =>
    match rest with
    | '!' :: c :: more => some (String.ofList (c :: more))
    | _ => some (String.ofList rest)
  | _ => none

/-- The value with a tag of one's own around it. -/
def withTag (tag : Option String) (d : Datum) : Datum :=
  match tag.bind ownTag? with
  | some name => .tagged name d
  | none => d

/-! ## Keys -/

/-- Two numbers are the same key: zero has one, and so has what is no number. -/
def sameFloat (x y : Binary64) : Bool :=
  x == y || (x.isNaN && y.isNaN) || (x.isZero && y.isZero)

mutual

/-- Two values are the same key.  The order of members does not count. -/
def same : Datum → Datum → Bool
  | .null, .null => true
  | .bool a, .bool b => a == b
  | .int m, .int n => m == n
  | .float x, .float y => sameFloat x y
  | .str s, .str t => s == t
  | .seq xs, .seq ys => sameItems xs ys
  | .map ms, .map ns => ms.length == ns.length && sameMembers ms ns
  | .tagged s d, .tagged t e => s == t && same d e
  | _, _ => false

/-- The items are the same, one by one. -/
def sameItems : List Datum → List Datum → Bool
  | [], [] => true
  | x :: xs, y :: ys => same x y && sameItems xs ys
  | _, _ => false

/-- Every member of the first list is one of the second. -/
def sameMembers : List (Datum × Datum) → List (Datum × Datum) → Bool
  | [], _ => true
  | (key, value) :: ms, ns =>
    ns.any (fun n => same key n.1 && same value n.2) && sameMembers ms ns

end

/-! ## Aliases -/

/-- The largest number of sequences and mappings around each other. -/
def maxNesting : Nat := 128

/-- Reads some values one after the other; `left` aliases may still be followed. -/
def readAll {α β : Type} (read : Nat → α → Option (β × Nat)) :
    Nat → List α → Option (List β × Nat)
  | left, [] => some ([], left)
  | left, x :: xs => do
    let (y, left) ← read left x
    let (ys, left) ← readAll read left xs
    some (y :: ys, left)

/-- Reads members one after the other; their keys have to differ. -/
def readPairs (read : Nat → Node → Option (Datum × Nat)) :
    Nat → List (Datum × Datum) → List (Node × Node) → Option (List (Datum × Datum) × Nat)
  | left, done, [] => some (done.reverse, left)
  | left, done, (key, value) :: rest => do
    let (k, left) ← read left key
    if done.any fun member => same k member.1 then none
    else
      let (v, left) ← read left value
      readPairs read left ((k, v) :: done) rest

/-- The value of a node inside which `depth` levels may be entered. -/
def nodeDatum (document : Document) : Nat → Nat → Node → Option (Datum × Nat)
  | depth, left, node => do
    let (node, left) ←
      match node with
      | .alias place => if left = 0 then none else (document.node? place).map fun n => (n, left - 1)
      | node => some (node, left)
    match node, depth with
    | .scalar none plain text, _ => (bareDatum? plain text).map fun d => (d, left)
    | .scalar (some tag) plain text, _ =>
      if (ownTag? tag).isSome then (bareDatum? plain text).map fun d => (withTag (some tag) d, left)
      else (standardDatum? tag text).map fun d => (d, left)
    | .sequence _ _, 0 => none
    | .mapping _ _, 0 => none
    | .sequence tag items, depth + 1 =>
      (readAll (nodeDatum document depth) left items).map fun (items, left) =>
        (withTag tag (.seq items), left)
    | .mapping tag entries, depth + 1 =>
      (readPairs (nodeDatum document depth) left [] entries).map fun (members, left) =>
        (withTag tag (.map members), left)
    | .alias _, _ => none

def Document.datum? (d : Document) : Option Datum :=
  (nodeDatum d maxNesting (100 * d.root.size) d.root).map Prod.fst

/-- The data of a text, if it is a document. -/
def datum? (text : String) : Option Datum := do
  let ts ← tokens text.toList
  let document ← Document.ofTokens ts
  document.datum?

end ScenarioRunner.Yaml

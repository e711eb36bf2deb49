import ScenarioRunner.Document.Datum
import ScenarioRunner.Text.Digit

/-!
# Reading JSON text

The reader turns a text into a datum and never fails: where the text stops being well formed, the
datum holds a `broken` part, and nothing follows it.  A later reading therefore meets the parts of
the text in their order and can object to an earlier part before it meets the broken one.

* `Reading` is a datum with the rest of the text, if the text is well formed so far.
* `readNumber`, `readString` and `readValue` read one value.
* `document` reads a whole text, and `Json.parse?` accepts well-formed texts only.
-/

namespace ScenarioRunner.Json

open Decimal (Binary64)
open Document (Datum)

/-- A datum, and the rest of the text behind it; no rest if the text broke inside the datum. -/
structure Reading where
  datum : Datum
  rest : Option (List Char)

def Reading.broken : Reading :=
  ⟨.broken, none⟩

/-- The characters that may stand between the parts of a text. -/
def isGap (c : Char) : Bool :=
  c == ' ' || c == '\n' || c == '\t' || c == '\r'

/-- The text from its first character that is no gap. -/
def skipGap (s : List Char) : List Char :=
  s.dropWhile isGap

/-! ## Numbers -/

/-- The largest whole number of 64 bits. -/
def maxWord : Nat := Nat.pow 2 64 - 1

/-- The largest whole number of 31 bits. -/
def maxExponent : Nat := Nat.pow 2 31 - 1

/-- The digits that fit into 64 bits, and how many further digits there are. -/
def fitWord (value : Nat) : List Char → Nat × Nat
  | [] => (value, 0)
  | c :: rest =>
    let next := value * 10 + (c.toNat - 48)
    if maxWord < next then (value, rest.length + 1) else fitWord next rest

/-- How many digits at the start fit into 64 bits behind `value`, and the number they make. -/
def fitFraction (value used : Nat) : List Char → Nat × Nat
  | [] => (value, used)
  | c :: rest =>
    let next := value * 10 + (c.toNat - 48)
    if maxWord < next then (value, used) else fitFraction next (used + 1) rest

/-- A number as a datum; one that is too large is unreadable. -/
def floatDatum (negative : Bool) (value : Nat) (exponent : Int) : Datum :=
  match Decimal.stepwise? negative value exponent with
  | some x => .float x
  | none => .unreadable

/-- Reads an exponent behind its mark and makes the number. -/
def readExponent (negative : Bool) (value : Nat) (exponent : Int) (s : List Char) : Reading :=
  let (down, s) :=
    match s with
    | '+' :: r => (false, r)
    | '-' :: r => (true, r)
    | r => (false, r)
  match Decimal.spanDigits s with
  | ([], _) => .broken
  | (ds, rest) =>
    let n := Decimal.ofDigits ds
    if maxExponent < n then
      if value ≠ 0 ∧ ¬ down then ⟨.unreadable, some rest⟩
      else ⟨.float (.ofMagnitude negative 0), some rest⟩
    else
      ⟨floatDatum negative value (if down then exponent - n else exponent + n), some rest⟩

/-- Reads what may follow the digits of a number: a fraction and an exponent. -/
def readFraction (negative : Bool) (whole : List Char) (s : List Char) : Reading :=
  let (value, extra) := fitWord 0 whole
  match s with
  | '.' :: r =>
    match Decimal.spanDigits r with
    | ([], _) => .broken
    | (ds, rest) =>
      let (value, used) := fitFraction value 0 ds
      let exponent : Int := (extra : Int) - (used : Int)
      match rest with
      | 'e' :: r | 'E' :: r => readExponent negative value exponent r
      | rest => ⟨floatDatum negative value exponent, some rest⟩
  | 'e' :: r | 'E' :: r => readExponent negative value extra r
  | rest =>
    if extra ≠ 0 then ⟨floatDatum negative value extra, some rest⟩
    else if ¬ negative then ⟨.int value, some rest⟩
    else if value = 0 ∨ Nat.pow 2 63 < value then
      ⟨.float (.ofRatio true value 1), some rest⟩
    else ⟨.int (-(value : Int)), some rest⟩

/-- Reads a number behind its sign.  A zero is not followed by another digit. -/
def readNumber (negative : Bool) (s : List Char) : Reading :=
  match Decimal.spanDigits s with
  | ([], _) => .broken
  | ('0' :: _ :: _, _) => .broken
  | (whole, rest) => readFraction negative whole rest

/-! ## Texts -/

/-- The character of an escape of one letter. -/
def escapedChar? (c : Char) : Option Char :=
  match c with
  | '"' => some '"'
  | '\\' => some '\\'
  | '/' => some '/'
  | 'b' => some (Char.ofNat 8)
  | 'f' => some (Char.ofNat 12)
  | 'n' => some '\n'
  | 'r' => some '\r'
  | 't' => some '\t'
  | _ => none

/-- Reads a text behind its opening quote.  `acc` holds its characters so far in reverse order, and
`whole` tells whether all of them are characters: half of a pair of units is not. -/
def readString : Nat → List Char → Bool → List Char → Reading
  | 0, _, _, _ => .broken
  | fuel + 1, acc, whole, s =>
    match s with
    | [] => .broken
    | '"' :: rest =>
      ⟨if whole then .str (String.ofList acc.reverse) else .unreadable, some rest⟩
    | '\\' :: 'u' :: a :: b :: c :: d :: rest =>
      match Text.number? 16 [a, b, c, d] with
      | none => .broken
      | some n =>
        if 0xDC00 ≤ n ∧ n < 0xE000 then readString fuel acc false rest
        else if 0xD800 ≤ n ∧ n < 0xDC00 then
          match rest with
          | '\\' :: 'u' :: a :: b :: c :: d :: after =>
            match Text.number? 16 [a, b, c, d] with
            | none => .broken
            | some m =>
              if 0xDC00 ≤ m ∧ m < 0xE000 then
                let code := 0x10000 + (n - 0xD800) * 0x400 + (m - 0xDC00)
                readString fuel (Char.ofNat code :: acc) whole after
              else readString fuel acc false rest
          | _ => readString fuel acc false rest
        else readString fuel (Char.ofNat n :: acc) whole rest
    | '\\' :: c :: rest =>
      match escapedChar? c with
      | some e => readString fuel (e :: acc) whole rest
      | none => .broken
    | c :: rest =>
      if c.toNat < 32 ∨ c = '\\' then .broken else readString fuel (c :: acc) whole rest

/-! ## Values -/

/-- Reads a word that stands for a value. -/
def readWord (word : List Char) (d : Datum) (s : List Char) : Reading :=
  if word.isPrefixOf s then ⟨d, some (s.drop word.length)⟩ else .broken

/-- The largest number of sequences and mappings around a part that may still be entered. -/
def maxNesting : Nat := 127

/-- A sequence or mapping inside `nesting` others. -/
def nested (nesting : Nat) (r : Reading) : Reading :=
  if maxNesting ≤ nesting then ⟨.buried r.datum, r.rest⟩ else r

mutual

def readValue (nesting : Nat) : Nat → List Char → Reading
  | 0, _ => .broken
  | fuel + 1, s =>
    match skipGap s with
    | '"' :: rest => readString (rest.length + 1) [] true rest
    | '-' :: rest => readNumber true rest
    | '[' :: rest =>
      let (items, after) := readItems (nesting + 1) fuel true rest
      nested nesting ⟨.seq items, after⟩
    | '\x7b' :: rest =>
      let (members, after) := readMembers (nesting + 1) fuel true rest
      nested nesting ⟨.map members, after⟩
    | 'n' :: rest => readWord ['u', 'l', 'l'] .null rest
    | 't' :: rest => readWord ['r', 'u', 'e'] (.bool true) rest
    | 'f' :: rest => readWord ['a', 'l', 's', 'e'] (.bool false) rest
    | c :: rest => if c.isDigit then readNumber false (c :: rest) else .broken
    | [] => .broken

/-- Reads the items of an array behind its bracket or behind an item. -/
def readItems (nesting : Nat) : Nat → Bool → List Char → List Datum × Option (List Char)
  | 0, _, _ => ([.broken], none)
  | fuel + 1, first, s =>
    let one (s : List Char) : List Datum × Option (List Char) :=
      let r := readValue nesting fuel s
      match r.rest with
      | none => ([r.datum], none)
      | some after =>
        let (items, rest) := readItems nesting fuel false after
        (r.datum :: items, rest)
    match skipGap s, first with
    | ']' :: rest, _ => ([], some rest)
    | ',' :: rest, false =>
      match skipGap rest with
      | ']' :: _ => ([.broken], none)
      | rest => one rest
    | rest, true => one rest
    | _, false => ([.broken], none)

/-- Reads the members of an object behind its brace or behind a member. -/
def readMembers (nesting : Nat) :
    Nat → Bool → List Char → List (Datum × Datum) × Option (List Char)
  | 0, _, _ => ([(.broken, .broken)], none)
  | fuel + 1, first, s =>
    let one (s : List Char) : List (Datum × Datum) × Option (List Char) :=
      match s with
      | '"' :: rest =>
        let key := readString (rest.length + 1) [] true rest
        match key.rest.map skipGap with
        | some (':' :: after) =>
          let r := readValue nesting fuel after
          match r.rest with
          | none => ([(key.datum, r.datum)], none)
          | some after =>
            let (members, rest) := readMembers nesting fuel false after
            ((key.datum, r.datum) :: members, rest)
        | some _ => ([(key.datum, .broken)], none)
        | none => ([(.broken, .broken)], none)
      | _ => ([(.broken, .broken)], none)
    match skipGap s, first with
    | '\x7d' :: rest, _ => ([], some rest)
    | ',' :: rest, false => one (skipGap rest)
    | rest, true => one rest
    | _, false => ([(.broken, .broken)], none)

end

/-- A text as a datum, and whether nothing but gaps follows it. -/
structure Source where
  datum : Datum
  complete : Bool

def document (s : String) : Source :=
  let cs := s.toList
  let r := readValue 0 (cs.length + 1) cs
  ⟨r.datum, match r.rest with | some rest => (skipGap rest).isEmpty | none => false⟩

end ScenarioRunner.Json

import ScenarioRunner.Text.Blank
import ScenarioRunner.Text.Digit
import ScenarioRunner.Text.Split
import ScenarioRunner.Text.Utf8

/-!
# Hosts

The hosts that addresses name: names, four numbers of eight bits, or eight numbers of sixteen bits in
brackets.

* `Host.read` reads a host and writes it in its common form.
* `Host.fourNumbers` reads numbers between points, where the last one stands for all that are left.
* `Host.eightNumbers` reads hexadecimal numbers between colons, where two colons stand for zeros.

A host whose last part is a number has to be a row of numbers.
-/

namespace ScenarioRunner.Host

def isForbidden (c : Char) : Bool :=
  c.toNat ≤ 32 || c.toNat == 127 ||
    ['#', '/', ':', '<', '>', '?', '@', '[', '\\', ']', '^', '|', '%'].contains c

/-- The bytes of a text in which bytes may be written in hexadecimal behind a per cent sign. -/
def decodedBytes : List Char → List UInt8
  | '%' :: a :: b :: rest =>
    match Text.number? 16 [a, b] with
    | some n => UInt8.ofNat n :: decodedBytes rest
    | none => Text.Utf8.encode "%" ++ decodedBytes (a :: b :: rest)
  | c :: rest => Text.Utf8.encode (String.singleton c) ++ decodedBytes rest
  | [] => []

/-! ## Four numbers -/

/-- Reads a number: hexadecimal behind `0x`, octal behind `0`, and decimal otherwise. -/
def number? (s : List Char) : Option Nat :=
  match s with
  | '0' :: x :: rest =>
    if x = 'x' ∨ x = 'X' then (if rest.isEmpty then some 0 else Text.number? 16 rest)
    else Text.number? 8 (x :: rest)
  | s => Text.number? 10 s

/-- The parts of a host between points; a point at its end does not count. -/
def parts (s : List Char) : List (List Char) :=
  match (Text.splitOn '.' s).reverse with
  | [] :: part :: rest => (part :: rest).reverse
  | ps => ps.reverse

/-- The last part of the host is a number. -/
def endsInNumber (s : List Char) : Bool :=
  match (parts s).getLast? with
  | some part => (!part.isEmpty && part.all Char.isDigit) || (number? part).isSome
  | none => false

/-- The value of some numbers: each but the last one is a byte, and the last one is the rest. -/
def combined? (room : Nat) : List Nat → Option Nat
  | [] => none
  | [last] => if last < Nat.pow 256 room then some last else none
  | n :: rest =>
    if n < 256 ∧ 0 < room then
      (combined? (room - 1) rest).map fun m => n * Nat.pow 256 (room - 1) + m
    else none

/-- The four bytes of a number of 32 bits. -/
def bytesOf (n : Nat) : List Nat :=
  [n / Nat.pow 256 3 % 256, n / Nat.pow 256 2 % 256, n / 256 % 256, n % 256]

/-- Reads a row of up to four numbers. -/
def fourNumbers (s : List Char) : Option String := do
  let numbers ← (parts s).mapM number?
  let n ← combined? 4 numbers
  some (Text.joined "." ((bytesOf n).map toString))

/-! ## Eight numbers -/

/-- Reads a number of up to four hexadecimal digits. -/
def group? (s : List Char) : Option Nat :=
  if s.length ≤ 4 then Text.number? 16 s else none

/-- Reads a byte without zeros in front. -/
def byte? (s : List Char) : Option Nat :=
  match s with
  | '0' :: _ :: _ => none
  | s => if s.length ≤ 3 then (Text.number? 10 s).filter (· < 256) else none

/-- Reads four bytes between points as two numbers. -/
def pair? (s : List Char) : Option (List Nat) := do
  match ← (Text.splitOn '.' s).mapM byte? with
  | [a, b, c, d] => some [a * 256 + b, c * 256 + d]
  | _ => none

/-- Reads numbers between colons; the last one may be four bytes between points. -/
def groups? : List (List Char) → Option (List Nat)
  | [] => some []
  | [last] => if last.contains '.' then pair? last else (group? last).map fun n => [n]
  | s :: rest => (group? s).bind fun n => (groups? rest).map fun ns => n :: ns

/-- The numbers between colons in a text; an empty text has none. -/
def groupsOf? (s : List Char) : Option (List Nat) :=
  if s.isEmpty then some [] else groups? (Text.splitOn ':' s)

/-- The text cut at the first two colons that stand together. -/
def cutAtGap : List Char → Option (List Char × List Char)
  | ':' :: ':' :: rest => some ([], rest)
  | c :: rest => (cutAtGap rest).map fun (before, after) => (c :: before, after)
  | [] => none

def eight? (s : List Char) : Option (List Nat) :=
  match cutAtGap s with
  | none => (groupsOf? s).filter fun ns => ns.length = 8
  | some (before, after) => do
    let first ← groupsOf? before
    let last ← groupsOf? after
    if before.contains '.' ∨ 7 < first.length + last.length then none
    else some (first ++ List.replicate (8 - first.length - last.length) 0 ++ last)

/-- The number of zeros at the start. -/
def zeros (ns : List Nat) : Nat :=
  (ns.takeWhile (· = 0)).length

/-- The place and the length of the first longest row of zeros. -/
def longestGap (ns : List Nat) : Nat × Nat :=
  (List.range ns.length).foldl (fun best i =>
    if best.2 < zeros (ns.drop i) then (i, zeros (ns.drop i)) else best) (0, 0)

/-- Numbers in hexadecimal between colons. -/
def hexText (ns : List Nat) : String :=
  Text.joined ":" (ns.map fun n => String.ofList (Nat.toDigits 16 n))

/-- Eight numbers in brackets; two colons stand for the first longest row of two or more zeros. -/
def eightText (ns : List Nat) : String :=
  let (start, length) := longestGap ns
  let shown :=
    if 2 ≤ length then hexText (ns.take start) ++ "::" ++ hexText (ns.drop (start + length))
    else hexText ns
  "[" ++ shown ++ "]"

/-- Reads what stands between brackets. -/
def eightNumbers (s : List Char) : Option String :=
  (eight? s).map eightText

/-! ## Hosts -/

/-- Reads a name or a row of numbers. -/
def readName (s : List Char) : Option String := do
  let name := (Text.lowered (String.ofList (Text.Utf8.decodeLossy (decodedBytes s)))).toList
  if name.isEmpty || name.any isForbidden then none
  else if endsInNumber name then fourNumbers name
  else some (String.ofList name)

def read (s : List Char) : Option String :=
  match s with
  | '[' :: rest =>
    match rest.reverse with
    | ']' :: inner => eightNumbers inner.reverse
    | _ => none
  | s => readName s

end ScenarioRunner.Host

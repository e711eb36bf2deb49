import ScenarioRunner.Text.Blank
import ScenarioRunner.Decimal.Shortest

/-!
# Dates with a time of day

A calendar date and a time of day without a time zone.

* `DateTime` keeps the parts; a leap second is second 59 with a billion nanoseconds or more.
* `DateTime.read` reads `2024-03-09T07:05:01.5`, and `DateTime.text` writes the same form with as
  many fraction digits as are needed, in groups of three.
* `DateTime.stamp` writes the seventeen digits that end the name of a report file.
-/

namespace ScenarioRunner

/-- Whether February of this year has 29 days. -/
def isLeapYear (year : Int) : Bool :=
  year % 4 == 0 && (year % 100 != 0 || year % 400 == 0)

def daysInMonth (year : Int) (month : Nat) : Nat :=
  if month = 2 then (if isLeapYear year then 29 else 28)
  else if month = 4 ∨ month = 6 ∨ month = 9 ∨ month = 11 then 30
  else 31

/-- A date with a time of day. -/
structure DateTime where
  year : Int
  month : Nat
  day : Nat
  hour : Nat
  minute : Nat
  second : Nat
  nanosecond : Nat
deriving DecidableEq, Repr, Inhabited, BEq

namespace DateTime

/-- The earliest and the latest year of a date. -/
def yearRange : Int × Int := (-262143, 262142)

/-- The parts make a date and a time. -/
def valid (d : DateTime) : Bool :=
  yearRange.1 ≤ d.year && d.year ≤ yearRange.2 && 1 ≤ d.month && d.month ≤ 12 && 1 ≤ d.day &&
    d.day ≤ daysInMonth d.year d.month && d.hour ≤ 23 && d.minute ≤ 59 && d.second ≤ 59 &&
    d.nanosecond < (if d.second = 59 then 2000000000 else 1000000000)

/-- Why a text is no date. -/
inductive ReadError where
  | outOfRange
  | invalid
  | tooShort
  | tooLong
deriving DecidableEq, Repr

def ReadError.message : ReadError → String
  | outOfRange => "input is out of range"
  | invalid => "input contains invalid characters"
  | tooShort => "premature end of input"
  | tooLong => "trailing input"

/-! ## Writing -/

/-- The decimal digits of a number, with zeros in front up to a width. -/
def padded (width n : Nat) : List Char :=
  let ds := Decimal.digitsOf n
  List.replicate (width - ds.length) '0' ++ ds

/-- A year: four digits, and a sign for years before 0 or after 9999. -/
def yearText (year : Int) : List Char :=
  if 0 ≤ year ∧ year ≤ 9999 then padded 4 year.toNat
  else (if year < 0 then '-' else '+') :: padded 4 year.natAbs

/-- The second as it is written: a leap second is second 60. -/
def shownSecond (d : DateTime) : Nat :=
  if 1000000000 ≤ d.nanosecond then d.second + 1 else d.second

/-- The nanoseconds within the second. -/
def fraction (d : DateTime) : Nat :=
  d.nanosecond % 1000000000

/-- The fraction of a second: nothing, or a point with three, six or nine digits. -/
def fractionText (n : Nat) : List Char :=
  if n = 0 then []
  else if n % 1000000 = 0 then '.' :: padded 3 (n / 1000000)
  else if n % 1000 = 0 then '.' :: padded 6 (n / 1000)
  else '.' :: padded 9 n

/-- The date and time, with a `T` between them. -/
def text (d : DateTime) : String :=
  String.ofList
    (yearText d.year ++ '-' :: padded 2 d.month ++ '-' :: padded 2 d.day ++ 'T' ::
      padded 2 d.hour ++ ':' :: padded 2 d.minute ++ ':' :: padded 2 d.shownSecond ++
      fractionText d.fraction)

/-- Year, month, day, hour, minute, second and millisecond, all digits joined. -/
def stamp (d : DateTime) : String :=
  String.ofList
    (yearText d.year ++ padded 2 d.month ++ padded 2 d.day ++ padded 2 d.hour ++
      padded 2 d.minute ++ padded 2 d.shownSecond ++ padded 3 (d.fraction / 1000000))

/-! ## Reading -/

/-- Reads between one and `width` digits (any number of them for `none`) that make a number of at
most 63 bits. -/
def number (width : Option Nat) (s : List Char) : Except ReadError (Nat × List Char) :=
  match s with
  | [] => .error .tooShort
  | _ :: _ =>
    let within := match width with | some n => s.take n | none => s
    let ds := within.takeWhile Char.isDigit
    if ds.isEmpty then .error .invalid
    else if Nat.pow 2 63 ≤ Decimal.ofDigits ds then .error .outOfRange
    else .ok (Decimal.ofDigits ds, s.drop ds.length)

/-- Reads a field of up to two digits whose value lies in a range. -/
def field (low high : Nat) (s : List Char) : Except ReadError (Nat × List Char) := do
  let (n, rest) ← number (some 2) (Text.trimStart s)
  if low ≤ n ∧ n ≤ high then .ok (n, rest) else .error .outOfRange

/-- Reads a year: four digits at most, or any number of digits behind a sign. -/
def readYear (s : List Char) : Except ReadError (Int × List Char) := do
  let (year, rest) ←
    match Text.trimStart s with
    | '-' :: r => (number none r).map fun (n, rest) => (-(n : Int), rest)
    | '+' :: r => (number none r).map fun (n, rest) => ((n : Int), rest)
    | r => (number (some 4) r).map fun (n, rest) => ((n : Int), rest)
  if year < -(Nat.pow 2 31) ∨ Nat.pow 2 31 ≤ year then .error .outOfRange else .ok (year, rest)

/-- Reads one given character, behind blanks. -/
def mark (c : Char) (s : List Char) : Except ReadError (List Char) :=
  match Text.trimStart s with
  | [] => .error .tooShort
  | d :: rest => if c = d then .ok rest else .error .invalid

/-- Reads a fraction, if a point stands here; digits beyond the ninth are skipped. -/
def readFraction (s : List Char) : Except ReadError (Nat × List Char) :=
  match s with
  | '.' :: r => do
    let (n, rest) ← number (some 9) r
    .ok (n * Nat.pow 10 (9 - (r.length - rest.length)), rest.dropWhile Char.isDigit)
  | r => .ok (0, r)

/-- Reads a date with a time of day; blanks may stand before numbers and at the end. -/
def read (s : String) : Except ReadError DateTime := do
  let (year, s) ← readYear s.toList
  let s ← mark '-' s
  let (month, s) ← field 1 12 s
  let s ← mark '-' s
  let (day, s) ← field 1 31 s
  let s ← mark 'T' s
  let (hour, s) ← field 0 23 s
  let s ← mark ':' s
  let (minute, s) ← field 0 59 s
  let s ← mark ':' s
  let (second, s) ← field 0 60 s
  let (nano, s) ← readFraction s
  if !(Text.trimStart s).isEmpty then .error .tooLong
  else
    let date : DateTime :=
      if second = 60 then ⟨year, month, day, hour, minute, 59, 1000000000 + nano⟩
      else ⟨year, month, day, hour, minute, second, nano⟩
    if date.valid then .ok date else .error .outOfRange

end DateTime

end ScenarioRunner

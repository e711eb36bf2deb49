import ScenarioRunner.Decimal.Binary64

/-!
# Shortest decimal digits

The fewest decimal digits that read back as a given number, and their layout as text.

* `Digits` is a decimal `value * 10 ^ exponent`.
* `shortest` tries 1, 2, … 17 digits; on each decimal grid it tests the two neighbours of the
  number, and the first grid with a neighbour that reads back wins, the nearer one of two.
* `Layout` says where positional notation ends; `render` writes a number by a layout.
-/

namespace ScenarioRunner.Decimal

/-- A decimal `value * 10 ^ exponent`. -/
structure Digits where
  value : Nat
  exponent : Int
deriving DecidableEq, Repr

/-- The decimal digits of a whole number. -/
def digitsOf (n : Nat) : List Char :=
  Nat.toDigits 10 n

/-- Reads decimal digits, most significant first; any other character counts as its distance
from `'0'`. -/
def ofDigits (s : List Char) : Nat :=
  s.foldl (fun n c => n * 10 + (c.toNat - 48)) 0

namespace Digits

/-- Moves zeros at the end of the value into the exponent. -/
def normalize : Nat → Digits → Digits
  | 0, d => d
  | fuel + 1, d =>
    if d.value ≠ 0 ∧ d.value % 10 = 0 then normalize fuel ⟨d.value / 10, d.exponent + 1⟩ else d

end Digits

/-- The interval of numbers that round to `mantissa * 2 ^ scale`, in quarters of a unit: its ends,
and whether they belong to it. -/
structure Rounding where
  low : Nat
  middle : Nat
  high : Nat
  closed : Bool

/-- The interval of numbers that round to a finite number, in units of `2 ^ (scale - 2)`. -/
def Rounding.of (x : Binary64) : Rounding :=
  let m := x.mantissa
  let below := if m = Nat.pow 2 52 ∧ -1074 < x.scale then 1 else 2
  ⟨4 * m - below, 4 * m, 4 * m + 2, m % 2 = 0⟩

/-- The neighbour on the grid `10 ^ j` of a number that reads back as it, if there is one; the
nearer one of two, the even one on a tie. -/
def onGrid? (x : Binary64) (j : Int) : Option Digits :=
  let r := Rounding.of x
  let e := x.scale - 2
  -- one unit of the interval is `a`, one unit of the grid is `b`
  let a := Nat.pow 2 e.toNat * Nat.pow 10 (-j).toNat
  let b := Nat.pow 10 j.toNat * Nat.pow 2 (-e).toNat
  let inside (c : Nat) : Bool :=
    if r.closed then r.low * a ≤ c * b && c * b ≤ r.high * a
    else r.low * a < c * b && c * b < r.high * a
  let c := r.middle * a / b
  let rest := r.middle * a % b
  match inside c && c != 0, inside (c + 1) with
  | true, true =>
    if 2 * rest < b ∨ (2 * rest = b ∧ c % 2 = 0) then some ⟨c, j⟩ else some ⟨c + 1, j⟩
  | true, false => some ⟨c, j⟩
  | false, true => some ⟨c + 1, j⟩
  | false, false => none

/-- The position of the first digit: the number is at least `10 ^ topPlace` and less than ten times
that. -/
def topPlace (x : Binary64) : Int :=
  let (n, d) := x.ratio
  ((digitsOf (n * Nat.pow 10 400 / d)).length : Int) - 401

/-- The fewest digits that read back as a finite number other than zero. -/
def shortest (x : Binary64) : Digits :=
  let top := topPlace x
  let found := (List.range 17).findSome? fun n : Nat => onGrid? x (top - (n : Int))
  (found.getD ⟨x.mantissa, 0⟩).normalize 400

/-- Where positional notation is used: when the point stands at most `before` places before the
first digit and at most `after` places behind it.  `none` sets no bound. -/
structure Layout where
  before : Option Nat
  after : Option Nat

namespace Layout

/-- Whether a number whose point stands `point` places behind its first digit is positional. -/
def positional (l : Layout) (point : Int) : Bool :=
  (match l.before with | none => true | some n => -(n : Int) < point) &&
    (match l.after with | none => true | some n => point ≤ (n : Int))

/-- Numbers in documents: at most sixteen places before the point, and fewer than five zeros
behind it. -/
def document : Layout := ⟨some 5, some 16⟩

def plain : Layout := ⟨none, none⟩

end Layout

/-- The text of an unsigned decimal.  Positional notation always has a fraction; otherwise an
exponent with its sign follows one digit and the fraction. -/
def Digits.render (l : Layout) (d : Digits) : List Char :=
  let ds := digitsOf d.value
  let point : Int := (ds.length : Int) + d.exponent
  if l.positional point then
    if 0 ≤ d.exponent then ds ++ List.replicate d.exponent.toNat '0' ++ ['.', '0']
    else if 0 < point then ds.take point.toNat ++ '.' :: ds.drop point.toNat
    else '0' :: '.' :: List.replicate (-point).toNat '0' ++ ds
  else
    let e := point - 1
    let mark := if 0 ≤ e then '+' else '-'
    let fraction := if ds.length ≤ 1 then [] else '.' :: ds.drop 1
    ds.take 1 ++ fraction ++ 'e' :: mark :: digitsOf e.natAbs

/-- The text of a number: `inf` and `NaN` by name, zero with a fraction, any other by its shortest
digits. -/
def render (l : Layout) (x : Binary64) : String :=
  if x.isNaN then "NaN"
  else
    let sign := if x.negative then ['-'] else []
    let body :=
      if !x.isFinite then ['i', 'n', 'f']
      else if x.isZero then ['0', '.', '0']
      else (shortest x).render l
    String.ofList (sign ++ body)

end ScenarioRunner.Decimal

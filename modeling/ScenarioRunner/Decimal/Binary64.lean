/-!
# Binary floating-point numbers

Numbers with 53 significant binary digits, kept as the 64 bits of their interchange format, and
exact arithmetic on them in whole numbers.

* `Binary64` holds the bits; `negative`, `mantissa` and `scale` read a finite number as
  `± mantissa * 2 ^ scale`.
* `ofRatio` rounds a quotient of whole numbers to the nearest number, a tie to the even one, and
  too large a quotient to infinity.
* `timesPower` and `overPower` multiply and divide by (the nearest number to) a power of ten.
-/

namespace ScenarioRunner.Decimal

/-- A binary floating-point number, by its 64 bits: sign, 11 bits of exponent, 52 of fraction. -/
structure Binary64 where
  bits : UInt64
deriving DecidableEq, Repr, Inhabited

namespace Binary64

def negative (x : Binary64) : Bool :=
  Nat.pow 2 63 ≤ x.bits.toNat

/-- The eleven bits of the exponent. -/
def exponentField (x : Binary64) : Nat :=
  x.bits.toNat / Nat.pow 2 52 % Nat.pow 2 11

/-- The fifty-two bits of the fraction. -/
def fractionField (x : Binary64) : Nat :=
  x.bits.toNat % Nat.pow 2 52

def isFinite (x : Binary64) : Bool :=
  x.exponentField != 2047

def isNaN (x : Binary64) : Bool :=
  x.exponentField == 2047 && x.fractionField != 0

/-- A finite number is `± mantissa * 2 ^ scale`. -/
def mantissa (x : Binary64) : Nat :=
  if x.exponentField = 0 then x.fractionField else Nat.pow 2 52 + x.fractionField

/-- A finite number is `± mantissa * 2 ^ scale`. -/
def scale (x : Binary64) : Int :=
  if x.exponentField = 0 then -1074 else (x.exponentField : Int) - 1075

def isZero (x : Binary64) : Bool :=
  x.exponentField == 0 && x.fractionField == 0

/-- Whether two numbers count as the same: zeros of both signs do, and so do any two NaNs. -/
def same (x y : Binary64) : Bool :=
  x.bits == y.bits || (x.isZero && y.isZero) || (x.isNaN && y.isNaN)

/-- A number from its sign and the remaining bits. -/
def ofMagnitude (negative : Bool) (magnitude : Nat) : Binary64 :=
  ⟨UInt64.ofNat (magnitude + if negative then Nat.pow 2 63 else 0)⟩

def infinity (negative : Bool) : Binary64 :=
  ofMagnitude negative (2047 * Nat.pow 2 52)

def nan : Binary64 :=
  ofMagnitude false (2047 * Nat.pow 2 52 + Nat.pow 2 51)

/-- The quotient rounded to the nearest whole number, a tie to the even one. -/
def roundDiv (num den : Nat) : Nat :=
  let q := num / den
  let r := num % den
  if 2 * r < den then q
  else if den < 2 * r then q + 1
  else if q % 2 = 0 then q else q + 1

/-- `num / den * 2 ^ (-e)` as a quotient of whole numbers. -/
def shifted (num den : Nat) (e : Int) : Nat × Nat :=
  if 0 ≤ e then (num, den * Nat.pow 2 e.toNat) else (num * Nat.pow 2 (-e).toNat, den)

/-- The nearest number to `± num / den`. -/
def ofRatio (negative : Bool) (num den : Nat) : Binary64 :=
  if num = 0 ∨ den = 0 then ofMagnitude negative 0
  else
    let guess : Int := (Nat.log2 num : Int) - (Nat.log2 den : Int)
    let (n, d) := shifted num den guess
    let top := if d ≤ n then guess else guess - 1
    let e := max (top - 52) (-1074)
    let (n, d) := shifted num den e
    let m := roundDiv n d
    let (m, e) := if m = Nat.pow 2 53 then (Nat.pow 2 52, e + 1) else (m, e)
    if 971 < e then infinity negative
    else if m < Nat.pow 2 52 then ofMagnitude negative m
    else ofMagnitude negative ((e + 1074).toNat * Nat.pow 2 52 + m)

/-- The magnitude of a finite number as a quotient of whole numbers. -/
def ratio (x : Binary64) : Nat × Nat :=
  if 0 ≤ x.scale then (x.mantissa * Nat.pow 2 x.scale.toNat, 1)
  else (x.mantissa, Nat.pow 2 (-x.scale).toNat)

/-- The nearest number to `10 ^ k`. -/
def powerOfTen (k : Nat) : Binary64 :=
  ofRatio false (Nat.pow 10 k) 1

/-- The product with `powerOfTen k`, rounded. -/
def timesPower (x : Binary64) (k : Nat) : Binary64 :=
  let (n, d) := x.ratio
  let (pn, pd) := (powerOfTen k).ratio
  ofRatio x.negative (n * pn) (d * pd)

/-- The quotient by `powerOfTen k`, rounded. -/
def overPower (x : Binary64) (k : Nat) : Binary64 :=
  let (n, d) := x.ratio
  let (pn, pd) := (powerOfTen k).ratio
  ofRatio x.negative (n * pd) (d * pn)

/-- The same number with the other sign. -/
def neg (x : Binary64) : Binary64 :=
  ofMagnitude (!x.negative) (x.bits.toNat % Nat.pow 2 63)

end Binary64

end ScenarioRunner.Decimal

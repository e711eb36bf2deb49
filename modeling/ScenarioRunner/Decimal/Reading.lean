import ScenarioRunner.Decimal.Shortest

/-!
# Reading decimals

Two ways from decimal text to a number.

* `nearest` gives the number nearest to `value * 10 ^ exponent`.
* `scaled?` keeps what fits into 64 bits of the digits and scales the result by powers of ten, with
  a rounding at each multiplication; `none` when the number is too large.
* `parse?` reads a decimal with optional fraction and exponent and gives its nearest number.
-/

namespace ScenarioRunner.Decimal

/-- The number nearest to `± value * 10 ^ exponent`.  Exponents far outside the range of numbers
are cut, which changes no result. -/
def nearest (negative : Bool) (value : Nat) (exponent : Int) : Binary64 :=
  let length : Int := (digitsOf value).length
  if value = 0 ∨ exponent + length < -400 then .ofMagnitude negative 0
  else if 400 < exponent + length then .infinity negative
  else if 0 ≤ exponent then .ofRatio negative (value * Nat.pow 10 exponent.toNat) 1
  else .ofRatio negative value (Nat.pow 10 (-exponent).toNat)

/-- Scales a number by `10 ^ exponent` in steps of at most `10 ^ 308`; `none` when the result is
too large. -/
def scaled? : Nat → Binary64 → Int → Option Binary64
  | 0, _, _ => none
  | fuel + 1, x, exponent =>
    if exponent.natAbs ≤ 308 then
      if 0 ≤ exponent then
        let y := x.timesPower exponent.natAbs
        if y.isFinite then some y else none
      else some (x.overPower exponent.natAbs)
    else if x.isZero then some x
    else if 0 ≤ exponent then none
    else scaled? fuel (x.overPower 308) (exponent + 308)

/-- The number `value * 10 ^ exponent`, where `value` is rounded first and scaled then. -/
def stepwise? (negative : Bool) (value : Nat) (exponent : Int) : Option Binary64 :=
  (scaled? 8 (.ofRatio false value 1) exponent).map fun x => if negative then x.neg else x

/-- The digits at the start of a text, and what follows them. -/
def spanDigits (s : List Char) : List Char × List Char :=
  s.span Char.isDigit

/-- Reads an exponent mark with its digits.  A text without the mark has exponent zero. -/
def exponent? (s : List Char) : Option (Int × List Char) :=
  match s with
  | c :: rest =>
    if c = 'e' ∨ c = 'E' then
      let (negative, rest) :=
        match rest with
        | '+' :: r => (false, r)
        | '-' :: r => (true, r)
        | r => (false, r)
      match spanDigits rest with
      | ([], _) => none
      | (ds, rest) =>
        let n : Int := min (ofDigits (ds.dropWhile (· == '0') |>.take 9)) 99999999
        some (if negative then -n else n, rest)
    else some (0, s)
  | [] => some (0, [])

/-- Reads a decimal: an optional sign, digits with an optional point among or around them, and an
optional exponent.  All of the text has to be used. -/
def parse? (s : List Char) : Option Binary64 :=
  let (negative, s) :=
    match s with
    | '+' :: r => (false, r)
    | '-' :: r => (true, r)
    | r => (false, r)
  let (whole, s) := spanDigits s
  let (fraction, s) :=
    match s with
    | '.' :: r => spanDigits r
    | r => ([], r)
  if whole.isEmpty && fraction.isEmpty then none
  else
    match exponent? s with
    | some (e, []) =>
      some (nearest negative (ofDigits (whole ++ fraction)) (e - fraction.length))
    | _ => none

end ScenarioRunner.Decimal

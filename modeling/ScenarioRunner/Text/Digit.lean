/-!
# Digits

Numbers written in a base of up to sixteen.  `digitValue?` is the value of a digit, and `number?`
the number that one or more digits write, the most significant one first.
-/

namespace ScenarioRunner.Text

/-- The value of a digit up to `f`, in either case. -/
def hexValue? (c : Char) : Option Nat :=
  if '0' ≤ c ∧ c ≤ '9' then some (c.toNat - 48)
  else if 'a' ≤ c ∧ c ≤ 'f' then some (c.toNat - 87)
  else if 'A' ≤ c ∧ c ≤ 'F' then some (c.toNat - 55)
  else none

def digitValue? (base : Nat) (c : Char) : Option Nat :=
  (hexValue? c).bind fun d => if d < base then some d else none

/-- The number that one or more digits write in a base. -/
def number? (base : Nat) (s : List Char) : Option Nat :=
  if s.isEmpty then none
  else s.foldlM (fun n c => (digitValue? base c).map fun d => n * base + d) 0

end ScenarioRunner.Text

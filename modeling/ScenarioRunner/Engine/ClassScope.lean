import ScenarioRunner.Discovery.NodeId
import ScenarioRunner.Model.Status

/-!
# The scope of a running class

What the scenarios of one class share while they run: a gate of fixed capacity, a countdown of the
scenarios that are not done, the identifiers of those in flight, and the worst verdict so far.

* `ClassScope.ofClass` is the scope in which nothing has happened.
* `ClassScope.acquire?` and `ClassScope.release` work the gate.
* `ClassScope.countDown` takes a scenario off the countdown; `ClassScope.isDone` holds at zero.
* `ClassScope.enter`, `ClassScope.leave` and `ClassScope.record` keep the book.
-/

namespace ScenarioRunner

/-- What the scenarios of a class share while they run. -/
structure ClassScope where
  /-- How many scenarios may hold a permit at once. -/
  capacity : Nat
  /-- The permits that no scenario holds. -/
  free : Nat
  /-- The scenarios that are not done. -/
  remaining : Nat
  /-- The identifiers of scenarios in flight, each once. -/
  inFlight : List NodeId
  worst : Option Verdict
deriving DecidableEq, Repr

namespace ClassScope

def limit : Nat := Nat.pow 2 61 - 1

/-- The scope of a class with some scenarios.  At least one scenario may run at a time. -/
def ofClass (capacity scenarios : Nat) : ClassScope where
  capacity := max capacity 1
  free := max capacity 1
  remaining := scenarios
  inFlight := []
  worst := none

def acquire? (s : ClassScope) : Option ClassScope :=
  match s.free with
  | 0 => none
  | free + 1 => some { s with free }

def release (s : ClassScope) : ClassScope :=
  { s with free := s.free + 1 }

/-- Takes a scenario off the countdown, which stops at zero. -/
def countDown (s : ClassScope) : ClassScope :=
  { s with remaining := s.remaining - 1 }

def isDone (s : ClassScope) : Bool :=
  s.remaining == 0

def record (s : ClassScope) (verdict : Verdict) : ClassScope :=
  { s with worst := Verdict.worst? s.worst (some verdict) }

/-- A scenario is in flight from now on. -/
def enter (s : ClassScope) (id : NodeId) : ClassScope :=
  if s.inFlight.contains id then s else { s with inFlight := s.inFlight ++ [id] }

/-- A scenario is done with a verdict: whether it was in flight, and the scope behind it. -/
def leave (s : ClassScope) (id : NodeId) (verdict : Verdict) : Bool × ClassScope :=
  (s.inFlight.contains id,
    { s with inFlight := s.inFlight.filter (· != id) }.record verdict)

/-- The worst verdict; a class without one passes. -/
def verdict (s : ClassScope) : Verdict :=
  s.worst.getD .success

end ClassScope

end ScenarioRunner

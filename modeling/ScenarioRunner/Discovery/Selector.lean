import ScenarioRunner.Error

/-!
# Selectors

What a request asks for: everything under a package, a class, or one producer of a class.

* `Selector.parseMethod?` reads `class#producer`, cut at the first `#`.
* `Selector.text` writes a selector.
-/

namespace ScenarioRunner

/-- What a request asks for. -/
inductive Selector where
  /-- Every class under a package; the empty package holds all of them. -/
  | package (name : String)
  | class (name : String)
  /-- One producer of one class. -/
  | method (className producer : String)
deriving DecidableEq, Repr

namespace Selector

def all : Selector :=
  package ""

/-- Reads `class#producer`; neither part is empty. -/
def parseMethod? (s : String) : Option Selector :=
  match Text.splitOnce '#' s.toList with
  | some (c, m) =>
    if c.isEmpty || m.isEmpty then none else some (method (String.ofList c) (String.ofList m))
  | none => none

/-- Reads `class#producer`, or says that the text is no such pair. -/
def parseMethod (s : String) : Except Error Selector :=
  match parseMethod? s with
  | some selector => .ok selector
  | none => .error (.config ("Invalid method selector '" ++ s ++ "', expected <class>#<method>"))

def text : Selector → String
  | package name => "package:" ++ (if name = "" then "<root>" else name)
  | «class» name => "class:" ++ name
  | method className producer => "method:" ++ className ++ "#" ++ producer

end Selector

end ScenarioRunner

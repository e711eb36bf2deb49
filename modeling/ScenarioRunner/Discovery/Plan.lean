import ScenarioRunner.Catalog.Basic
import ScenarioRunner.Discovery.Selector

/-!
# The plan of a discovery

What the selectors of a request pick from a catalog.

* `Selector.picks` gives the picks of one selector, or the issue of a selector that names nothing.
* `Plan.pick` adds a pick: a class stays where it was picked first, and a pick of the whole class
  outweighs picks of single producers, whichever comes first.
* `Plan.ofSelectors` is the plan of a list of selectors, `Plan.issues` the issues among them.
-/

namespace ScenarioRunner

/-- Which producers of a class are picked. -/
inductive Selection where
  | all
  | only (producers : List String)
deriving DecidableEq, Repr

namespace Selection

def includes (s : Selection) (producer : String) : Bool :=
  match s with
  | all => true
  | only names => names.contains producer

/-- The selection of a class (`none`) or of one producer. -/
def ofPick : Option String → Selection
  | none => all
  | some producer => only [producer]

/-- The selection with one more pick. -/
def add (s : Selection) (pick : Option String) : Selection :=
  match s, pick with
  | _, none => all
  | all, some _ => all
  | only names, some producer =>
    if names.contains producer then only names else only (names ++ [producer])

end Selection

/-- A class that some selector picks. -/
structure PlannedClass where
  name : String
  /-- The text of the first selector that picks the class. -/
  selector : String
  selection : Selection
deriving DecidableEq, Repr

/-- A class, and the producer of it that is picked; `none` for the whole class. -/
structure Pick where
  className : String
  producer : Option String
deriving DecidableEq, Repr

/-- The picks of a selector in a catalog. -/
def Selector.picks (catalog : Catalog) (s : Selector) : Except DiscoveryIssue (List Pick) :=
  match s with
  | package name =>
    .ok ((catalog.classes.filter fun c => c.inPackage name).map fun c => ⟨c.name, none⟩)
  | «class» name =>
    match catalog.class? name with
    | some _ => .ok [⟨name, none⟩]
    | none => .error ⟨s.text, name, "class not found"⟩
  | method className producer =>
    match catalog.class? className with
    | none => .error ⟨s.text, className, "class not found"⟩
    | some c =>
      if c.loadError.isSome || (c.producer? producer).isSome then .ok [⟨className, some producer⟩]
      else
        .error ⟨s.text, className ++ "#" ++ producer, "no scenario producer with this name"⟩

namespace Plan

/-- The plan with one more pick by a selector. -/
def pick (selector : String) (p : Pick) : List PlannedClass → List PlannedClass
  | [] => [⟨p.className, selector, .ofPick p.producer⟩]
  | c :: rest =>
    if c.name = p.className then { c with selection := c.selection.add p.producer } :: rest
    else c :: pick selector p rest

/-- The plan with the picks of one more selector; a selector with an issue picks nothing. -/
def select (catalog : Catalog) (plan : List PlannedClass) (s : Selector) : List PlannedClass :=
  match s.picks catalog with
  | .ok picks => picks.foldl (fun plan p => pick s.text p plan) plan
  | .error _ => plan

/-- The classes that a list of selectors picks, in the order in which they are picked first. -/
def ofSelectors (catalog : Catalog) (selectors : List Selector) : List PlannedClass :=
  selectors.foldl (select catalog) []

/-- The issue of a selector that names nothing. -/
def issue? (catalog : Catalog) (s : Selector) : Option DiscoveryIssue :=
  match s.picks catalog with
  | .ok _ => none
  | .error issue => some issue

/-- The issues of selectors that name nothing, in their order. -/
def issues (catalog : Catalog) (selectors : List Selector) : List DiscoveryIssue :=
  selectors.filterMap (issue? catalog)

end Plan

end ScenarioRunner

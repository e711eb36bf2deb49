import ScenarioRunner.Discovery.Tree
import ScenarioRunner.Json.Basic
import ScenarioRunner.Model.Environment
import ScenarioRunner.Report.Style

/-!
# Outlines

What is shown of trees, of issues and of environments.

* `Node.outline` has a line for each node of a tree, and `Node.encode` is a tree as JSON.
* `Discovery.Outcome.lines` and `Discovery.Outcome.encode` show a whole discovery.
* `Environment.lines` shows an environment with its targets.

Each node is indented by two blanks per level.
-/

namespace ScenarioRunner

/-! ## Trees -/

def NodeKind.sign : NodeKind → String
  | container => "+"
  | test => "-"
  | containerAndTest => "*"

namespace Node

/-- The environment that the definition of a node asks for. -/
def environment? (n : Node) : Option String :=
  n.scenario?.bind ScenarioSource.environment

def headline (depth : Nat) (n : Node) : Line :=
  [.indent depth, .plain (n.kind.sign ++ " " ++ n.name)] ++
    (n.environment?.map fun name => Span.styled .faint (" [" ++ name ++ "]")).toList ++
    if n.retryable then [.styled (.ofColour .yellow) " (retry)"] else []

mutual

/-- The lines of a node at a depth and of the nodes below it. -/
def outline (depth : Nat) : Node → List Line
  | ⟨id, name, kind, source, retryable, children⟩ =>
    headline depth ⟨id, name, kind, source, retryable, []⟩ :: outlineOf (depth + 1) children

/-- The lines of some nodes and of the nodes below them. -/
def outlineOf (depth : Nat) : List Node → List Line
  | [] => []
  | node :: nodes => node.outline depth ++ outlineOf depth nodes

end

/-- The members of a node as JSON, with its children given. -/
def members (n : Node) (children : List Json) : List (String × Json) :=
  [("id", .str n.id.text), ("name", .str n.name), ("kind", .str n.kind.name),
      ("retryable", .bool n.retryable), ("children", .arr children)] ++
    Json.optional "environment" n.environment? .str

mutual

/-- A node as JSON, with the nodes below it. -/
def encode : Node → Json
  | ⟨id, name, kind, source, retryable, children⟩ =>
    Json.ofEntries (members ⟨id, name, kind, source, retryable, []⟩ (encodeAll children))

def encodeAll : List Node → List Json
  | [] => []
  | node :: nodes => node.encode :: encodeAll nodes

end

end Node

/-! ## Issues -/

namespace DiscoveryIssue

def line (i : DiscoveryIssue) : Line :=
  [.styled (.boldIn .yellow) "!", .plain (" " ++ i.text)]

def encode (i : DiscoveryIssue) : Json :=
  Json.ofEntries
    [("selector", .str i.selector), ("source", .str i.source), ("message", .str i.message)]

end DiscoveryIssue

namespace Discovery.Outcome

def issueLines (o : Outcome) : List Line :=
  o.issues.map DiscoveryIssue.line

/-- How many scenarios there are, and in how many classes. -/
def countLine (o : Outcome) : Line :=
  [.plain
    (toString o.root.scenarioCount ++ " scenario(s) in " ++ toString o.root.children.length ++
      " class(es)")]

/-- The lines of a discovery: the tree, the issues, and the numbers below a blank line. -/
def lines (o : Outcome) : List Line :=
  o.root.outline 0 ++ o.issueLines ++ [[], o.countLine]

def encode (o : Outcome) : Json :=
  Json.ofEntries
    [("root", o.root.encode), ("issues", .arr (o.issues.map DiscoveryIssue.encode))]

end Discovery.Outcome

/-! ## Environments -/

def Target.line (t : Target) : Line :=
  [.plain ("  " ++ t.name ++ " "), .styled .faint t.url]

/-- The lines of an environment: its name, its description if there is one, and its targets. -/
def Environment.lines (e : Environment) : List Line :=
  [.styled .strong e.name] ::
    (if e.description.isEmpty then [] else [[.plain "  ", .styled .faint e.description]]) ++
    e.targets.map Target.line

end ScenarioRunner

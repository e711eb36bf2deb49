import ScenarioRunner.Text.Split

/-!
# Node identifiers

A node is identified by its segments from the root down, each a kind and a value.  `NodeId.text`
writes them as `[kind:value]/[kind:value]`, `NodeId.startsWith` compares positions in the tree, and
`NodeId.compare` orders identifiers segment by segment.
-/

namespace ScenarioRunner

/-- The identifier of a node. -/
structure NodeId where
  segments : List (String × String)
deriving DecidableEq, Repr, Inhabited

namespace NodeId

/-- The name of the engine that runs scenarios. -/
def engineName : String := "chutney"

def engine (name : String) : NodeId :=
  ⟨[("engine", name)]⟩

def append (id : NodeId) (kind value : String) : NodeId :=
  ⟨id.segments ++ [(kind, value)]⟩

def last (id : NodeId) : String × String :=
  id.segments.getLastD ("", "")

/-- The node is the other one or lies below it. -/
def startsWith (id other : NodeId) : Bool :=
  other.segments.isPrefixOf id.segments

def segmentText (segment : String × String) : String :=
  "[" ++ segment.1 ++ ":" ++ segment.2 ++ "]"

def text (id : NodeId) : String :=
  Text.joined "/" (id.segments.map segmentText)

/-- The order of segments: by kind, then by value. -/
def compareSegment (s t : String × String) : Ordering :=
  (compareOfLessAndEq s.1 t.1).then (compareOfLessAndEq s.2 t.2)

/-- The order of lists of segments, item by item; the start of a list comes first. -/
def compareSegments : List (String × String) → List (String × String) → Ordering
  | [], [] => .eq
  | [], _ :: _ => .lt
  | _ :: _, [] => .gt
  | s :: ss, t :: ts => (compareSegment s t).then (compareSegments ss ts)

def compare (id other : NodeId) : Ordering :=
  compareSegments id.segments other.segments

end NodeId

end ScenarioRunner

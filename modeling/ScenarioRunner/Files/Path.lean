import ScenarioRunner.Text.Split

/-!
# Paths

Paths are texts with `/` between the names.  Their meaning is a list of components.

* `Path.components` drops empty names and names `.` inside a path.
* `Path.join` appends a path, which replaces the first one if it is absolute.
* `Path.relative?` is the part of a path below another one.
* `Path.extension?` and `Path.withoutExtension` look at the last name.
* `Path.before` orders paths by their components.
-/

namespace ScenarioRunner.Path

/-- A component of a path, from the first to the last in their order. -/
inductive Component where
  /-- The `/` in front of an absolute path. -/
  | root
  /-- A `.` at the start of a path. -/
  | here
  /-- The name `..`. -/
  | up
  | name (s : String)
deriving DecidableEq, Repr

def Component.text : Component → String
  | root => "/"
  | here => "."
  | up => ".."
  | name s => s

/-- The component of a name between separators, if it is one. -/
def ofSegment? (s : String) : Option Component :=
  if s = "" ∨ s = "." then none
  else if s = ".." then some .up
  else some (.name s)

def components (path : String) : List Component :=
  match Text.segments '/' path with
  | [] => []
  | first :: rest =>
    let start :=
      if first = "" then (if rest.isEmpty then [] else [Component.root])
      else if first = "." then [Component.here]
      else (ofSegment? first).toList
    start ++ rest.filterMap ofSegment?

def ofComponents : List Component → String
  | .root :: rest => "/" ++ Text.joined "/" (rest.map Component.text)
  | cs => Text.joined "/" (cs.map Component.text)

/-- Whether a path starts at the root. -/
def isAbsolute (path : String) : Bool :=
  path.toList.head? == some '/'

/-- The second path, seen from the first. -/
def join (path next : String) : String :=
  if isAbsolute next then next
  else if path.isEmpty || path.toList.getLast? == some '/' then path ++ next
  else path ++ "/" ++ next

/-- What follows a list at the start of another one. -/
def dropPrefix? : List Component → List Component → Option (List Component)
  | [], rest => some rest
  | _ :: _, [] => none
  | p :: ps, c :: cs => if p = c then dropPrefix? ps cs else none

/-- The part of a path below another one. -/
def relative? (root path : String) : Option String :=
  (dropPrefix? (components root) (components path)).map ofComponents

/-- The part of a path below another one, or the path itself. -/
def relativeOr (root path : String) : String :=
  (relative? root path).getD path

/-! ## The last name -/

/-- The names between separators, up to the last one with a meaning. -/
def meaningful (path : String) : List String :=
  ((Text.segments '/' path).reverse.dropWhile fun s => s == "" || s == ".").reverse

/-- The last name of a path, unless that leads upwards. -/
def fileName? (path : String) : Option String :=
  match (meaningful path).getLast? with
  | some s => if s = ".." then none else some s
  | none => none

/-- A name cut at its last point: what stands before, and the extension behind.  A point at the
start of a name begins no extension. -/
def splitName (name : String) : String × Option String :=
  match Text.splitOnce '.' name.toList.reverse with
  | some (behind, before) =>
    if before.isEmpty then (name, none)
    else (String.ofList before.reverse, some (String.ofList behind.reverse))
  | none => (name, none)

def extension? (path : String) : Option String :=
  (fileName? path).bind fun name => (splitName name).2

/-- The path up to the end of its last name, without that name's extension. -/
def cutStem (path : String) : String :=
  match (meaningful path).reverse with
  | last :: before =>
    if last = ".." then path
    else Text.joined "/" ((splitName last).1 :: before).reverse
  | [] => path

def withoutExtension (path : String) : String :=
  match extension? path with
  | some e => cutStem (String.ofList (path.toList.take (path.length - e.length)))
  | none => cutStem path

/-! ## Order -/

/-- The rank of the kind of a component. -/
def Component.rank : Component → Nat
  | root => 0
  | here => 1
  | up => 2
  | name _ => 3

/-- Components are ordered by kind first; names by their characters. -/
def Component.before : Component → Component → Bool
  | .name s, .name t => s < t
  | a, b => a.rank < b.rank

/-- The order of lists of components, item by item; the start of a list comes first. -/
def componentsBefore : List Component → List Component → Bool
  | _, [] => false
  | [], _ :: _ => true
  | a :: as, b :: bs =>
    if a = b then componentsBefore as bs else a.before b

def before (p q : String) : Bool :=
  componentsBefore (components p) (components q)

end ScenarioRunner.Path

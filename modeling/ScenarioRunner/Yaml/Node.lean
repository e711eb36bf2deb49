import ScenarioRunner.Yaml.Layout

/-!
# The tree of a document

* `Node` is a document as it is written: scalars with their style, sequences and mappings, and
  aliases for nodes that are written elsewhere.
* `Document` is a tree with the nodes that its aliases may stand for.
* `Document.ofTokens` follows the grammar.  A text holds at most one document.

An anchor takes the place with the number of different names in use so far.  A name that is used
again therefore leaves a place free, and of several nodes with one place the one that starts last
counts.
-/

namespace ScenarioRunner.Yaml

/-- A document as it is written. -/
inductive Node where
  | scalar (tag : Option String) (plain : Bool) (text : String)
  | sequence (tag : Option String) (items : List Node)
  | mapping (tag : Option String) (entries : List (Node × Node))
  /-- The node at a place. -/
  | alias (place : Nat)
deriving Inhabited, Repr

namespace Node

/-- The scalar that stands where nothing is written. -/
def empty : Node :=
  scalar none true ""

mutual

/-- The number of marks in a tree: one for each scalar and alias, two for each sequence and mapping. -/
def size : Node → Nat
  | .scalar .. => 1
  | .alias _ => 1
  | .sequence _ items => sizeItems items + 2
  | .mapping _ entries => sizeEntries entries + 2

/-- The number of marks in some trees. -/
def sizeItems : List Node → Nat
  | [] => 0
  | item :: items => item.size + sizeItems items

/-- The number of marks in some pairs of trees. -/
def sizeEntries : List (Node × Node) → Nat
  | [] => 0
  | (key, value) :: entries => key.size + value.size + sizeEntries entries

end

end Node

/-- A node that an anchor names. -/
structure Anchored where
  place : Nat
  /-- The number of anchors before it. -/
  order : Nat
  node : Node

/-- What is left to read, and the anchors met so far. -/
structure Reader where
  tokens : List Token
  /-- The handles of tags. -/
  handles : List (String × String)
  /-- The place that each name of an anchor stands for. -/
  names : List (String × Nat)
  /-- The number of anchors. -/
  anchors : Nat
  nodes : List Anchored

namespace Reader

def skip (r : Reader) : Reader :=
  { r with tokens := r.tokens.tail }

def next (r : Reader) (p : Token → Bool) : Bool :=
  r.tokens.head?.any p

/-- An anchor, and the reader that knows its name. -/
def addName (r : Reader) (name : String) : Nat × Nat × Reader :=
  let place := r.names.length
  let names := (name, place) :: r.names.filter fun entry => entry.1 != name
  (place, r.anchors, { r with names, anchors := r.anchors + 1 })

/-- The anchor and the tag in front of a node, in either order. -/
def properties (r : Reader) : Option String × Option (String × String) × Reader :=
  match r.tokens with
  | .anchor name :: .tag handle suffix :: rest =>
    (some name, some (handle, suffix), { r with tokens := rest })
  | .tag handle suffix :: .anchor name :: rest =>
    (some name, some (handle, suffix), { r with tokens := rest })
  | .anchor name :: rest => (some name, none, { r with tokens := rest })
  | .tag handle suffix :: rest => (none, some (handle, suffix), { r with tokens := rest })
  | _ => (none, none, r)

/-- The tag with its handle resolved. -/
def resolveTag (r : Reader) : Option (String × String) → Option (Option String)
  | none => some none
  | some (handle, suffix) =>
    if handle = "" then some (some suffix)
    else (r.handles.lookup handle).map fun meaning => some (meaning ++ suffix)

end Reader

/-! ## Grammar -/

/-- Nothing is written between a dash and this token. -/
def endsItem : Token → Bool
  | .blockEntry | .blockEnd => true
  | _ => false

/-- Nothing is written between a key or value mark and this token. -/
def endsEntry : Token → Bool
  | .key | .value | .blockEnd => true
  | _ => false

/-- Nothing is written between a dash without a block of its own and this token. -/
def endsLooseItem : Token → Bool
  | .blockEntry | .key | .value | .blockEnd => true
  | _ => false

/-- Nothing is written between a mark inside brackets and this token. -/
def endsFlow (closing : Token) (t : Token) : Bool :=
  t == .flowEntry || t == closing

/-- The tag `!` fits scalars only. -/
def refused (tag : Option String) : Bool :=
  tag == some "!"

mutual

/-- Reads a node.  Blocks are read if `block`, and dashes without a block of their own if `loose`. -/
def readNode (block loose : Bool) : Nat → Reader → Option (Node × Reader)
  | 0, _ => none
  | fuel + 1, r =>
    match r.tokens with
    | .alias name :: rest =>
      (r.names.lookup name).map fun place => (.alias place, { r with tokens := rest })
    | _ => do
      let (anchor, written, r) := r.properties
      let tag ← r.resolveTag written
      match anchor with
      | none => readContent block loose tag written.isSome fuel r
      | some name =>
        let (place, order, r) := r.addName name
        let (node, r) ← readContent block loose tag true fuel r
        some (node, { r with nodes := ⟨place, order, node⟩ :: r.nodes })

/-- Reads a node behind its anchor and tag; with one of these, nothing needs to follow. -/
def readContent (block loose : Bool) (tag : Option String) (marked : Bool) :
    Nat → Reader → Option (Node × Reader)
  | 0, _ => none
  | fuel + 1, r =>
    let sequence (read : Option (List Node × Reader)) : Option (Node × Reader) :=
      if refused tag then none else read.map fun (items, r) => (.sequence tag items, r)
    let mapping (read : Option (List (Node × Node) × Reader)) : Option (Node × Reader) :=
      if refused tag then none else read.map fun (entries, r) => (.mapping tag entries, r)
    match r.tokens with
    | .scalar text plain :: _ =>
      some (.scalar (if refused tag then none else tag) plain text, r.skip)
    | .flowSequenceStart :: _ => sequence (readFlowItems true fuel r.skip)
    | .flowMappingStart :: _ => mapping (readFlowEntries true fuel r.skip)
    | token :: _ =>
      if loose && token == .blockEntry then sequence (readLooseItems fuel r)
      else if block && token == .blockSequenceStart then sequence (readItems fuel r.skip)
      else if block && token == .blockMappingStart then mapping (readEntries fuel r.skip)
      else if marked && !refused tag then some (.scalar tag true "", r)
      else none
    | [] => none

/-- Reads a node, or nothing if the next token is of a class. -/
def readUnless (ends : Token → Bool) (block loose : Bool) :
    Nat → Reader → Option (Node × Reader)
  | 0, _ => none
  | fuel + 1, r => if r.next ends then some (.empty, r) else readNode block loose fuel r

def readItems : Nat → Reader → Option (List Node × Reader)
  | 0, _ => none
  | fuel + 1, r =>
    match r.tokens with
    | .blockEntry :: _ => do
      let (item, r) ← readUnless endsItem true false fuel r.skip
      let (items, r) ← readItems fuel r
      some (item :: items, r)
    | .blockEnd :: _ => some ([], r.skip)
    | _ => none

/-- Reads items that have no block of their own. -/
def readLooseItems : Nat → Reader → Option (List Node × Reader)
  | 0, _ => none
  | fuel + 1, r =>
    match r.tokens with
    | .blockEntry :: _ => do
      let (item, r) ← readUnless endsLooseItem true false fuel r.skip
      let (items, r) ← readLooseItems fuel r
      some (item :: items, r)
    | _ => some ([], r)

/-- Reads what a value mark stands in front of, if there is one. -/
def readValue (ends : Token → Bool) (block : Bool) : Nat → Reader → Option (Node × Reader)
  | 0, _ => none
  | fuel + 1, r =>
    match r.tokens with
    | .value :: _ => readUnless ends block block fuel r.skip
    | _ => some (.empty, r)

def readEntries : Nat → Reader → Option (List (Node × Node) × Reader)
  | 0, _ => none
  | fuel + 1, r =>
    match r.tokens with
    | .key :: _ => do
      let (key, r) ← readUnless endsEntry true true fuel r.skip
      let (value, r) ← readValue endsEntry true fuel r
      let (entries, r) ← readEntries fuel r
      some ((key, value) :: entries, r)
    | .blockEnd :: _ => some ([], r.skip)
    | _ => none

/-- Reads the items between square brackets.  A key among them makes a mapping with one entry. -/
def readFlowItems (first : Bool) : Nat → Reader → Option (List Node × Reader)
  | 0, _ => none
  | fuel + 1, r =>
    match r.tokens with
    | .flowSequenceEnd :: _ => some ([], r.skip)
    | token :: _ =>
      if !first && token != .flowEntry then none
      else
        let r := if first then r else r.skip
        match r.tokens with
        | .flowSequenceEnd :: _ => some ([], r.skip)
        | .key :: _ => do
          let r := r.skip
          let (key, r) ←
            if r.next fun t => t == .value || endsFlow .flowSequenceEnd t then
              some (Node.empty, r.skip)
            else readNode false false fuel r
          let (value, r) ← readValue (endsFlow .flowSequenceEnd) false fuel r
          let (items, r) ← readFlowItems false fuel r
          some (.mapping none [(key, value)] :: items, r)
        | _ => do
          let (item, r) ← readNode false false fuel r
          let (items, r) ← readFlowItems false fuel r
          some (item :: items, r)
    | [] => none

/-- Reads the entries between braces. -/
def readFlowEntries (first : Bool) : Nat → Reader → Option (List (Node × Node) × Reader)
  | 0, _ => none
  | fuel + 1, r =>
    match r.tokens with
    | .flowMappingEnd :: _ => some ([], r.skip)
    | token :: _ =>
      if !first && token != .flowEntry then none
      else
        let r := if first then r else r.skip
        match r.tokens with
        | .flowMappingEnd :: _ => some ([], r.skip)
        | .key :: _ => do
          let (key, r) ←
            readUnless (fun t => t == .value || endsFlow .flowMappingEnd t) false false fuel r.skip
          let (value, r) ← readValue (endsFlow .flowMappingEnd) false fuel r
          let (entries, r) ← readFlowEntries false fuel r
          some ((key, value) :: entries, r)
        | _ => do
          let (key, r) ← readNode false false fuel r
          let (entries, r) ← readFlowEntries false fuel r
          some ((key, .empty) :: entries, r)
    | [] => none

end

/-! ## Documents -/

/-- A tree, and the nodes that its aliases may stand for. -/
structure Document where
  root : Node
  nodes : List Anchored

namespace Document

/-- The handles that need no directive. -/
def standardHandles : List (String × String) :=
  [("!", "!"), ("!!", "tag:yaml.org,2002:")]

/-- Reads directives: one version at most, of a known kind, and every handle once. -/
def readDirectives (versioned : Bool) (handles : List (String × String)) :
    List Token → Option (List (String × String) × List Token)
  | .version major minor :: rest =>
    if versioned || major != 1 || (minor != 1 && minor != 2) then none
    else readDirectives true handles rest
  | .handle name meaning :: rest =>
    if (handles.lookup name).isSome then none
    else readDirectives versioned ((name, meaning) :: handles) rest
  | tokens => some (handles, tokens)

def endsDocument : Token → Bool
  | .version .. | .handle .. | .documentStart | .documentEnd | .streamEnd => true
  | _ => false

/-- The document that a reader holds. -/
def ofReader (r : Reader) : Option Document := do
  let (root, r) ←
    if r.next endsDocument then some (Node.empty, r)
    else readNode true false (4 * r.tokens.length + 8) r
  match r.tokens.dropWhile (· == .documentEnd) with
  | [.streamEnd] => some ⟨root, r.nodes⟩
  | _ => none

/-- The document made of some tokens.  A text without any part is an empty document. -/
def ofTokens (tokens : List Token) : Option Document :=
  match tokens with
  | [.streamEnd] => some ⟨.empty, []⟩
  | .documentEnd :: _ => none
  | _ => do
    let explicit := tokens.head?.any endsDocument
    let (handles, tokens) ← readDirectives false [] tokens
    let tokens ←
      if explicit then
        match tokens with
        | .documentStart :: rest => some rest
        | _ => none
      else some tokens
    ofReader ⟨tokens, handles ++ standardHandles, [], 0, []⟩

/-- The node at a place: the one that starts last. -/
def node? (d : Document) (place : Nat) : Option Node :=
  let here := d.nodes.filter fun a => a.place == place
  (here.foldl (fun (best : Option Anchored) a =>
    match best with
    | none => some a
    | some b => if b.order < a.order then some a else some b) none).map Anchored.node

end Document

end ScenarioRunner.Yaml

import ScenarioRunner.Yaml.Token

/-!
# From layout to tokens

The layout of a document says where its blocks start and end, and which of its words are keys.

* `Layout` is what has been read: the tokens so far, the indentation of open blocks, and for every
  level of brackets the place of a word that may turn out to be a key.
* A word is a key when a colon follows on the same line.  The token for it, and if need be the one
  for the start of a mapping, are put in front of the word then.
* `tokens` reads a whole text.  It fails where the text is not well formed.
-/

namespace ScenarioRunner.Yaml

/-- A word that may turn out to be a key. -/
structure Candidate where
  /-- A word at the indentation of a block has to be a key. -/
  required : Bool
  /-- The number of tokens in front of it. -/
  place : Nat
  index : Nat
  line : Nat
  column : Nat
deriving Repr

/-- What has been read of a document. -/
structure Layout where
  cursor : Cursor
  tokens : Array Token
  /-- The column of the innermost block; -1 outside all blocks. -/
  indent : Int
  /-- The columns of the blocks around it. -/
  outer : List Int
  /-- For every level of brackets, the innermost first, the word that may be a key. -/
  candidates : List (Option Candidate)
  /-- A key may start here. -/
  keyAllowed : Bool

namespace Layout

def ofText (text : List Char) : Layout :=
  ⟨.ofText text, #[], -1, [], [none], true⟩

def inFlow (l : Layout) : Bool :=
  2 ≤ l.candidates.length

def emit (l : Layout) (t : Token) : Layout :=
  { l with tokens := l.tokens.push t }

/-- Adds a token of one or more characters that stands here. -/
def take (l : Layout) (width : Nat) (t : Token) : Layout :=
  { l.emit t with cursor := l.cursor.advance width }

/-! ## Blocks -/

/-- Opens a block at a column, unless one is open there; its first token goes to a place among the
tokens. -/
def openBlock (l : Layout) (column place : Nat) (t : Token) : Layout :=
  if !l.inFlow && l.indent < column then
    { l with
      tokens := l.tokens.insertIdxIfInBounds place t
      indent := column
      outer := l.indent :: l.outer }
  else l

def openHere (l : Layout) (t : Token) : Layout :=
  l.openBlock l.cursor.column l.tokens.size t

/-- Closes blocks as long as their columns, given from the innermost on, lie behind `column`. -/
def closing (column indent : Int) (tokens : Array Token) : List Int → Array Token × Int × List Int
  | [] => (tokens, indent, [])
  | next :: rest =>
    if column < indent then closing column next (tokens.push .blockEnd) rest
    else (tokens, indent, next :: rest)

/-- Closes the blocks behind a column. -/
def closeBlocks (l : Layout) (column : Int) : Layout :=
  if l.inFlow then l
  else
    let (tokens, indent, outer) := closing column l.indent l.tokens l.outer
    { l with tokens, indent, outer }

/-! ## Candidates -/

/-- Gives up a candidate that is no longer one; a required one must not be given up. -/
def fresh? (c : Cursor) : Option Candidate → Option (Option Candidate)
  | none => some none
  | some k =>
    if k.line < c.line || k.index + 1024 < c.index then (if k.required then none else some none)
    else some (some k)

/-- Gives up the candidates that are too far away. -/
def dropStale? (l : Layout) : Option Layout :=
  (l.candidates.mapM (fresh? l.cursor)).map fun candidates => { l with candidates }

/-- Gives up the candidate of this level. -/
def dropCandidate? (l : Layout) : Option Layout :=
  match l.candidates with
  | some k :: rest => if k.required then none else some { l with candidates := none :: rest }
  | _ => some l

/-- Makes what follows a candidate, if a key may start here. -/
def saveCandidate? (l : Layout) : Option Layout :=
  if l.keyAllowed then
    l.dropCandidate?.map fun l =>
      let c := l.cursor
      let k : Candidate :=
        ⟨!l.inFlow && l.indent == c.column, l.tokens.size, c.index, c.line, c.column⟩
      { l with candidates := some k :: l.candidates.drop 1 }
  else some l

/-! ## Reading tokens -/

/-- Moves over blanks, comments and breaks. -/
def skipGaps (l : Layout) : Nat → Layout
  | 0 => l
  | fuel + 1 =>
    let c := l.cursor
    let c := if c.column == 0 && c.rest.head? == some byteOrderMark then c.advance 1 else c
    let c := c.skipWhile fun ch =>
      ch == ' ' || (ch == '\t' && (l.inFlow || !l.keyAllowed))
    let c := if c.rest.head? == some '#' then c.skipWhile (!isBreak ·) else c
    match c.rest with
    | ch :: _ =>
      if isBreak ch then
        skipGaps { l with cursor := c.skipBreak, keyAllowed := l.keyAllowed || !l.inFlow } fuel
      else { l with cursor := c }
    | [] => { l with cursor := c }

/-- A token that stands outside all blocks. -/
def between? (l : Layout) : Option Layout :=
  (l.closeBlocks (-1)).dropCandidate?.map fun l => { l with keyAllowed := false }

def openBracket? (l : Layout) (t : Token) : Option Layout :=
  l.saveCandidate?.map fun l =>
    { l with candidates := none :: l.candidates, keyAllowed := true }.take 1 t

def closeBracket? (l : Layout) (t : Token) : Option Layout :=
  l.dropCandidate?.map fun l =>
    let candidates := if l.inFlow then l.candidates.drop 1 else l.candidates
    { l with candidates, keyAllowed := false }.take 1 t

def flowEntry? (l : Layout) : Option Layout :=
  l.dropCandidate?.map fun l => { l with keyAllowed := true }.take 1 .flowEntry

def blockEntry? (l : Layout) : Option Layout :=
  if !l.inFlow && !l.keyAllowed then none
  else
    (l.openHere .blockSequenceStart).dropCandidate?.map fun l =>
      { l with keyAllowed := true }.take 1 .blockEntry

/-- The question mark in front of a key. -/
def key? (l : Layout) : Option Layout :=
  if !l.inFlow && !l.keyAllowed then none
  else
    (l.openHere .blockMappingStart).dropCandidate?.map fun l =>
      { l with keyAllowed := !l.inFlow }.take 1 .key

def value? (l : Layout) : Option Layout :=
  match l.candidates with
  | some k :: rest =>
    let l := { l with tokens := l.tokens.insertIdxIfInBounds k.place .key }
    let l := l.openBlock k.column k.place .blockMappingStart
    some ({ l with candidates := none :: rest, keyAllowed := false }.take 1 .value)
  | _ =>
    if !l.inFlow && !l.keyAllowed then none
    else some ({ l.openHere .blockMappingStart with keyAllowed := !l.inFlow }.take 1 .value)

/-- A word that may be a key, read by `read`. -/
def word? (l : Layout) (read : Layout → Option (Token × Cursor)) : Option Layout :=
  l.saveCandidate?.bind fun l =>
    (read l).map fun (t, cursor) => { l.emit t with cursor, keyAllowed := false }

def blockScalar? (l : Layout) (folded : Bool) : Option Layout :=
  l.dropCandidate?.bind fun l =>
    (block folded l.indent (l.cursor.advance 1)).map fun (text, cursor) =>
      { l.emit (.scalar text false) with cursor, keyAllowed := true }

def quotedScalar? (l : Layout) (single : Bool) : Option Layout :=
  l.word? fun l =>
    (quoted single (l.cursor.advance 1)).map fun (text, c) => (.scalar text false, c)

/-- A plain scalar; a key may start on the line after it. -/
def plainScalar? (l : Layout) : Option Layout :=
  l.saveCandidate?.bind fun l =>
    (plain l.inFlow (l.indent + 1) l.cursor).map fun p =>
      { l.emit (.scalar (String.ofList p.text) true) with cursor := p.cursor, keyAllowed := p.broken }

/-- A plain scalar starts with these two characters. -/
def startsPlain (flow : Bool) (c : Char) (rest : List Char) : Bool :=
  if c == '-' then !(rest.head?.any isBlank)
  else if c == '?' || c == ':' then !flow && !endsWord rest
  else
    !(isBlank c || isBreak c ||
      [',', '[', ']', '\x7b', '\x7d', '#', '&', '*', '!', '|', '>', '\'', '"', '%', '@',
        '\x60'].contains c)

/-- Reads the token that starts with a character. -/
def token? (l : Layout) (c : Char) (rest : List Char) : Option Layout :=
  if l.cursor.column == 0 && c == '%' then
    l.between?.bind fun l =>
      (directive (l.cursor.advance 1)).map fun (t, cursor) => { l.emit t with cursor }
  else if l.cursor.atMark '-' then l.between?.map fun l => l.take 3 .documentStart
  else if l.cursor.atMark '.' then l.between?.map fun l => l.take 3 .documentEnd
  else if c == '[' then l.openBracket? .flowSequenceStart
  else if c == '\x7b' then l.openBracket? .flowMappingStart
  else if c == ']' then l.closeBracket? .flowSequenceEnd
  else if c == '\x7d' then l.closeBracket? .flowMappingEnd
  else if c == ',' then l.flowEntry?
  else if c == '-' && endsWord rest then l.blockEntry?
  else if c == '?' && (l.inFlow || endsWord rest) then l.key?
  else if c == ':' && (l.inFlow || endsWord rest) then l.value?
  else if c == '*' then
    l.word? fun l =>
      (anchorName (l.cursor.advance 1)).map fun (name, c) => (.alias name, c)
  else if c == '&' then
    l.word? fun l =>
      (anchorName (l.cursor.advance 1)).map fun (name, c) => (.anchor name, c)
  else if c == '!' then l.word? fun l => tagName l.inFlow l.cursor
  else if c == '|' && !l.inFlow then l.blockScalar? false
  else if c == '>' && !l.inFlow then l.blockScalar? true
  else if c == '\'' then l.quotedScalar? true
  else if c == '"' then l.quotedScalar? false
  else if startsPlain l.inFlow c rest then l.plainScalar?
  else none

def finish? (l : Layout) : Option (Array Token) :=
  l.between?.map fun l => l.tokens.push .streamEnd

/-- Reads tokens up to the end of the text. -/
def run : Nat → Layout → Option (Array Token)
  | 0, _ => none
  | fuel + 1, l => do
    let l ← (l.skipGaps (l.cursor.rest.length + 1)).dropStale?
    let l := l.closeBlocks l.cursor.column
    match l.cursor.rest with
    | [] => l.finish?
    | c :: rest =>
      let l ← l.token? c rest
      run fuel l

end Layout

def tokens (text : List Char) : Option (List Token) :=
  if text.all isAllowed then
    let text := if text.head? == some byteOrderMark then text.drop 1 else text
    (Layout.run (text.length + 2) (.ofText text)).map Array.toList
  else none

end ScenarioRunner.Yaml

import ScenarioRunner.Toml.Scalar

/-!
# Reading TOML documents

`Toml.parse?` reads a document: comments, values under keys, and headers of tables, one per line.

Arrays and tables in braces nest up to a limit, and a key has a limited number of parts.
-/

namespace ScenarioRunner.Toml

/-- One more than the largest depth of arrays and braces, and than the number of parts of a key. -/
def limit : Nat := 80

/-- The text behind a comment that stands here, if its characters are allowed. -/
def skipComment (s : List Char) : List Char :=
  match s with
  | '#' :: rest => rest.dropWhile isText
  | s => s

/-- The text behind blanks, a comment, and the end of a line. -/
def skipLineEnd? (s : List Char) : Option (List Char) :=
  match skipComment (skipGap s) with
  | [] => some []
  | rest => skipBreak? rest

/-- The text behind blanks, comments and breaks. -/
def skipGaps : Nat → List Char → List Char
  | 0, s => s
  | fuel + 1, s =>
    let s := skipGap s
    match s with
    | '#' :: _ =>
      let rest := skipComment s
      match skipBreak? rest with
      | some rest => skipGaps fuel rest
      | none => s
    | _ =>
      match skipBreak? s with
      | some rest => skipGaps fuel rest
      | none => s

/-! ## Keys -/

/-- The characters of keys without quotes. -/
def isKeyChar (c : Char) : Bool :=
  c.isAlphanum || c == '-' || c == '_'

def readPart : Reader String := fun s =>
  match s with
  | '"' :: rest => readLine '"' (rest.length + 1) [] rest
  | '\'' :: rest => readLine '\'' (rest.length + 1) [] rest
  | s =>
    let name := s.takeWhile isKeyChar
    if name.isEmpty then none else some (String.ofList name, s.drop name.length)

/-- Reads the parts of a key, with blanks around them. -/
def readParts : Nat → Reader (List String)
  | 0, _ => none
  | fuel + 1, s =>
    (readPart (skipGap s)).bind fun (part, rest) =>
      match skipGap rest with
      | '.' :: more => (readParts fuel more).map fun (parts, rest) => (part :: parts, rest)
      | rest => some ([part], rest)

/-- Reads a key: the parts before the last one, and the last. -/
def readKey : Reader (List String × String) := fun s =>
  (readParts (s.length + 1) s).bind fun (parts, rest) =>
    if limit ≤ parts.length then none
    else parts.getLast?.map fun key => ((parts.dropLast, key), rest)

/-! ## Values -/

mutual

/-- Reads a value at a depth of arrays and braces. -/
def readValue (depth : Nat) : Nat → Reader Toml
  | 0, _ => none
  | fuel + 1, s =>
    match s with
    | '"' :: _ | '\'' :: _ => (readString s).map fun (text, rest) => (.str text, rest)
    | '[' :: rest =>
      if limit ≤ depth + 1 then none
      else (readItems (depth + 1) fuel rest).map fun (items, rest) => (.array items, rest)
    | '\x7b' :: rest =>
      if limit ≤ depth + 1 then none
      else
        match skipGap rest with
        | '\x7d' :: rest => some (.table .inline [], rest)
        | _ =>
          (readEntries (depth + 1) fuel [] rest).map fun (entries, rest) =>
            (.table .inline entries, rest)
    | 't' :: 'r' :: 'u' :: 'e' :: rest => some (.bool true, rest)
    | 'f' :: 'a' :: 'l' :: 's' :: 'e' :: rest => some (.bool false, rest)
    | s => if startsDate s || startsClock s then readTime s else readNumber s

/-- Reads the items of an array up to its bracket. -/
def readItems (depth : Nat) : Nat → Reader (List Toml)
  | 0, _ => none
  | fuel + 1, s =>
    match skipGaps (s.length + 1) s with
    | ']' :: rest => some ([], rest)
    | s => do
      let (item, rest) ← readValue depth fuel s
      match skipGaps (rest.length + 1) rest with
      | ',' :: rest => do
        let (items, rest) ← readItems depth fuel rest
        some (item :: items, rest)
      | ']' :: rest => some ([item], rest)
      | _ => none

/-- Reads the entries of a table in braces up to its brace. -/
def readEntries (depth : Nat) : Nat → Entries → Reader Entries
  | 0, _, _ => none
  | fuel + 1, entries, s => do
    let ((path, key), rest) ← readKey s
    let rest ← readMark '=' rest
    let (value, rest) ← readValue depth fuel (skipGap rest)
    let entries ← addAt? .braces path key value entries
    match skipGap rest with
    | ',' :: rest => readEntries depth fuel entries rest
    | '\x7d' :: rest => some (entries, rest)
    | _ => none

end

/-! ## Documents -/

/-- A document in the making: its entries, and the header that holds. -/
structure Draft where
  entries : Entries
  header : List String

/-- Reads a header behind its first bracket. -/
def readHeader (d : Draft) (s : List Char) : Option (Draft × List Char) :=
  match s with
  | '[' :: s => do
    let ((path, key), s) ← readKey s
    let s ← readMark ']' s
    let s ← readMark ']' s
    let s ← skipLineEnd? s
    let entries ← addElement? path key d.entries
    some (⟨entries, path ++ [key]⟩, s)
  | s => do
    let ((path, key), s) ← readKey s
    let s ← readMark ']' s
    let s ← skipLineEnd? s
    let entries ← addTable? path key d.entries
    some (⟨entries, path ++ [key]⟩, s)

def readEntry (d : Draft) (s : List Char) : Option (Draft × List Char) := do
  let ((path, key), s) ← readKey s
  let s ← readMark '=' s
  let s := skipGap s
  let (value, s) ← readValue 0 (s.length + 1) s
  let s ← skipLineEnd? s
  let entries ← addValue? d.header path key value d.entries
  some ({ d with entries }, s)

def readDocument : Nat → Draft → List Char → Option Entries
  | 0, _, _ => none
  | fuel + 1, d, s =>
    match skipGap s with
    | [] => some d.entries
    | '[' :: rest => (readHeader d rest).bind fun (d, s) => readDocument fuel d s
    | c :: rest =>
      if c == '#' || c == '\n' || c == '\r' then
        (skipLineEnd? (c :: rest)).bind fun s => readDocument fuel d s
      else (readEntry d (c :: rest)).bind fun (d, s) => readDocument fuel d s

/-- The entries of a document; a byte order mark may stand in front. -/
def parse? (text : String) : Option Entries :=
  let s := text.toList
  let s := if s.head? == some '\uFEFF' then s.drop 1 else s
  readDocument (s.length + 1) ⟨[], []⟩ s

end ScenarioRunner.Toml

import ScenarioRunner.Decimal.Shortest
import ScenarioRunner.Yaml.Scalar
import ScenarioRunner.Text.Utf8

/-!
# Tokens

The parts of a document that its grammar is about.  Indentation shows as tokens for the start and
the end of blocks.

* `Token` is the type of tokens.
* `anchorName`, `tagName` and `directive` read the tokens with a name.
-/

namespace ScenarioRunner.Yaml

/-- A part of a document. -/
inductive Token where
  | blockSequenceStart
  | blockMappingStart
  | blockEnd
  | flowSequenceStart
  | flowSequenceEnd
  | flowMappingStart
  | flowMappingEnd
  /-- The `-` in front of an item. -/
  | blockEntry
  /-- The `,` between items. -/
  | flowEntry
  | key
  | value
  | anchor (name : String)
  | alias (name : String)
  /-- A tag by its handle and the rest of it; a tag given in full has no handle. -/
  | tag (handle suffix : String)
  | scalar (text : String) (plain : Bool)
  | version (major minor : Nat)
  /-- A tag handle, and what it stands for. -/
  | handle (name meaning : String)
  | documentStart
  | documentEnd
  | streamEnd
deriving DecidableEq, Repr, Inhabited

/-! ## Anchors -/

/-- Reads the name of an anchor behind its sign. -/
def anchorName (c : Cursor) : Option (String × Cursor) :=
  let name := c.rest.takeWhile isWordChar
  let after := c.advance name.length
  let ended :=
    match after.rest with
    | [] => true
    | d :: _ => isBlank d || isBreak d || ['?', ':', ',', ']', '\x7d', '%', '@', '\x60'].contains d
  if name.isEmpty || !ended then none else some (String.ofList name, after)

/-! ## Tags -/

/-- The characters of a tag; `full` for a tag between angle brackets. -/
def isTagChar (full : Bool) (c : Char) : Bool :=
  isWordChar c ||
    [';', '/', '?', ':', '@', '&', '=', '+', '$', '.', '%', '!', '~', '*', '\'', '(', ')'].contains c ||
    (full && (c == ',' || c == '[' || c == ']'))

/-- The bytes given by escapes `%41`. -/
def escapedBytes : List Char → List Nat → Option (List Nat × List Char)
  | '%' :: a :: b :: rest, acc =>
    match Text.number? 16 [a, b] with
    | some n => escapedBytes rest (n :: acc)
    | none => none
  | '%' :: _, _ => none
  | rest, acc => some (acc.reverse, rest)

/-- The number of bytes of a character with this first byte. -/
def byteWidth? (n : Nat) : Option Nat :=
  if n < 0x80 then some 1
  else if n < 0xC0 then none
  else if n < 0xE0 then some 2
  else if n < 0xF0 then some 3
  else if n < 0xF8 then some 4
  else none

/-- The bytes are made of first bytes, each with the right number of further bytes; `left` are
missing. -/
def wellGrouped : Nat → List Nat → Bool
  | 0, [] => true
  | _ + 1, [] => false
  | 0, n :: rest =>
    match byteWidth? n with
    | some w => wellGrouped (w - 1) rest
    | none => false
  | left + 1, n :: rest => 0x80 ≤ n && n < 0xC0 && wellGrouped left rest

/-- Reads the characters of a tag, with escapes resolved. -/
def tagChars (full : Bool) : Nat → List Char → Cursor → Option (List Char × Cursor)
  | 0, _, _ => none
  | fuel + 1, acc, c =>
    match c.rest with
    | '%' :: _ =>
      match escapedBytes c.rest [] with
      | some (bytes, rest) =>
        if wellGrouped 0 bytes then
          let text := Text.Utf8.decodeLossy (bytes.map UInt8.ofNat)
          tagChars full fuel (text.reverse ++ acc) (c.advance (c.rest.length - rest.length))
        else none
      | none => none
    | d :: _ =>
      if isTagChar full d then tagChars full fuel (d :: acc) (c.advance 1)
      else some (acc.reverse, c)
    | [] => some (acc.reverse, c)

/-- Reads a tag behind `head`, of which the first character is no part of it.  A tag is not empty. -/
def tagText (full : Bool) (head : List Char) (c : Cursor) : Option (List Char × Cursor) :=
  (tagChars full (c.rest.length + 1) [] c).bind fun (text, after) =>
    if head.isEmpty && c.rest.length = after.rest.length then none
    else some (head.drop 1 ++ text, after)

/-- Reads a handle: `!`, or a word between two of them.  `!word` is no handle, but given back. -/
def tagHandle (c : Cursor) : Option (List Char × Cursor) :=
  match c.rest with
  | '!' :: rest =>
    let word := rest.takeWhile isWordChar
    match rest.drop word.length with
    | '!' :: _ => some ('!' :: word ++ ['!'], c.advance (word.length + 2))
    | _ => some ('!' :: word, c.advance (word.length + 1))
  | _ => none

/-- The text ends in a `!` that is not its first character. -/
def isHandle (s : List Char) : Bool :=
  2 ≤ s.length && s.getLast? == some '!'

/-- Reads a tag from its `!` on. -/
def tagName (flow : Bool) (c : Cursor) : Option (Token × Cursor) := do
  let (token, c) ←
    match c.rest with
    | '!' :: '<' :: _ => do
      let (text, c) ← tagText true [] (c.advance 2)
      match c.rest with
      | '>' :: _ => some (Token.tag "" (String.ofList text), c.advance 1)
      | _ => none
    | _ => do
      let (handle, c) ← tagHandle c
      if isHandle handle then
        let (suffix, c) ← tagText false [] c
        some (Token.tag (String.ofList handle) (String.ofList suffix), c)
      else
        let (suffix, c) ← tagText false handle c
        some (if suffix.isEmpty then Token.tag "" "!" else .tag "!" (String.ofList suffix), c)
  if endsWord c.rest || (flow && c.rest.head? == some ',') then some (token, c) else none

/-! ## Directives -/

/-- Reads a number of at most nine digits. -/
def versionNumber (c : Cursor) : Option (Nat × Cursor) :=
  let digits := c.rest.takeWhile Char.isDigit
  if digits.isEmpty || 9 < digits.length then none
  else some (Decimal.ofDigits digits, c.advance digits.length)

/-- Reads a directive behind its `%`, up to the start of the next line. -/
def directive (c : Cursor) : Option (Token × Cursor) := do
  let name := c.rest.takeWhile isWordChar
  let c := c.advance name.length
  if name.isEmpty || !endsWord c.rest then none
  else
    let (token, c) ←
      if name = ['Y', 'A', 'M', 'L'] then do
        let (major, c) ← versionNumber (c.skipWhile isBlank)
        match c.rest with
        | '.' :: _ =>
          let (minor, c) ← versionNumber (c.advance 1)
          some (Token.version major minor, c)
        | _ => none
      else if name = ['T', 'A', 'G'] then do
        let (handle, c) ← tagHandle (c.skipWhile isBlank)
        if handle.length ≠ 1 ∧ ¬ isHandle handle then none
        else
          match c.rest with
          | [] => none
          | b :: _ =>
            if !isBlank b then none
            else
              let (meaning, c) ← tagText true [] (c.skipWhile isBlank)
              if endsWord c.rest then
                some (Token.handle (String.ofList handle) (String.ofList meaning), c)
              else none
      else none
    let c ← c.skipLineEnd?
    some (token, c)

end ScenarioRunner.Yaml

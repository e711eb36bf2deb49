import ScenarioRunner.Yaml.Cursor
import ScenarioRunner.Text.Digit

/-!
# The text of scalars

Scalars over one or more lines, read from a cursor behind their first sign.

* `quoted` reads a text in single or double quotes.
* `plain` reads a text without quotes, which ends where its line is indented too little, at a
  comment, or at a sign with a meaning.
* `block` reads a literal or folded block of lines.

In the first two, a single break stands for a blank and further breaks stand for themselves: this
is the rule of `Gap.text`.
-/

namespace ScenarioRunner.Yaml

/-! ## Gaps between words -/

/-- What stands between two words of a scalar: blanks on one line, or breaks. -/
structure Gap where
  blanks : List Char
  /-- A break has been met. -/
  broken : Bool
  /-- The first break. -/
  first : List Char
  /-- The breaks after the first one. -/
  more : List Char

namespace Gap

def none : Gap :=
  ⟨[], false, [], []⟩

/-- The gap as it stands in the text. -/
def text (g : Gap) : List Char :=
  if g.broken then
    if g.first.head? == some '\n' then (if g.more.isEmpty then [' '] else g.more)
    else g.first ++ g.more
  else g.blanks

/-- Reads blanks and breaks.  On a new line, a tab in front of column `margin` is refused. -/
def read (margin : Option Int) : Nat → Gap → Cursor → Option (Gap × Cursor)
  | 0, _, _ => Option.none
  | fuel + 1, g, c =>
    match c.rest with
    | [] => some (g, c)
    | ch :: _ =>
      if isBlank ch then
        let tooFar := match margin with | some m => (c.column : Int) < m | Option.none => false
        if g.broken && tooFar && ch == '\t' then Option.none
        else if g.broken then read margin fuel g (c.advance 1)
        else read margin fuel { g with blanks := g.blanks ++ [ch] } (c.advance 1)
      else if isBreak ch then
        if g.broken then
          read margin fuel { g with more := g.more ++ c.breakText } c.skipBreak
        else read margin fuel { g with blanks := [], broken := true, first := c.breakText } c.skipBreak
      else some (g, c)

end Gap

/-! ## Quoted scalars -/

/-- The character of an escape of one letter. -/
def escapedChar? (c : Char) : Option Char :=
  match c with
  | '0' => some (Char.ofNat 0)
  | 'a' => some (Char.ofNat 7)
  | 'b' => some (Char.ofNat 8)
  | 't' | '\t' => some '\t'
  | 'n' => some '\n'
  | 'v' => some (Char.ofNat 11)
  | 'f' => some (Char.ofNat 12)
  | 'r' => some '\r'
  | 'e' => some (Char.ofNat 27)
  | ' ' => some ' '
  | '"' => some '"'
  | '/' => some '/'
  | '\\' => some '\\'
  | 'N' => some (Char.ofNat 0x85)
  | '_' => some (Char.ofNat 0xA0)
  | 'L' => some (Char.ofNat 0x2028)
  | 'P' => some (Char.ofNat 0x2029)
  | _ => none

/-- The number of digits of an escape by code point. -/
def escapeWidth? (c : Char) : Option Nat :=
  match c with
  | 'x' => some 2
  | 'u' => some 4
  | 'U' => some 8
  | _ => none

/-- The character of a code point given by exactly `width` hexadecimal digits. -/
def codeChar? (width : Nat) (s : List Char) : Option Char :=
  let digits := s.take width
  if digits.length < width then none
  else
    match Text.number? 16 digits with
    | none => none
    | some n => if n.isValidChar then some (Char.ofNat n) else none

/-- Characters without blanks inside quotes, and where they end.  `true` is given back when an
escaped break ends them. -/
def quotedWord (single : Bool) : Nat → List Char → Cursor → Option (List Char × Bool × Cursor)
  | 0, _, _ => none
  | fuel + 1, acc, c =>
    match c.rest with
    | [] => some (acc.reverse, false, c)
    | ch :: rest =>
      if isBlank ch || isBreak ch then some (acc.reverse, false, c)
      else if single then
        if ch == '\'' then
          if rest.head? == some '\'' then quotedWord single fuel ('\'' :: acc) (c.advance 2)
          else some (acc.reverse, false, c)
        else quotedWord single fuel (ch :: acc) (c.advance 1)
      else if ch == '"' then some (acc.reverse, false, c)
      else if ch == '\\' then
        match rest with
        | [] => none
        | e :: after =>
          if isBreak e then some (acc.reverse, true, (c.advance 1).skipBreak)
          else
            match escapeWidth? e with
            | some width =>
              (codeChar? width after).bind fun d =>
                quotedWord single fuel (d :: acc) (c.advance (2 + width))
            | none =>
              (escapedChar? e).bind fun d => quotedWord single fuel (d :: acc) (c.advance 2)
      else quotedWord single fuel (ch :: acc) (c.advance 1)

/-- Words and gaps inside quotes, up to the closing quote. -/
def quotedLines (single : Bool) : Nat → List Char → Cursor → Option (List Char × Cursor)
  | 0, _, _ => none
  | fuel + 1, text, c =>
    if c.atDocumentMark || c.rest.isEmpty then none
    else
      (quotedWord single (c.rest.length + 1) [] c).bind fun (word, escaped, c) =>
        if c.rest.head? == some (if single then '\'' else '"') then some (text ++ word, c.advance 1)
        else
          (Gap.read none (c.rest.length + 1) { Gap.none with broken := escaped } c).bind
            fun (gap, c) => quotedLines single fuel (text ++ word ++ gap.text) c

/-- Reads a quoted scalar behind its opening quote. -/
def quoted (single : Bool) (c : Cursor) : Option (String × Cursor) :=
  (quotedLines single (c.rest.length + 1) [] c).map fun (text, c) => (String.ofList text, c)

/-! ## Plain scalars -/

/-- The signs that end a plain scalar inside brackets. -/
def isFlowSign (c : Char) : Bool :=
  c == ',' || c == '[' || c == ']' || c == '\x7b' || c == '\x7d'

/-- A plain word.  Inside brackets, a colon right before a sign is refused. -/
def plainWord (flow : Bool) : List Char → Option (List Char)
  | [] => some []
  | c :: rest =>
    if isBlank c || isBreak c then some []
    else
      let refused :=
        match rest with
        | d :: _ => isFlowSign d || d == '?'
        | [] => false
      if flow && c == ':' && refused then none
      else if c == ':' && endsWord rest then some []
      else if flow && isFlowSign c then some []
      else (plainWord flow rest).map (c :: ·)

/-- A plain scalar, whether a break follows it, and the text behind it. -/
structure Plain where
  text : List Char
  broken : Bool
  cursor : Cursor

/-- Plain words and the gaps between them. -/
def plainLines (flow : Bool) (margin : Int) : Nat → List Char → Gap → Cursor → Option Plain
  | 0, _, _, _ => none
  | fuel + 1, text, gap, c =>
    if c.atDocumentMark || c.rest.head? == some '#' then some ⟨text, gap.broken, c⟩
    else
      (plainWord flow c.rest).bind fun word =>
        let text := if word.isEmpty then text else text ++ gap.text ++ word
        let gap := if word.isEmpty then gap else Gap.none
        let c := c.advance word.length
        match c.rest with
        | [] => some ⟨text, gap.broken, c⟩
        | ch :: _ =>
          if isBlank ch || isBreak ch then
            (Gap.read (some margin) (c.rest.length + 1) gap c).bind fun (gap, c) =>
              if !flow && (c.column : Int) < margin then some ⟨text, gap.broken, c⟩
              else plainLines flow margin fuel text gap c
          else some ⟨text, gap.broken, c⟩

/-- Reads a plain scalar.  Outside brackets its lines are indented by at least `margin`. -/
def plain (flow : Bool) (margin : Int) (c : Cursor) : Option Plain :=
  plainLines flow margin (c.rest.length + 1) [] Gap.none c

/-! ## Block scalars -/

/-- What happens to the breaks at the end of a block. -/
inductive Chomping where
  | strip
  | clip
  | keep
deriving DecidableEq

/-- The signs behind the mark of a block: what happens at its end, and its indentation. -/
def blockHeader (c : Cursor) : Option (Chomping × Option Nat × Cursor) :=
  let chomping (ch : Char) : Option Chomping :=
    if ch == '+' then some .keep else if ch == '-' then some .strip else none
  let digit (ch : Char) : Option Nat :=
    if ch.isDigit then some (ch.toNat - 48) else none
  match c.rest with
  | [] => some (.clip, none, c)
  | a :: rest =>
    let second := rest.head?
    match chomping a, digit a with
    | some k, _ =>
      match second.bind digit with
      | some 0 => none
      | some n => some (k, some n, c.advance 2)
      | none => some (k, none, c.advance 1)
    | none, some 0 => none
    | none, some n =>
      match second.bind chomping with
      | some k => some (k, some n, c.advance 2)
      | none => some (.clip, some n, c.advance 1)
    | none, none => some (.clip, none, c)

/-- Reads empty lines and the indentation of the next line, which is at most `level` if that is
known.  The result holds the breaks and the largest column met. -/
def blockBreaks (level : Option Nat) :
    Nat → List Char → Nat → Cursor → Option (List Char × Nat × Cursor)
  | 0, _, _, _ => none
  | fuel + 1, breaks, widest, c =>
    let spaces := (c.rest.takeWhile (· == ' ')).length
    let c := c.advance (match level with | some n => min spaces (n - c.column) | none => spaces)
    let widest := max widest c.column
    let inside := match level with | some n => c.column < n | none => true
    match c.rest with
    | [] => some (breaks, widest, c)
    | ch :: _ =>
      if inside && ch == '\t' then none
      else if isBreak ch then
        blockBreaks level fuel (breaks ++ c.breakText) widest c.skipBreak
      else some (breaks, widest, c)

/-- The lines of a block read so far. -/
structure Block where
  text : List Char
  /-- The break behind the last line. -/
  last : List Char
  /-- The breaks of empty lines behind that. -/
  empty : List Char
  /-- The last line starts with a blank. -/
  blank : Bool

/-- What stands between the last line and the next one: a folded break is a blank, unless one of
the two lines starts with a blank. -/
def Block.joint (b : Block) (folded blank : Bool) : List Char :=
  if folded && b.last.head? == some '\n' && !b.blank && !blank then
    if b.empty.isEmpty then [' '] else b.empty
  else b.last ++ b.empty

/-- Reads the lines of a block that are indented by `level`. -/
def blockLines (folded : Bool) (level : Nat) : Nat → Block → Cursor → Option (Block × Cursor)
  | 0, _, _ => none
  | fuel + 1, b, c =>
    match c.rest with
    | [] => some (b, c)
    | ch :: _ =>
      if c.column = level then
        let blank := isBlank ch
        let line := c.rest.takeWhile (!isBreak ·)
        let after := c.advance line.length
        let next := after.skipBreak
        (blockBreaks (some level) (next.rest.length + 1) [] 0 next).bind fun (breaks, _, c) =>
          blockLines folded level fuel
            ⟨b.text ++ b.joint folded blank ++ line, after.breakText, breaks, blank⟩ c
      else some (b, c)

def Block.chomped (b : Block) : Chomping → List Char
  | .strip => b.text
  | .clip => b.text ++ b.last
  | .keep => b.text ++ b.last ++ b.empty

/-- Reads a block behind its mark, where `indent` is the indentation around it. -/
def block (folded : Bool) (indent : Int) (c : Cursor) : Option (String × Cursor) := do
  let (chomping, step, c) ← blockHeader c
  let c ← c.skipLineEnd?
  let given := step.map fun n => if 0 ≤ indent then indent.toNat + n else n
  let (breaks, widest, c) ← blockBreaks given (c.rest.length + 1) [] 0 c
  let level := given.getD (max (max widest (indent + 1).toNat) 1)
  let (b, c) ← blockLines folded level (c.rest.length + 1) ⟨[], [], breaks, false⟩ c
  some (String.ofList (b.chomped chomping), c)

end ScenarioRunner.Yaml

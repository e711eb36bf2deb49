import ScenarioRunner.Toml.Basic
import ScenarioRunner.DateTime.Basic
import ScenarioRunner.Text.Digit

/-!
# TOML texts, numbers and dates

Readers for the values without parts.  A reader takes the characters to read and gives the value
with the characters behind it.

* `readString` reads a text in any of the four kinds of quotes.
* `readNumber` reads a whole or floating-point number, `readTime` a date, a time or both.
-/

namespace ScenarioRunner.Toml

/-- Reads a value from the start of a text. -/
abbrev Reader (α : Type) := List Char → Option (α × List Char)

def isGap (c : Char) : Bool :=
  c == ' ' || c == '\t'

/-- The text from its first character that is neither blank nor tab. -/
def skipGap (s : List Char) : List Char :=
  s.dropWhile isGap

/-- The text behind a break, if it starts with one. -/
def skipBreak? : List Char → Option (List Char)
  | '\n' :: rest => some rest
  | '\r' :: '\n' :: rest => some rest
  | _ => none

/-- Characters that stand for themselves in comments and quotes. -/
def isText (c : Char) : Bool :=
  c == '\t' || (0x20 ≤ c.toNat && c.toNat != 0x7F)

/-! ## Texts -/

/-- The character of an escape of one letter. -/
def escapedChar? (c : Char) : Option Char :=
  match c with
  | 'b' => some (Char.ofNat 8)
  | 't' => some '\t'
  | 'n' => some '\n'
  | 'f' => some (Char.ofNat 12)
  | 'r' => some '\r'
  | '"' => some '"'
  | '\\' => some '\\'
  | _ => none

/-- Reads an escape behind its backslash. -/
def readEscape : Reader Char
  | 'u' :: rest => code 4 rest
  | 'U' :: rest => code 8 rest
  | c :: rest => (escapedChar? c).map fun d => (d, rest)
  | [] => none
where
  /-- Reads the character of a code point. -/
  code (width : Nat) (s : List Char) : Option (Char × List Char) :=
    let digits := s.take width
    if digits.length < width then none
    else
      (Text.number? 16 digits).bind fun n =>
        if n.isValidChar then some (Char.ofNat n, s.drop width) else none

/-- Reads a text on one line up to its quote. -/
def readLine (quote : Char) : Nat → List Char → Reader String
  | 0, _, _ => none
  | fuel + 1, acc, s =>
    match s with
    | [] => none
    | c :: rest =>
      if c == quote then some (String.ofList acc.reverse, rest)
      else if c == '\\' && quote == '"' then
        (readEscape rest).bind fun (d, rest) => readLine quote fuel (d :: acc) rest
      else if isText c then readLine quote fuel (c :: acc) rest
      else none

/-- The text behind a break that an escape hides, with the blanks and breaks around it. -/
def skipHiddenBreak? (s : List Char) : Option (List Char) :=
  (skipBreak? (skipGap s)).map fun rest => go rest.length rest
where
  /-- Moves over at most `fuel` blanks and breaks. -/
  go : Nat → List Char → List Char
    | 0, s => s
    | fuel + 1, s =>
      match skipBreak? s, s with
      | some rest, _ => go fuel rest
      | none, c :: rest => if isGap c then go fuel rest else s
      | none, [] => s

/-- Reads a text over several lines up to its three quotes; one or two more quotes in front of them
belong to the text. -/
def readLines (quote : Char) : Nat → List Char → Reader String
  | 0, _, _ => none
  | fuel + 1, acc, s =>
    match s with
    | [] => none
    | c :: rest =>
      if c == quote then
        let run := (s.takeWhile (· == quote)).length
        if run < 3 then readLines quote fuel (c :: acc) rest
        else
          let extra := min (run - 3) 2
          let text := (List.replicate extra quote ++ acc).reverse
          some (String.ofList text, s.drop (3 + extra))
      else if c == '\\' && quote == '"' then
        match skipHiddenBreak? rest with
        | some rest => readLines quote fuel acc rest
        | none => (readEscape rest).bind fun (d, rest) => readLines quote fuel (d :: acc) rest
      else
        match skipBreak? s with
        | some rest => readLines quote fuel ('\n' :: acc) rest
        | none => if isText c then readLines quote fuel (c :: acc) rest else none

/-- Reads a text from its first quote on. -/
def readString : Reader String
  | a :: b :: c :: rest =>
    if a == b && b == c then
      let rest := (skipBreak? rest).getD rest
      readLines a (rest.length + 1) [] rest
    else readLine a (rest.length + 3) [] (b :: c :: rest)
  | a :: rest => readLine a (rest.length + 1) [] rest
  | [] => none

/-! ## Numbers -/

/-- Digits with single underscores between them. -/
def grouped (isDigit : Char → Bool) : List Char → Bool
  | [] => false
  | [c] => isDigit c
  | c :: '_' :: rest => isDigit c && grouped isDigit rest
  | c :: rest => isDigit c && grouped isDigit rest

/-- Reads one or more digits of a kind, with single underscores between them. -/
def readDigits (isDigit : Char → Bool) : Reader (List Char) := fun s =>
  let run := s.takeWhile fun c => isDigit c || c == '_'
  if grouped isDigit run then some (run.filter (· != '_'), s.drop run.length) else none

/-- A whole number of 64 bits with a sign. -/
def word? (n : Int) : Option Toml :=
  if -(Nat.pow 2 63) ≤ n ∧ n < Nat.pow 2 63 then some (.int n) else none

/-- Reads a number in a base behind its prefix. -/
def readBased (base : Nat) : Reader Toml := fun s =>
  (readDigits (fun c => (Text.digitValue? base c).isSome) s).bind fun (ds, rest) =>
    ((Text.number? base ds).bind fun n => word? n).map fun v => (v, rest)

/-- Reads an exponent, if one stands here, as the characters of a decimal. -/
def readExponent : Reader (List Char)
  | e :: rest =>
    if e == 'e' || e == 'E' then
      let (sign, rest) :=
        match rest with
        | '+' :: r => (['+'], r)
        | '-' :: r => (['-'], r)
        | r => ([], r)
      (readDigits Char.isDigit rest).map fun (ds, rest) => ('e' :: sign ++ ds, rest)
    else some ([], e :: rest)
  | [] => some ([], [])

/-- Reads a fraction, if one stands here, as the characters of a decimal. -/
def readFraction : Reader (List Char)
  | '.' :: rest => (readDigits Char.isDigit rest).map fun (ds, rest) => ('.' :: ds, rest)
  | rest => some ([], rest)

/-- A floating-point number, unless it is too large. -/
def float? (s : List Char) : Option Toml :=
  (Decimal.parse? s).bind fun x =>
    if x == .infinity false then none else some (.float x)

/-- Reads a decimal number behind its sign.  A zero is not followed by another digit. -/
def readDecimal (negative : Bool) : Reader Toml := fun s => do
  let (whole, rest) ← readDigits Char.isDigit s
  if 1 < whole.length ∧ whole.head? = some '0' then none
  else
    let (fraction, rest) ← readFraction rest
    let (exponent, rest) ← readExponent rest
    if fraction.isEmpty && exponent.isEmpty then
      let n := Decimal.ofDigits whole
      let v ← word? (if negative then -(n : Int) else n)
      some (v, rest)
    else
      let v ← float? ((if negative then ['-'] else []) ++ whole ++ fraction ++ exponent)
      some (v, rest)

/-- Reads a name of a special number behind its sign. -/
def readSpecial (negative : Bool) : Reader Toml
  | 'i' :: 'n' :: 'f' :: rest => some (.float (.infinity negative), rest)
  | 'n' :: 'a' :: 'n' :: rest => some (.float ⟨0x7FF8000000000000⟩, rest)
  | _ => none

def readNumber : Reader Toml
  | '+' :: s => (readSpecial false s).or (readDecimal false s)
  | '-' :: s => (readSpecial true s).or (readDecimal true s)
  | '0' :: 'x' :: s => readBased 16 s
  | '0' :: 'o' :: s => readBased 8 s
  | '0' :: 'b' :: s => readBased 2 s
  | s => (readSpecial false s).or (readDecimal false s)

/-! ## Dates and times -/

/-- Reads exactly `width` digits that make a number in a range. -/
def readField (width low high : Nat) : Reader Nat := fun s =>
  let ds := s.take width
  let n := Decimal.ofDigits ds
  if ds.length = width ∧ ds.all Char.isDigit ∧ low ≤ n ∧ n ≤ high then some (n, s.drop width)
  else none

def readMark (c : Char) : List Char → Option (List Char)
  | d :: rest => if c = d then some rest else none
  | [] => none

def skipDate? (s : List Char) : Option (List Char) := do
  let (year, s) ← readField 4 0 9999 s
  let s ← readMark '-' s
  let (month, s) ← readField 2 1 12 s
  let s ← readMark '-' s
  let (_, s) ← readField 2 1 (daysInMonth year month) s
  some s

def skipClock? (s : List Char) : Option (List Char) := do
  let (_, s) ← readField 2 0 23 s
  let s ← readMark ':' s
  let (_, s) ← readField 2 0 59 s
  let s ← readMark ':' s
  let (_, s) ← readField 2 0 60 s
  match s with
  | '.' :: c :: rest => if c.isDigit then some (rest.dropWhile Char.isDigit) else none
  | '.' :: [] => none
  | s => some s

/-- The text behind the offset of a time zone, if one stands here. -/
def skipOffset? (s : List Char) : Option (List Char) :=
  match s with
  | c :: rest =>
    if c == 'Z' || c == 'z' then some rest
    else if c == '+' || c == '-' then do
      let (_, rest) ← readField 2 0 23 rest
      let rest ← readMark ':' rest
      let (_, rest) ← readField 2 0 59 rest
      some rest
    else some s
  | [] => some s

def startsDate (s : List Char) : Bool :=
  (s.take 4).length == 4 && (s.take 4).all Char.isDigit && (s.drop 4).head? == some '-'

def startsClock (s : List Char) : Bool :=
  (s.take 2).length == 2 && (s.take 2).all Char.isDigit && (s.drop 2).head? == some ':'

/-- A sign that may stand between a date and a time of day. -/
def isTimeMark (c : Char) : Bool :=
  c == 'T' || c == 't' || c == ' '

/-- The text behind a date, a time of day, or both. -/
def skipTime? (s : List Char) : Option (List Char) :=
  if startsDate s then do
    let rest ← skipDate? s
    match rest with
    | c :: more =>
      if isTimeMark c && (readField 2 0 23 more).isSome && startsClock more then
        (skipClock? more).bind skipOffset?
      else some rest
    | [] => some []
  else skipClock? s

/-- Reads a date, a time of day, or both. -/
def readTime : Reader Toml := fun s =>
  (skipTime? s).map fun rest => (.time (String.ofList (s.take (s.length - rest.length))), rest)

end ScenarioRunner.Toml

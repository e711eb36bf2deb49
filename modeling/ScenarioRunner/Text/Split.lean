/-!
# Cutting texts

* `splitOn` cuts at every occurrence of a separator, `splitOnce` at the first one only.
* `segments` gives the parts between separators of a string, and `lastSegment` the last of them.
* `lines` gives the lines of a text: a line ends at a newline, together with a carriage return
  right before it, and a newline at the end of the text opens no further line.
-/

namespace ScenarioRunner.Text

/-- The parts of a text between its separators.  There is always at least one part. -/
def splitOn (sep : Char) : List Char → List (List Char)
  | [] => [[]]
  | c :: rest =>
    if c = sep then [] :: splitOn sep rest
    else
      match splitOn sep rest with
      | [] => [[c]]
      | part :: parts => (c :: part) :: parts

/-- The text before and the text after the first separator. -/
def splitOnce (sep : Char) : List Char → Option (List Char × List Char)
  | [] => none
  | c :: rest =>
    if c = sep then some ([], rest)
    else (splitOnce sep rest).map fun (before, after) => (c :: before, after)

/-- The parts of a string between its separators. -/
def segments (sep : Char) (s : String) : List String :=
  (splitOn sep s.toList).map String.ofList

/-- The part after the last separator, or the whole string if it holds none. -/
def lastSegment (sep : Char) (s : String) : String :=
  (segments sep s).getLastD s

/-- Drops a carriage return at the end of a line. -/
def dropReturn (line : List Char) : List Char :=
  match line.reverse with
  | '\r' :: before => before.reverse
  | _ => line

def lines (s : List Char) : List (List Char) :=
  match (splitOn '\n' s).reverse with
  | [] => []
  | last :: before =>
    let complete := before.reverse.map dropReturn
    if last.isEmpty then complete else complete ++ [last]

def linesOf (s : String) : List String :=
  (lines s.toList).map String.ofList

/-- The text `unit` written `count` times. -/
def repeated (count : Nat) (unit : String) : String :=
  String.join (List.replicate count unit)

/-- The parts with `sep` between neighbours. -/
def joined (sep : String) (parts : List String) : String :=
  sep.intercalate parts

/-- Whether the characters `part` stand at the start of the text, and what follows them. -/
def dropStart? (part s : List Char) : Option (List Char) :=
  match part, s with
  | [], rest => some rest
  | _ :: _, [] => none
  | p :: part, c :: rest => if p = c then dropStart? part rest else none

/-- The text with `mark` written over every occurrence of `part`, from left to right. -/
def replaced (part mark s : List Char) : List Char :=
  go s.length s
where
  /-- Works through at most `fuel` characters. -/
  go : Nat → List Char → List Char
    | 0, s => s
    | fuel + 1, s =>
      match dropStart? part s, s with
      | some rest, c :: tail =>
        if part.isEmpty then c :: go fuel tail else mark ++ go fuel rest
      | some _, [] => []
      | none, [] => []
      | none, c :: tail => c :: go fuel tail

end ScenarioRunner.Text

import ScenarioRunner.Json.Basic
import ScenarioRunner.Text.Split

/-!
# Writing JSON

* `Json.compact` writes a value without any blank.
* `Json.pretty` writes one item per line, indented by two blanks per level.

In both, a text is quoted by `quoted`: the quote, the backslash and control characters below the
blank are escaped, and every other character stands for itself.
-/

namespace ScenarioRunner.Json

/-- The hexadecimal digit of a number below sixteen, in lower case. -/
def hexDigit (n : Nat) : Char :=
  Nat.digitChar n

/-- A character inside a quoted text. -/
def escaped (c : Char) : List Char :=
  if c = '"' then ['\\', '"']
  else if c = '\\' then ['\\', '\\']
  else if c = '\n' then ['\\', 'n']
  else if c = '\r' then ['\\', 'r']
  else if c = '\t' then ['\\', 't']
  else if c.toNat = 8 then ['\\', 'b']
  else if c.toNat = 12 then ['\\', 'f']
  else if c.toNat < 32 then
    ['\\', 'u', '0', '0', hexDigit (c.toNat / 16), hexDigit (c.toNat % 16)]
  else [c]

def quoted (s : String) : String :=
  String.ofList ('"' :: s.toList.flatMap escaped ++ ['"'])

/-- The text of a value that has no parts. -/
def atom : Json → String
  | .null => "null"
  | .bool true => "true"
  | .bool false => "false"
  | .int n => toString n
  | .float x => if x.isFinite then Decimal.render .document x else "null"
  | .str s => quoted s
  | .arr _ => "[]"
  | .obj _ => "\x7b\x7d"

mutual

/-- The text of a value without blanks. -/
def compact : Json → String
  | .arr items => "[" ++ Text.joined "," (compactItems items) ++ "]"
  | .obj members => "\x7b" ++ Text.joined "," (compactMembers members) ++ "\x7d"
  | .null => atom .null
  | .bool b => atom (.bool b)
  | .int n => atom (.int n)
  | .float x => atom (.float x)
  | .str s => atom (.str s)

def compactItems : List Json → List String
  | [] => []
  | item :: items => compact item :: compactItems items

/-- The texts of the members of an object. -/
def compactMembers : List (String × Json) → List String
  | [] => []
  | (key, value) :: members => (quoted key ++ ":" ++ compact value) :: compactMembers members

end

/-- The parts of an array or object on lines of their own. -/
def block (opening closing : String) (depth : Nat) (parts : List String) : String :=
  let inner := "\n" ++ Text.repeated (depth + 1) "  "
  opening ++ inner ++ Text.joined ("," ++ inner) parts ++ "\n" ++ Text.repeated depth "  " ++
    closing

mutual

/-- The text of a value with one item per line, at a depth of indentation. -/
def prettyAt (depth : Nat) : Json → String
  | .arr [] => atom (.arr [])
  | .obj [] => atom (.obj [])
  | .arr (item :: items) =>
    block "[" "]" depth (prettyAt (depth + 1) item :: prettyItems (depth + 1) items)
  | .obj ((key, value) :: members) =>
    block "\x7b" "\x7d" depth
      ((quoted key ++ ": " ++ prettyAt (depth + 1) value) :: prettyMembers (depth + 1) members)
  | .null => atom .null
  | .bool b => atom (.bool b)
  | .int n => atom (.int n)
  | .float x => atom (.float x)
  | .str s => atom (.str s)

def prettyItems (depth : Nat) : List Json → List String
  | [] => []
  | item :: items => prettyAt depth item :: prettyItems depth items

/-- The texts of the members of an object. -/
def prettyMembers (depth : Nat) : List (String × Json) → List String
  | [] => []
  | (key, value) :: members =>
    (quoted key ++ ": " ++ prettyAt depth value) :: prettyMembers depth members

end

/-- The text of a value with one item per line. -/
def pretty (j : Json) : String :=
  prettyAt 0 j

end ScenarioRunner.Json

import ScenarioRunner.Text.Printable
import ScenarioRunner.Text.Split

/-!
# Quoted texts in messages

`quoted` writes a text between double quotes so that every character of it can be seen: quotes and
backslashes are escaped, some controls have a letter, and any other character that does not print
by itself is written by its code point.
-/

namespace ScenarioRunner.Text

/-- A character by its code point, in hexadecimal digits between braces. -/
def codePoint (c : Char) : List Char :=
  '\\' :: 'u' :: '\x7b' :: Nat.toDigits 16 c.toNat ++ ['\x7d']

/-- A character inside a quoted text. -/
def visible (c : Char) : List Char :=
  if c = '"' then ['\\', '"']
  else if c = '\\' then ['\\', '\\']
  else if c = '\n' then ['\\', 'n']
  else if c = '\r' then ['\\', 'r']
  else if c = '\t' then ['\\', 't']
  else if c.toNat = 0 then ['\\', '0']
  else if isConcealed c then codePoint c
  else [c]

def quoted (s : String) : String :=
  String.ofList ('"' :: s.toList.flatMap visible ++ ['"'])

end ScenarioRunner.Text

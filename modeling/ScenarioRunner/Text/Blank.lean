/-!
# Blank characters

The characters that count as blank, and texts without blanks at their ends.

* `isBlank` holds of the characters with the Unicode property White_Space.
* `trimStart`, `trimEnd` and `trim` cut blanks off a list of characters, `trimmed` off a string.
* `lowered` and `raised` fold the case of ASCII letters and keep all else.
-/

namespace ScenarioRunner.Text

/-- The Unicode property White_Space. -/
def isBlank (c : Char) : Bool :=
  let n := c.toNat
  (9 ≤ n && n ≤ 13) || n == 32 || n == 0x85 || n == 0xA0 || n == 0x1680 ||
    (0x2000 ≤ n && n ≤ 0x200A) || n == 0x2028 || n == 0x2029 || n == 0x202F ||
    n == 0x205F || n == 0x3000

/-- The text from its first character that is not blank. -/
def trimStart (s : List Char) : List Char :=
  s.dropWhile isBlank

/-- The text up to its last character that is not blank. -/
def trimEnd (s : List Char) : List Char :=
  (trimStart s.reverse).reverse

/-- The text without blanks at either end. -/
def trim (s : List Char) : List Char :=
  trimEnd (trimStart s)

/-- `trim` on strings. -/
def trimmed (s : String) : String :=
  String.ofList (trim s.toList)

/-- The text with ASCII letters in lower case. -/
def lowered (s : String) : String :=
  String.ofList (s.toList.map Char.toLower)

/-- The text with ASCII letters in upper case. -/
def raised (s : String) : String :=
  String.ofList (s.toList.map Char.toUpper)

end ScenarioRunner.Text

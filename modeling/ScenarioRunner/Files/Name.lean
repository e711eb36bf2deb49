import ScenarioRunner.Text.Blank

/-!
# File names

Names of scenarios and environments as names of files.

* `FileName.sanitize` drops the characters that no file name may hold.
* `FileName.component` gives the name of one directory level: never empty, and never a name that
  leads elsewhere.
-/

namespace ScenarioRunner.FileName

/-- Control characters: U+0000 to U+001F and U+007F to U+009F. -/
def isControl (c : Char) : Bool :=
  c.toNat < 32 || (127 ≤ c.toNat && c.toNat < 160)

/-- Characters with a meaning of their own in the paths of some system. -/
def isReserved (c : Char) : Bool :=
  ['\\', '/', ':', '*', '?', '"', '<', '>', '|'].contains c

/-- The characters that a file name may hold. -/
def allowed (c : Char) : Bool :=
  !isControl c && !isReserved c

/-- The name without the characters that no file name may hold. -/
def sanitize (name : String) : String :=
  String.ofList (name.toList.filter allowed)

/-- The name of a directory level: `_` stands for names with nothing but dots between blanks. -/
def component (name : String) : String :=
  let clean := sanitize name
  if (Text.trim clean.toList).all (· == '.') then "_" else clean

end ScenarioRunner.FileName

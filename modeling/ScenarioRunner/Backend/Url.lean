import ScenarioRunner.Backend.Host
import ScenarioRunner.Decimal.Reading
import ScenarioRunner.Text.Blank
import ScenarioRunner.Text.Split
import ScenarioRunner.Text.Utf8

/-!
# Addresses

The addresses that requests are sent to.

* `Url` is an address in its parts, `Url.read` reads one and `Url.text` writes it.
* `Url.target` is the part that a request names.

Reading brings an address into its common form: the scheme and the host are in lower case, the
number behind the host is left out if it is the usual one, names `.` and `..` in the path are
followed, and characters that an address cannot hold are written as bytes in hexadecimal.
-/

namespace ScenarioRunner

/-- An address in its parts. -/
structure Url where
  scheme : String
  host : String
  /-- The number behind the host, unless it is the usual one of the scheme. -/
  portNumber : Option Nat
  path : String
  query : Option String
  fragment : Option String
deriving DecidableEq, Repr

/-- Why a text is no address for a request. -/
inductive UrlError where
  /-- The text is no address at all. -/
  | malformed
  /-- The address in its common form cannot be asked. -/
  | unsuitable (address : String)
deriving DecidableEq, Repr

namespace Url

/-- The usual numbers behind hosts, by scheme. -/
def defaultPorts : List (String × Nat) :=
  [("http", 80), ("https", 443), ("ws", 80), ("wss", 443), ("ftp", 21)]

/-- The scheme names servers in the usual way. -/
def isSpecial (scheme : String) : Bool :=
  (defaultPorts.lookup scheme).isSome

def target (u : Url) : String :=
  u.path ++ (u.query.map fun q => "?" ++ q).getD ""

def text (u : Url) : String :=
  u.scheme ++ "://" ++ u.host ++ (u.portNumber.map fun n => ":" ++ toString n).getD "" ++ u.target ++
    (u.fragment.map fun f => "#" ++ f).getD ""

/-! ## Characters -/

/-- Characters of a scheme behind its first one. -/
def isSchemeChar (c : Char) : Bool :=
  c.isAlphanum || c == '+' || c == '-' || c == '.'

/-- Control characters and the blank. -/
def isEdge (c : Char) : Bool :=
  c.toNat ≤ 32

/-- Characters that are skipped wherever they stand. -/
def isSkipped (c : Char) : Bool :=
  c == '\t' || c == '\n' || c == '\r'

/-- Characters that are written in hexadecimal in every part. -/
def isCoded (c : Char) : Bool :=
  c.toNat < 32 || 127 ≤ c.toNat

/-- Characters that are written in hexadecimal in a path. -/
def isCodedInPath (c : Char) : Bool :=
  isCoded c || [' ', '"', '#', '<', '>', '?', '\x60', '\x7b', '\x7d', '^'].contains c

/-- Characters that are written in hexadecimal in a query. -/
def isCodedInQuery (c : Char) : Bool :=
  isCoded c || [' ', '"', '#', '<', '>', '\''].contains c

/-- Characters that are written in hexadecimal in a fragment. -/
def isCodedInFragment (c : Char) : Bool :=
  isCoded c || [' ', '"', '<', '>', '\x60'].contains c

/-- A byte in hexadecimal, in upper case behind a per cent sign. -/
def codedByte (b : UInt8) : List Char :=
  ['%', (Nat.digitChar (b.toNat / 16)).toUpper, (Nat.digitChar (b.toNat % 16)).toUpper]

/-- A text in which some characters are written in hexadecimal. -/
def coded (which : Char → Bool) (s : List Char) : List Char :=
  s.flatMap fun c =>
    if which c then (Text.Utf8.encode (String.singleton c)).flatMap codedByte else [c]

/-! ## Parts -/

/-- The text up to the first character of some kind, and the rest from there on. -/
def cutAt (stop : Char → Bool) (s : List Char) : List Char × List Char :=
  (s.takeWhile fun c => !stop c, s.dropWhile fun c => !stop c)

/-- Reads a scheme with the colon behind it. -/
def readScheme (s : List Char) : Option (String × List Char) :=
  match s with
  | [] => none
  | c :: _ =>
    let (scheme, rest) := cutAt (fun c => !isSchemeChar c) s
    match rest with
    | ':' :: rest =>
      if c.isAlpha then some (String.ofList (scheme.map Char.toLower), rest) else none
    | _ => none

/-- The characters that end the names of a path. -/
def isSlash (c : Char) : Bool :=
  c == '/' || c == '\\'

/-- The characters that end the server of an address. -/
def endsServer (c : Char) : Bool :=
  isSlash c || c == '?' || c == '#'

/-- Reads the number behind a host, which may be left out and has at most sixteen bits. -/
def readPortNumber (s : List Char) : Option (Option Nat) :=
  if s.isEmpty then some none
  else if s.all Char.isDigit then
    let n := Decimal.ofDigits s
    if n < Nat.pow 2 16 then some (some n) else none
  else none

/-- A host with the number behind it, without the user in front if one is named: users are no part
of an address. -/
def withoutUser (s : List Char) : List Char :=
  match Text.splitOnce '@' s.reverse with
  | some (host, _) => host.reverse
  | none => s

/-- A server cut into its host and the number behind; colons between brackets belong to the host. -/
def cutServer (s : List Char) : List Char × List Char :=
  match s with
  | '[' :: _ =>
    match cutAt (· == ']') s with
    | (host, ']' :: ':' :: number) => (host ++ [']'], number)
    | _ => (s, [])
  | s =>
    let (host, rest) := cutAt (· == ':') s
    (host, rest.drop 1)

/-- The names of a path, with names `.` and `..` followed. -/
def followNames (done : List (List Char)) : List (List Char) → List (List Char)
  | [] => done.reverse
  | name :: rest =>
    let shown := Text.lowered (String.ofList name)
    let shown := String.ofList (Text.replaced ['%', '2', 'e'] ['.'] shown.toList)
    if shown = "." then followNames (if rest.isEmpty then [] :: done else done) rest
    else if shown = ".." then
      followNames (if rest.isEmpty then [] :: done.drop 1 else done.drop 1) rest
    else followNames (coded isCodedInPath name :: done) rest

/-- Reads a path, which starts with a slash or is empty. -/
def readPath (s : List Char) : String :=
  let names := Text.splitOn '/' (s.map fun c => if isSlash c then '/' else c)
  "/" ++ Text.joined "/" ((followNames [] (names.drop 1)).map String.ofList)

/-- The parts of what follows a server: path, query and fragment. -/
def readTail (s : List Char) : String × Option String × Option String :=
  let (before, fragment) := cutAt (· == '#') s
  let (path, query) := cutAt (· == '?') before
  let part (which : Char → Bool) (s : List Char) : Option String :=
    match s with
    | [] => none
    | _ :: rest => some (String.ofList (coded which rest))
  (readPath path, part isCodedInQuery query, part isCodedInFragment fragment)

/-- Reads an address whose scheme names servers. -/
def readServer (scheme : String) (s : List Char) : Option Url :=
  let (server, tail) := cutAt endsServer (s.dropWhile isSlash)
  let (host, number) := cutServer (withoutUser server)
  match Host.read host, readPortNumber number with
  | some host, some number =>
    let (path, query, fragment) := readTail tail
    let usual := defaultPorts.lookup scheme
    some
      { scheme, host, path, query, fragment
        portNumber := number.filter fun n => some n != usual }
  | _, _ => none

def read (s : String) : Except UrlError Url :=
  let cs := ((s.toList.dropWhile isEdge).reverse.dropWhile isEdge).reverse
  let cs := cs.filter fun c => !isSkipped c
  match readScheme cs with
  | none => .error .malformed
  | some (scheme, rest) =>
    if !isSpecial scheme then
      .error (.unsuitable (String.ofList (scheme.toList ++ ':' :: coded isCoded rest)))
    else
      match readServer scheme rest with
      | none => .error .malformed
      | some u => if scheme = "http" ∨ scheme = "https" then .ok u else .error (.unsuitable u.text)

end Url

end ScenarioRunner

/-!
# UTF-8

Bytes as text.  The decoder works byte by byte: a state says what the next byte may be, and a byte
that does not fit ends the sequence before it and is read afresh.

* `Pending` is the state, `step` reads one byte and `run` a list of bytes.
* `decode?` accepts well-formed text only.
* `decodeLossy` writes one replacement character for every maximal ill-formed part.
* `encode` gives the bytes of a text.
-/

namespace ScenarioRunner.Text.Utf8

/-- What is known of a character whose bytes are not complete. -/
inductive Pending where
  /-- The next byte starts a character. -/
  | idle
  /-- The next byte lies in `low .. high`; `left` bytes are missing, and `code` holds the bits
  read so far. -/
  | inside (low high left code : Nat)
deriving DecidableEq, Repr

/-- Reads a byte that starts a character.  `none` stands for an ill-formed part. -/
def lead (b : UInt8) : Pending × List (Option Char) :=
  let n := b.toNat
  if n < 0x80 then (.idle, [some (Char.ofNat n)])
  else if n < 0xC2 then (.idle, [none])
  else if n < 0xE0 then (.inside 0x80 0xBF 1 (n - 0xC0), [])
  else if n = 0xE0 then (.inside 0xA0 0xBF 2 0, [])
  else if n = 0xED then (.inside 0x80 0x9F 2 0xD, [])
  else if n < 0xF0 then (.inside 0x80 0xBF 2 (n - 0xE0), [])
  else if n = 0xF0 then (.inside 0x90 0xBF 3 0, [])
  else if n < 0xF4 then (.inside 0x80 0xBF 3 (n - 0xF0), [])
  else if n = 0xF4 then (.inside 0x80 0x8F 3 4, [])
  else (.idle, [none])

/-- Reads one byte: the new state, and the characters that it completes. -/
def step (p : Pending) (b : UInt8) : Pending × List (Option Char) :=
  match p with
  | .idle => lead b
  | .inside low high left code =>
    let n := b.toNat
    if low ≤ n ∧ n ≤ high then
      let code := code * 64 + (n - 0x80)
      if left ≤ 1 then (.idle, [some (Char.ofNat code)])
      else (.inside 0x80 0xBF (left - 1) code, [])
    else
      let (q, cs) := lead b
      (q, none :: cs)

/-- What is left to write when the bytes end. -/
def flush : Pending → List (Option Char)
  | .idle => []
  | .inside .. => [none]

/-- Reads bytes from a state to their end. -/
def run (p : Pending) : List UInt8 → List (Option Char)
  | [] => flush p
  | b :: bytes => (step p b).2 ++ run (step p b).1 bytes

/-- The character that stands for an ill-formed part. -/
def replacement : Char := '\uFFFD'

def decode? (bytes : List UInt8) : Option (List Char) :=
  (run .idle bytes).mapM id

/-- The text of any bytes, with ill-formed parts replaced. -/
def decodeLossy (bytes : List UInt8) : List Char :=
  (run .idle bytes).map fun c => c.getD replacement

def encode (s : String) : List UInt8 :=
  s.toUTF8.toList

end ScenarioRunner.Text.Utf8

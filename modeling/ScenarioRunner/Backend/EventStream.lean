import ScenarioRunner.Text.Split
import ScenarioRunner.Text.Utf8

/-!
# Event streams

Events as lines of text: each line is a field with its value, and an empty line ends an event.

* `ServerEvent` is an event, and `ServerEvent.ofBlock?` reads one from the bytes between empty lines.
* `EventDecoder` takes bytes in chunks of any size.  `EventDecoder.push` gives the events that a
  chunk completes, and `EventDecoder.finish` the event that is left at the end.

Carriage returns are dropped wherever they stand, so that only newlines end lines.
-/

namespace ScenarioRunner

/-- An event of a stream. -/
structure ServerEvent where
  /-- The type of the event. -/
  name : Option String
  id : Option String
  data : String
deriving DecidableEq, Repr, Inhabited

namespace ServerEvent

/-- The fields of an event read so far. -/
structure Draft where
  name : Option String := none
  id : Option String := none
  data : List String := []
deriving DecidableEq, Repr

/-- A line as a field with its value: the field ends at the first colon, behind which one blank does
not count. -/
def splitField (line : List Char) : String × String :=
  match Text.splitOnce ':' line with
  | none => (String.ofList line, "")
  | some (field, ' ' :: value) => (String.ofList field, String.ofList value)
  | some (field, value) => (String.ofList field, String.ofList value)

/-- Takes the value of a field.  Fields with other names do not matter. -/
def Draft.store (d : Draft) (field value : String) : Draft :=
  match field with
  | "data" => { d with data := d.data ++ [value] }
  | "event" => { d with name := some value }
  | "id" => { d with id := some value }
  | _ => d

/-- Reads one line.  Empty lines and lines that start with a colon do not matter. -/
def Draft.line (d : Draft) (line : List Char) : Draft :=
  match line with
  | [] => d
  | ':' :: _ => d
  | line => d.store (splitField line).1 (splitField line).2

/-- The event of some fields, if there is data: the lines of data are joined by newlines. -/
def Draft.event? (d : Draft) : Option ServerEvent :=
  if d.data.isEmpty then none else some ⟨d.name, d.id, Text.joined "\n" d.data⟩

def ofLines? (lines : List (List Char)) : Option ServerEvent :=
  (lines.foldl Draft.line {}).event?

def ofBlock? (block : List UInt8) : Option ServerEvent :=
  ofLines? (Text.lines (Text.Utf8.decodeLossy block))

end ServerEvent

namespace EventStream

def carriageReturn : UInt8 := 13

/-- The bytes without carriage returns. -/
def clean (bytes : List UInt8) : List UInt8 :=
  bytes.filter (· != carriageReturn)

/-- Cuts bytes at every pair of newlines: the blocks in front of them, and what is left.  The bytes
`current`, in reverse, come first. -/
def blocksFrom (current : List UInt8) : List UInt8 → List (List UInt8) × List UInt8
  | [] => ([], current.reverse)
  | 10 :: 10 :: rest =>
    let (blocks, left) := blocksFrom [] rest
    (current.reverse :: blocks, left)
  | b :: rest => blocksFrom (b :: current) rest

/-- The blocks in front of pairs of newlines, and what is left. -/
def blocks (bytes : List UInt8) : List (List UInt8) × List UInt8 :=
  blocksFrom [] bytes

end EventStream

/-- A decoder that has bytes of an event that is not complete. -/
structure EventDecoder where
  buffer : List UInt8
deriving DecidableEq, Repr

namespace EventDecoder

def empty : EventDecoder :=
  ⟨[]⟩

/-- Takes a chunk: the events that it completes, and the decoder behind it. -/
def push (d : EventDecoder) (chunk : List UInt8) : List ServerEvent × EventDecoder :=
  let (blocks, left) := EventStream.blocks (d.buffer ++ EventStream.clean chunk)
  (blocks.filterMap ServerEvent.ofBlock?, ⟨left⟩)

/-- Takes chunks one after the other. -/
def pushAll (d : EventDecoder) : List (List UInt8) → List ServerEvent × EventDecoder
  | [] => ([], d)
  | chunk :: chunks =>
    let (events, d) := d.push chunk
    let (more, d) := pushAll d chunks
    (events ++ more, d)

/-- The event that is left when the bytes end; the decoder is empty again. -/
def finish (d : EventDecoder) : Option ServerEvent × EventDecoder :=
  (ServerEvent.ofBlock? d.buffer, empty)

end EventDecoder

end ScenarioRunner

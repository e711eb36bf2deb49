import ScenarioRunner.Text.Split

/-!
# Styled text

Text for a terminal, in colours and weights.

* `Style.wrap` writes a text between the sequence that starts a style and the one that ends all
  styles.
* `Span` is a piece of a line with its style, and `Line` a row of spans.  `Line.text` writes a line
  with or without styles; both say the same.
-/

namespace ScenarioRunner

/-- The colours of texts. -/
inductive Colour where
  | red
  | green
  | yellow
  | blue
  | white
deriving DecidableEq, Repr

/-- The number of a colour in a style sequence. -/
def Colour.code : Colour → Nat
  | red => 31
  | green => 32
  | yellow => 33
  | blue => 34
  | white => 37

/-- The look of a text. -/
structure Style where
  bold : Bool := false
  dimmed : Bool := false
  colour : Option Colour := none
deriving DecidableEq, Repr, Inhabited

namespace Style

def ofColour (c : Colour) : Style :=
  { colour := some c }

def boldIn (c : Colour) : Style :=
  { bold := true, colour := some c }

def strong : Style :=
  { bold := true }

def faint : Style :=
  { dimmed := true }

/-- The numbers of a style: its weight, then its colour. -/
def codes (s : Style) : List Nat :=
  (if s.bold then [1] else []) ++ (if s.dimmed then [2] else []) ++
    (s.colour.map Colour.code).toList

/-- The style sequence with some numbers. -/
def sequence (numbers : List Nat) : String :=
  "\x1b[" ++ Text.joined ";" (numbers.map toString) ++ "m"

/-- The sequence that ends all styles. -/
def reset : String :=
  sequence [0]

/-- The sequence that starts a style. -/
def start (s : Style) : String :=
  sequence s.codes

/-- The text in a style.  Where the text itself ends all styles, the style starts again. -/
def wrap (s : Style) (text : String) : String :=
  let again := Text.replaced reset.toList (reset ++ s.start).toList text.toList
  s.start ++ String.ofList again ++ reset

end Style

/-- A piece of a line. -/
structure Span where
  text : String
  style : Option Style := none
deriving DecidableEq, Repr, Inhabited

namespace Span

/-- A piece without a style of its own. -/
def plain (text : String) : Span :=
  { text }

def styled (style : Style) (text : String) : Span :=
  ⟨text, some style⟩

/-- The blanks in front of a line at a depth. -/
def indent (depth : Nat) : Span :=
  plain (Text.repeated depth "  ")

def render (coloured : Bool) (s : Span) : String :=
  match s.style with
  | some style => if coloured then style.wrap s.text else s.text
  | none => s.text

end Span

/-- A line of text: its pieces from left to right. -/
abbrev Line := List Span

namespace Line

def text (coloured : Bool) (line : Line) : String :=
  String.join (line.map (Span.render coloured))

/-- The text of some lines, each with a newline behind it. -/
def textOfAll (coloured : Bool) (lines : List Line) : String :=
  String.join (lines.map fun line => line.text coloured ++ "\n")

end Line

end ScenarioRunner

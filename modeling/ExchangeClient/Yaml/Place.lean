/-!
# Places in a YAML text

Two editions of the language are read.  They agree on most of what a text means and
differ in what they refuse; one difference is which characters end a line, so a text is
first brought to one spelling of its breaks.

A `Place` is what is left of a text together with where that is: on which line, in which
column, and whether only blanks stand in front of it on its line.
-/

namespace ExchangeClient
namespace Yaml

/-- The editions of the language. -/
inductive Edition where
  /-- YAML 1.1. -/
  | v11
  /-- YAML 1.2. -/
  | v12
  deriving Repr, DecidableEq

/-- A space or a tab. -/
def isBlank (c : Char) : Bool := c == ' ' || c == '\t'

/-- A sign that has a meaning inside brackets. -/
def isFlowSign (c : Char) : Bool := ",[]\x7b\x7d".toList.contains c

/-- A character of a word: a letter, a digit, or one of two signs. -/
def isWordChar (c : Char) : Bool := c.isAlphanum || c == '-' || c == '_'

namespace Edition

/-- A character that ends a line of a text whose breaks are unified. -/
def isBreak (e : Edition) (c : Char) : Bool :=
  c == '\n' || (e == .v11 && (c == '\u2028' || c == '\u2029'))

/-- A blank or a break. -/
def isGap (e : Edition) (c : Char) : Bool := isBlank c || e.isBreak c

/-- A line ends at the head of a text. -/
def atBreak (e : Edition) : List Char → Bool
  | [] => true
  | c :: _ => e.isBreak c

/-- A word ends at the head of a text. -/
def atGap (e : Edition) : List Char → Bool
  | [] => true
  | c :: _ => e.isGap c

/-- A text whose breaks are unified.  The older edition has one kind more. -/
def unifyBreaks (e : Edition) : List Char → List Char
  | '\r' :: '\n' :: rest => '\n' :: e.unifyBreaks rest
  | '\r' :: rest => '\n' :: e.unifyBreaks rest
  | c :: rest => (if e = .v11 && c = '\u0085' then '\n' else c) :: e.unifyBreaks rest
  | [] => []

end Edition

/-- What breaks between two words read as: a single one as a space, and each further one
as itself.  Breaks that part paragraphs always stand. -/
def joinBreaks : List Char → List Char
  | [] => []
  | ['\n'] => [' ']
  | '\n' :: more => more
  | breaks => breaks

/-- A place in a text. -/
structure Place where
  rest : List Char
  index : Nat
  line : Nat
  column : Nat
  /-- Only blanks stand in front on the same line. -/
  fresh : Bool

namespace Place

/-- The start of a text. -/
def start (cs : List Char) : Place := ⟨cs, 0, 0, 0, true⟩

/-- The character that stands here. -/
def head? (p : Place) : Option Char := p.rest.head?

/-- The place behind some characters of the line. -/
def skip (n : Nat) (p : Place) : Place :=
  ⟨p.rest.drop n, p.index + n, p.line, p.column + n, p.fresh && n == 0⟩

/-- The place behind a blank. -/
def skipBlank (p : Place) : Place := { p.skip 1 with fresh := p.fresh }

/-- The place behind a break. -/
def newLine (p : Place) : Place := ⟨p.rest.drop 1, p.index + 1, p.line + 1, 0, true⟩

/-- The characters of the line that satisfy `keep`, and the place behind them. -/
def span (keep : Char → Bool) (p : Place) : List Char × Place :=
  let word := p.rest.takeWhile keep
  (word, p.skip word.length)

/-- The place behind the blanks of the line. -/
def skipBlanks (p : Place) : Place := { (p.span isBlank).2 with fresh := p.fresh }

/-- The end of the line. -/
def lineEnd (e : Edition) (p : Place) : Place := (p.span fun c => !e.isBreak c).2

/-- The place behind the break that may stand here. -/
def skipBreak (e : Edition) (p : Place) : Place :=
  if p.rest.head?.any e.isBreak then p.newLine else p

/-- Three times the same sign stands here at the start of a line: the mark of the start or
the end of a document. -/
def atMark (e : Edition) (sign : Char) (p : Place) : Bool :=
  p.column == 0 && p.rest.take 3 == [sign, sign, sign] && e.atGap (p.rest.drop 3)

/-- The mark of the start or of the end of a document stands here. -/
def atMarker (e : Edition) (p : Place) : Bool := p.atMark e '-' || p.atMark e '.'

/-- Passing over characters passes over as many of the text. -/
@[simp] theorem rest_skip (n : Nat) (p : Place) : (p.skip n).rest = p.rest.drop n := rfl

@[simp] theorem rest_newLine (p : Place) : p.newLine.rest = p.rest.drop 1 := rfl

/-- A word and what stands behind it are the text. -/
theorem span_append (keep : Char → Bool) (p : Place) :
    (p.span keep).1 ++ (p.span keep).2.rest = p.rest := by
  simp only [span, rest_skip]
  generalize p.rest = cs
  induction cs with
  | nil => rfl
  | cons c cs ih =>
    by_cases h : keep c
    · simpa [List.takeWhile, h] using ih
    · simp [List.takeWhile, h]

end Place
end Yaml
end ExchangeClient

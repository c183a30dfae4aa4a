import ExchangeClient.Text.CombiningClass
import ExchangeClient.Text.Composite

/-!
# The canonical form

Two texts that differ only in how letters and marks are put together have one
canonical form.  It is found in three steps: every composite is taken apart, the
marks behind each letter are put in the order of their classes, and letters and
marks are put together again where the table has a composite for them.
-/

namespace ExchangeClient
namespace Text

/-- A character taken apart.  `depth` bounds how often a part is composite again. -/
def decompose : (depth : Nat) → Char → List Char
  | 0, c => [c]
  | depth + 1, c =>
    match parts? c with
    | some (a, b) => decompose depth a ++ [b]
    | none => [c]

/-- How deep composites go: a letter with three marks, or a Hangul syllable. -/
def compositeDepth : Nat := 4

/-- Puts a mark of class `k` behind the marks of no greater class.  The text before
it stands reversed. -/
def insertMark (k : Nat) (c : Char) : List Char → List Char
  | [] => [c]
  | d :: before => if k < combiningClass d then d :: insertMark k c before else c :: d :: before

/-- Puts the marks behind each letter in the order of their classes. -/
def orderMarks (cs : List Char) : List Char :=
  (cs.foldl (fun before c =>
    let k := combiningClass c
    if k = 0 then c :: before else insertMark k c before) []).reverse

/-- A text on its way to being composed. -/
structure Composing where
  /-- What is finished, reversed. -/
  finished : List Char
  /-- The letter that marks may still join. -/
  letter : Option Char
  /-- The marks behind it that did not, reversed. -/
  marks : List Char
  /-- The class of the last of them. -/
  lastClass : Nat

namespace Composing

/-- What is finished once no more marks come, reversed. -/
def close (s : Composing) : List Char :=
  s.marks ++ s.letter.toList ++ s.finished

/-- Takes the next character: it joins the letter if no mark of its class or of a
greater one stands between and there is a composite. -/
def add (s : Composing) (c : Char) : Composing :=
  let k := combiningClass c
  let joined := s.letter.bind fun letter =>
    if s.marks.isEmpty || s.lastClass < k then composite? letter c else none
  match joined with
  | some letter => { s with letter := some letter }
  | none =>
    if k = 0 then ⟨s.close, some c, [], 0⟩
    else { s with marks := c :: s.marks, lastClass := k }

end Composing

/-- Puts letters and marks together. -/
def compose (cs : List Char) : List Char :=
  (cs.foldl Composing.add ⟨[], none, [], 0⟩).close.reverse

/-- The canonical form of a text. -/
def canonical (cs : List Char) : List Char :=
  compose (orderMarks (cs.flatMap (decompose compositeDepth)))

end Text
end ExchangeClient

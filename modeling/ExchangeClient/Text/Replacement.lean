import ExchangeClient.Text.CodeRanges

/-!
# Replacements of code points

A table says what stands for a code point: one or more others.  Its text is a list
of rows.  A row is a run, `first-last=target`, whose code points all move by the
same distance (`/2` behind the run takes every second one), or a list,
`first=target,target,…`, for a code point and those that follow it; the code points
of one target are joined by `+`.
-/

namespace ExchangeClient
namespace Text

/-- Code points from `first` to `last`, `step` apart, and what stands for them.  A
target of one code point is that of `first`, and those of the others lie as far
behind it as they themselves lie behind `first`. -/
structure Replacement where
  first : Nat
  last : Nat
  step : Nat
  target : List Nat

namespace Replacement

/-- What stands for a code point, if the run contains it. -/
def targetOf? (r : Replacement) (n : Nat) : Option (List Nat) :=
  if r.first ≤ n && n ≤ r.last && (n - r.first) % r.step == 0 then
    match r.target with
    | [t] => some [t + (n - r.first)]
    | several => some several
  else none

/-- The replacements of a list that starts at `first`. -/
def listFrom (first : Nat) : List (List Char) → List Replacement
  | [] => []
  | target :: others =>
    ⟨first, first, 1, (pieces '+' target).map hexCode⟩ :: listFrom (first + 1) others

/-- The replacements of one row. -/
def ofRow (row : List Char) : List Replacement :=
  match cut '=' row with
  | (_, none) => []
  | (source, some target) =>
    match cut '-' source with
    | (first, none) => listFrom (hexCode first) (pieces ',' target)
    | (first, some last) =>
      let (last, step) := cut '/' last
      [⟨hexCode first, hexCode last, (step.map hexCode).getD 1, [hexCode target]⟩]

/-- Reads a table from its text. -/
def ofText (s : String) : List Replacement := (words s).flatMap ofRow

/-- What a table puts for a character; `none` if it says nothing of it. -/
def find? (table : List Replacement) (c : Char) : Option (List Char) :=
  (table.findSome? fun r => r.targetOf? c.toNat).map fun codes => codes.map Char.ofNat

end Replacement
end Text
end ExchangeClient

import ExchangeClient.Text.Hex
import ExchangeClient.Text.Pieces

/-!
# Sets of code points

Properties of characters that follow no rule shorter than their ranges are kept as
text: ranges in hexadecimal, `first-last`, with blanks between them, and a single
code point by itself.  Text is compact to keep and quick to read once.
-/

namespace ExchangeClient
namespace Text

/-- The parts of a text between blanks and line breaks. -/
def words (s : String) : List (List Char) :=
  (pieces ' ' (s.toList.map fun c => if c = '\n' then ' ' else c)).filter (!·.isEmpty)

/-- The number that hexadecimal digits stand for. -/
def hexCode (digits : List Char) : Nat :=
  digits.foldl (fun n c => 16 * n + (hexValue? c).getD 0) 0

/-- A set of code points as closed ranges. -/
structure CodeRanges where
  ranges : List (Nat × Nat)

namespace CodeRanges

/-- The range that `first-last` or a single code point stands for. -/
def rangeOf (word : List Char) : Nat × Nat :=
  match cut '-' word with
  | (first, some last) => (hexCode first, hexCode last)
  | (only, none) => (hexCode only, hexCode only)

/-- Reads a set from its text. -/
def ofText (s : String) : CodeRanges := ⟨(words s).map rangeOf⟩

/-- Whether a character belongs to the set. -/
def contains (set : CodeRanges) (c : Char) : Bool :=
  set.ranges.any fun (first, last) => first ≤ c.toNat && c.toNat ≤ last

end CodeRanges
end Text
end ExchangeClient

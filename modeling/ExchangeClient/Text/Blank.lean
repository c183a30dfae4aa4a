/-!
# Blank characters

The characters with the Unicode property White_Space (version 17): twenty-five of
them in ten ranges.  Core's `Char.isWhitespace` knows four.  Key files are trimmed
of all of them, so that a secret pasted with a no-break space at its end loads
like one without.
-/

namespace ExchangeClient
namespace Text

/-- A white-space character. -/
def isBlank (c : Char) : Bool :=
  let n := c.toNat
  (0x09 ≤ n && n ≤ 0x0D) || n == 0x20 || n == 0x85 || n == 0xA0 || n == 0x1680
    || (0x2000 ≤ n && n ≤ 0x200A) || n == 0x2028 || n == 0x2029 || n == 0x202F
    || n == 0x205F || n == 0x3000

/-- The text without the blank characters at either end. -/
def trimBlank (cs : List Char) : List Char :=
  ((cs.dropWhile isBlank).reverse.dropWhile isBlank).reverse

/-- A text that starts and ends with visible characters is left alone. -/
theorem trimBlank_eq_self {cs : List Char} (hfirst : ∀ c ∈ cs.head?, isBlank c = false)
    (hlast : ∀ c ∈ cs.getLast?, isBlank c = false) : trimBlank cs = cs := by
  have drop_eq : ∀ {l : List Char}, (∀ c ∈ l.head?, isBlank c = false) →
      l.dropWhile isBlank = l := by
    intro l h
    cases l with
    | nil => rfl
    | cons a t => simp [List.dropWhile, h a (by simp)]
  unfold trimBlank
  rw [drop_eq hfirst, drop_eq (by simpa using hlast), List.reverse_reverse]

end Text
end ExchangeClient

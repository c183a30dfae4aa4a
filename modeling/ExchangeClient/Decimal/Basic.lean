/-!
# Fixed-point decimals

Prices and sizes are decimals with a mantissa of at most ninety-six bits and at
most twenty-eight places.  A decimal remembers how it was written: `1.0` and
`1.00` are different values of the type.  They are the same *number*, and it is
numbers that the order book compares.

## One view

`units` says what number a decimal is, as a whole count of the smallest place,
10⁻²⁸.  Numeric equality and order are defined through it, so every law of theirs
is a law of the integers.
-/

namespace ExchangeClient

/-- A sign, a mantissa and a count of decimal places.  A zero may carry a sign: it
is what is left of a negative number too small for the places there are. -/
structure Decimal where
  negative : Bool
  mantissa : Nat
  scale : Nat
  mantissa_lt : mantissa < 0x1000000000000000000000000
  scale_le : scale ≤ 28
  deriving DecidableEq, Repr

namespace Decimal

/-- The greatest number of decimal places. -/
def maxScale : Nat := 28

/-- One more than the greatest mantissa. -/
def mantissaBound : Nat := 0x1000000000000000000000000

/-- The decimal of the given parts, if they are within bounds. -/
def ofParts? (negative : Bool) (mantissa scale : Nat) : Option Decimal :=
  if h : mantissa < 0x1000000000000000000000000 ∧ scale ≤ 28 then
    some ⟨negative, mantissa, scale, h.1, h.2⟩
  else none

/-- Putting a decimal's own parts together gives the decimal. -/
@[simp] theorem ofParts?_self (d : Decimal) :
    ofParts? d.negative d.mantissa d.scale = some d := by
  unfold ofParts?
  rw [dif_pos ⟨d.mantissa_lt, d.scale_le⟩]

/-- The parts make no decimal exactly when one of them is out of bounds. -/
theorem ofParts?_eq_none_iff {negative : Bool} {mantissa scale : Nat} :
    ofParts? negative mantissa scale = none ↔ mantissaBound ≤ mantissa ∨ maxScale < scale := by
  unfold ofParts? mantissaBound maxScale
  split
  · next h => exact ⟨(nomatch ·), fun _ => by omega⟩
  · next h => exact ⟨fun _ => by omega, fun _ => rfl⟩

/-- Zero with no decimal places. -/
def zero : Decimal := ⟨false, 0, 0, by decide, by decide⟩

instance : Inhabited Decimal := ⟨zero⟩

/-- The whole number `n`, if its size fits a mantissa. -/
def ofInt? (n : Int) : Option Decimal :=
  ofParts? (n < 0) n.natAbs 0

/-- How many units of 10⁻²⁸ the number is. -/
def units (d : Decimal) : Int :=
  (if d.negative then -1 else 1) * ((d.mantissa * Nat.pow 10 (28 - d.scale) : Nat) : Int)

/-- The same number, however written. -/
def numEq (a b : Decimal) : Bool :=
  decide (a.units = b.units)

/-- The numeric order. -/
def numLe (a b : Decimal) : Bool :=
  decide (a.units ≤ b.units)

/-- The number zero, however written. -/
def isZero (d : Decimal) : Bool :=
  d.mantissa == 0

theorem units_eq_zero_iff {d : Decimal} : d.units = 0 ↔ d.mantissa = 0 := by
  have hp : Nat.pow 10 (28 - d.scale) ≠ 0 := Nat.pos_iff_ne_zero.mp (Nat.pow_pos (by decide))
  unfold units
  constructor
  · intro h
    by_cases hn : d.negative = true
    · simp only [hn, if_true] at h
      have : ((d.mantissa * Nat.pow 10 (28 - d.scale) : Nat) : Int) = 0 := by omega
      have h2 : d.mantissa * Nat.pow 10 (28 - d.scale) = 0 := by exact_mod_cast this
      rcases Nat.mul_eq_zero.mp h2 with h3 | h3
      · exact h3
      · exact absurd h3 hp
    · simp only [Bool.not_eq_true] at hn
      simp only [hn] at h
      have : ((d.mantissa * Nat.pow 10 (28 - d.scale) : Nat) : Int) = 0 := by simpa using h
      have h2 : d.mantissa * Nat.pow 10 (28 - d.scale) = 0 := by exact_mod_cast this
      rcases Nat.mul_eq_zero.mp h2 with h3 | h3
      · exact h3
      · exact absurd h3 hp
  · intro h; simp [h]

@[simp] theorem isZero_iff {d : Decimal} : d.isZero = true ↔ d.units = 0 := by
  simp [isZero, units_eq_zero_iff]

@[simp] theorem numEq_iff {a b : Decimal} : a.numEq b = true ↔ a.units = b.units := by
  simp [numEq]

@[simp] theorem numLe_iff {a b : Decimal} : a.numLe b = true ↔ a.units ≤ b.units := by
  simp [numLe]

end Decimal
end ExchangeClient

/-!
# The fewest digits that identify a double

A double is written with as few digits as still read back to it.  The selection is
exact: the value and the ends of the interval of reals that round to it are whole
numbers over one power of two, and decimal grids are compared with them by
cross-multiplication.

## The search

The interval runs from halfway to the neighbour below to halfway to the neighbour
above and includes its ends exactly when the significand is even, because a tie
rounds to even.  Grids 10ᵉ are tried from coarse to fine.  On each, the two
multiples next to the value are the only candidates that matter; the first grid
with a candidate inside wins, of two candidates the nearer, and an exact tie goes
as the caller says.
-/

namespace ExchangeClient
namespace Double

/-- A finite nonnegative double as `significand * 2 ^ exponent`.  `narrow` says
that the gap to the neighbour below is half the gap to the one above. -/
structure Dyadic where
  significand : Nat
  exponent : Int
  narrow : Bool
  deriving Repr, DecidableEq

/-- The size of the finite double with the given bits. -/
def Dyadic.ofBits (bits : UInt64) : Dyadic :=
  let biased := ((bits >>> 52) &&& 0x7FF).toNat
  let fraction := (bits &&& 0xFFFFFFFFFFFFF).toNat
  if biased = 0 then ⟨fraction, -1074, false⟩
  else ⟨0x10000000000000 + fraction, (biased : Int) - 1075, fraction == 0 && 1 < biased⟩

/-- The number `digits * 10 ^ exponent`. -/
structure Scaled where
  digits : Nat
  exponent : Int
  deriving Repr, DecidableEq

/-- Which of two equally near candidates is taken. -/
inductive Tie where
  | toEven
  | upward
  deriving Repr, DecidableEq

/-- A dyadic and its rounding interval as numerators over one denominator. -/
structure Interval where
  lower : Nat
  value : Nat
  upper : Nat
  denominator : Nat
  closed : Bool
  deriving Repr

/-- The interval of reals that round to a dyadic. -/
def Dyadic.interval (x : Dyadic) : Interval :=
  let grow := Nat.pow 2 x.exponent.toNat
  { lower := (4 * x.significand - if x.narrow then 1 else 2) * grow
    value := 4 * x.significand * grow
    upper := (4 * x.significand + 2) * grow
    denominator := 4 * Nat.pow 2 (-x.exponent).toNat
    closed := x.significand % 2 == 0 }

/-- Whether `digits * 10 ^ exponent` lies in the interval. -/
def Interval.holds (i : Interval) (d : Scaled) : Bool :=
  let point := d.digits * (i.denominator * Nat.pow 10 d.exponent.toNat)
  let small := Nat.pow 10 (-d.exponent).toNat
  if i.closed then i.lower * small ≤ point && point ≤ i.upper * small
  else i.lower * small < point && point < i.upper * small

/-- The better of the value's two neighbours on the grid `10 ^ exponent`, if one
of them lies in the interval. -/
def Interval.onGrid? (i : Interval) (tie : Tie) (exponent : Int) : Option Scaled :=
  let step := i.denominator * Nat.pow 10 exponent.toNat
  let value := i.value * Nat.pow 10 (-exponent).toNat
  let below := value / step
  match i.holds ⟨below, exponent⟩, i.holds ⟨below + 1, exponent⟩ with
  | true, false => some ⟨below, exponent⟩
  | false, true => some ⟨below + 1, exponent⟩
  | false, false => none
  | true, true =>
    match compare (2 * value) ((2 * below + 1) * step) with
    | .lt => some ⟨below, exponent⟩
    | .gt => some ⟨below + 1, exponent⟩
    | .eq =>
      match tie with
      | .upward => some ⟨below + 1, exponent⟩
      | .toEven => some ⟨below + below % 2, exponent⟩

/-- The first grid with a candidate, among `steps` of them from `10 ^ exponent`
downward. -/
def Interval.search (i : Interval) (tie : Tie) : Nat → Int → Option Scaled
  | 0, _ => none
  | steps + 1, exponent =>
    (i.onGrid? tie exponent).or (i.search tie steps (exponent - 1))

/-- The exact decimal value of a dyadic. -/
def Dyadic.exact (x : Dyadic) : Scaled :=
  if 0 ≤ x.exponent then ⟨x.significand * Nat.pow 2 x.exponent.toNat, 0⟩
  else ⟨x.significand * Nat.pow 5 (-x.exponent).toNat, x.exponent⟩

/-- An exponent whose power of ten exceeds the value, by less than a factor of a
thousand. -/
def Dyadic.ceilingExponent (x : Dyadic) : Int :=
  Int.fdiv (((x.significand.log2 : Int) + 1 + x.exponent) * 30103) 100000 + 1

/-- Moves trailing zeros of the digits into the exponent; `steps` bounds how many. -/
def Scaled.strip : Nat → Scaled → Scaled
  | 0, d => d
  | steps + 1, d =>
    if d.digits % 10 = 0 then Scaled.strip steps ⟨d.digits / 10, d.exponent + 1⟩ else d

/-- The fewest digits that read back to a dyadic.  Seventeen always suffice, so
the exact value after `search` is never needed; it keeps the answer right without
that fact. -/
def Dyadic.shortest (x : Dyadic) (tie : Tie) : Scaled :=
  if x.significand = 0 then ⟨0, 0⟩
  else
    let d := (x.interval.search tie 21 x.ceilingExponent).getD x.exact
    d.strip (Nat.toDigits 10 d.digits).length

end Double
end ExchangeClient

/-!
# Durations

Waits, intervals and deadlines count nanoseconds.  A duration is shown in the
largest unit of which it holds at least one whole, with the fraction's trailing
zeros dropped: one and a half seconds is `1.5s`, nothing at all is `0ns`.
-/

namespace ExchangeClient

/-- A span of time. -/
structure Duration where
  nanos : Nat
  deriving Repr, DecidableEq, Ord, Inhabited

namespace Duration

/-- A span of whole seconds. -/
def ofSecs (n : Nat) : Duration := ⟨n * 1000000000⟩

/-- A span of whole milliseconds. -/
def ofMillis (n : Nat) : Duration := ⟨n * 1000000⟩

/-- The span of no length. -/
def zero : Duration := ⟨0⟩

/-- The fraction `part / 10 ^ width` with its point, without trailing zeros, and
empty if the fraction is zero. -/
def fraction (part width : Nat) : List Char :=
  if part = 0 then []
  else
    let digits := Nat.toDigits 10 part
    let padded := List.replicate (width - digits.length) '0' ++ digits
    '.' :: (padded.reverse.dropWhile (· == '0')).reverse

/-- `n` units, each of `10 ^ width` nanoseconds, under the unit's name. -/
def inUnit (n width : Nat) (unit : String) : String :=
  toString (n / Nat.pow 10 width) ++ String.ofList (fraction (n % Nat.pow 10 width) width) ++ unit

/-- The shown form of a duration. -/
def text (d : Duration) : String :=
  if 1000000000 ≤ d.nanos then inUnit d.nanos 9 "s"
  else if 1000000 ≤ d.nanos then inUnit d.nanos 6 "ms"
  else if 1000 ≤ d.nanos then inUnit d.nanos 3 "µs"
  else inUnit d.nanos 0 "ns"

end Duration
end ExchangeClient

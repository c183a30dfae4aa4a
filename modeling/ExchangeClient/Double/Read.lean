/-!
# Doubles from a significand and a power of ten

A number in JSON becomes a double in one operation: the gathered significand is
rounded to a double and multiplied or divided by a power of ten.  That is not the
nearest double of the text in every case, but it is the same double everywhere,
and prices are compared after this reading.
-/

namespace ExchangeClient
namespace Double

/-- The power `10 ^ n` as a double. -/
def tenTo (n : Nat) : Float :=
  Float.ofScientific 1 false n

/-- Divides by `10 ^ n`, in steps of `1e308` while the power itself is no double.
The steps stop at zero. -/
def divideByTens (x : Float) (n : Nat) : Float :=
  if n ≤ 308 then x / tenTo n
  else if x == 0.0 then x
  else divideByTens (x / tenTo 308) (n - 308)
termination_by n

/-- `significand * 10 ^ exponent`, or `none` if it is infinite. -/
def ofScaled? (significand : Nat) (exponent : Int) : Option Float :=
  let x := Float.ofNat significand
  if exponent < 0 then some (divideByTens x exponent.natAbs)
  else if 308 < exponent then if x == 0.0 then some x else none
  else
    let y := x * tenTo exponent.toNat
    if y.isInf then none else some y

end Double
end ExchangeClient

import ExchangeClient.Decimal.Text
import ExchangeClient.Double.Text
import ExchangeClient.Double.Read

/-!
# Decimals and doubles

Order sizes are *written* as JSON numbers, so a decimal becomes a double on the
way out; and a price that arrives as a JSON number with a fraction was read as a
double and becomes a decimal on the way in.  The way in goes through the digits
that identify the double, so `0.1` arrives as one tenth.
-/

namespace ExchangeClient
namespace Decimal

/-- The decimal of a double: the digits that identify it, read as a decimal. -/
def ofDouble? (x : Float) : Option Decimal :=
  ofText? (Double.toPlain x)

/-- `base ^ n` by repeated squaring. -/
def powerOf (base : Float) (n : Nat) : Float :=
  go base n 1.0
where
  /-- Squares `base` once a bit of `n` and gathers the set bits' powers. -/
  go (base : Float) (n : Nat) (acc : Float) : Float :=
    let acc := if n % 2 = 1 then acc * base else acc
    if h : n < 2 then acc else go (base * base) (n / 2) acc
  termination_by n

/-- The double of a decimal: the whole part and the fraction are converted apart,
and their sum is rounded to the decimal's own places. -/
def toDouble (d : Decimal) : Float :=
  let size :=
    if d.scale = 0 then Float.ofNat d.mantissa
    else
      let power := Nat.pow 10 d.scale
      let whole := Float.ofNat (d.mantissa / power)
      let fraction := Float.ofNat (d.mantissa % power) / Float.ofNat power
      if fraction == 0.0 then whole
      else
        let tens := powerOf 10.0 d.scale
        Float.round ((whole + fraction) * tens) / tens
  if d.negative then -size else size

end Decimal
end ExchangeClient

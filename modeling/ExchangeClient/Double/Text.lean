import ExchangeClient.Double.Shortest

/-!
# Doubles as text

Two written forms share one selection of digits.

* `toText` is the form of numbers in JSON: positional while the point falls
  within sixteen places of the first digit or at most four zeros precede it,
  otherwise with a signed exponent.  A whole number keeps `.0`.
* `toPlain` is positional at every size and drops the `.0`.
-/

namespace ExchangeClient
namespace Double

/-- The digits of a selection with the place of its point: the value is
`0.d₁d₂… * 10 ^ point`. -/
structure Pointed where
  digits : List Char
  point : Int
  deriving Repr

/-- The selection's digits and where the point stands. -/
def Scaled.pointed (d : Scaled) : Pointed :=
  let digits := Nat.toDigits 10 d.digits
  ⟨digits, digits.length + d.exponent⟩

/-- Positional form.  `whole` is written after a number without places. -/
def Pointed.positional (p : Pointed) (whole : List Char) : List Char :=
  if p.point ≤ 0 then
    ['0', '.'] ++ List.replicate (-p.point).toNat '0' ++ p.digits
  else
    let n := p.point.toNat
    if p.digits.length ≤ n then
      p.digits ++ List.replicate (n - p.digits.length) '0' ++ whole
    else p.digits.take n ++ '.' :: p.digits.drop n

/-- Form with an exponent: one digit, the others after a point, and the exponent
with its sign. -/
def Pointed.scientific (p : Pointed) : List Char :=
  let exponent := p.point - 1
  let tail := p.digits.drop 1
  p.digits.take 1 ++ (if tail.isEmpty then [] else '.' :: tail) ++ ['e']
    ++ (if exponent < 0 then '-' else '+') :: Nat.toDigits 10 exponent.natAbs

/-- Whether the sign bit is set. -/
def isNegative (x : Float) : Bool :=
  x.toBits >>> 63 == 1

/-- The number's size, without its sign. -/
def size (x : Float) : Dyadic :=
  Dyadic.ofBits (x.toBits &&& 0x7FFFFFFFFFFFFFFF)

/-- The written form of a finite double in JSON. -/
def toText (x : Float) : String :=
  let sign := if isNegative x then ['-'] else []
  let body :=
    if (size x).significand = 0 then ['0', '.', '0']
    else
      let p := ((size x).shortest .toEven).pointed
      if -5 < p.point && p.point ≤ 16 then p.positional ['.', '0'] else p.scientific
  String.ofList (sign ++ body)

/-- The positional form of a double, whatever its size. -/
def toPlain (x : Float) : String :=
  if x.isNaN then "NaN"
  else
    let sign := if isNegative x then ['-'] else []
    let body :=
      if x.isInf then ['i', 'n', 'f']
      else if (size x).significand = 0 then ['0']
      else ((size x).shortest .upward).pointed.positional []
    String.ofList (sign ++ body)

end Double
end ExchangeClient

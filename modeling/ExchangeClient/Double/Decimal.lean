/-!
# Doubles from decimal text

The nearest double of a decimal number, however many digits and whatever exponent it
is written with.  Digits may stand on one side of the point only.  The words for
infinity and for no number are read in any case.
-/

namespace ExchangeClient
namespace Double

/-- The nearest double of `mantissa * 10 ^ exponent`.  Far outside the range of doubles
nothing has to be computed. -/
def nearest (mantissa : Nat) (exponent : Int) : Float :=
  let size : Int := exponent + (Nat.toDigits 10 mantissa).length
  if mantissa = 0 || size < -400 then 0.0
  else if 400 < size then 1.0 / 0.0
  else if exponent < 0 then Float.ofScientific mantissa true exponent.natAbs
  else Float.ofScientific mantissa false exponent.toNat

/-- The number that decimal digits write. -/
def digitsValue (cs : List Char) : Nat :=
  cs.foldl (fun n c => n * 10 + (c.toNat - 48)) 0

/-- The exponent at the end of a number: nothing, or a mark, perhaps a sign, and digits. -/
def exponent? : List Char → Option Int
  | [] => some 0
  | c :: rest =>
    if c = 'e' || c = 'E' then
      let (negative, digits) :=
        match rest with
        | '-' :: digits => (true, digits)
        | '+' :: digits => (false, digits)
        | digits => (false, digits)
      if digits.isEmpty || !digits.all Char.isDigit then none
      else
        let n : Int := digitsValue digits
        some (if negative then -n else n)
    else none

/-- The double that an unsigned number writes. -/
def unsigned? (cs : List Char) : Option Float :=
  let word := String.ofList (cs.map Char.toLower)
  if word = "inf" || word = "infinity" then some (1.0 / 0.0)
  else if word = "nan" then some (0.0 / 0.0)
  else
    let whole := cs.takeWhile Char.isDigit
    let rest := cs.drop whole.length
    let (places, rest) :=
      match rest with
      | '.' :: rest => (rest.takeWhile Char.isDigit, rest.dropWhile Char.isDigit)
      | rest => ([], rest)
    if whole.isEmpty && places.isEmpty then none
    else (exponent? rest).map fun e => nearest (digitsValue (whole ++ places)) (e - places.length)

/-- The double that a number with or without a sign writes. -/
def ofDecimal? (cs : List Char) : Option Float :=
  match cs with
  | '-' :: rest => (unsigned? rest).map (- ·)
  | '+' :: rest => unsigned? rest
  | rest => unsigned? rest

end Double
end ExchangeClient

import ExchangeClient.Decimal.Basic

/-!
# Decimals as text

A decimal is written with exactly as many places as it has.  What is read is more
generous: a plus sign, underscores between digits, a point at either end, and an
exponent are all accepted.

## Reading more digits than fit

Digits are gathered from the left.  In the whole part a digit that no longer fits
is an overflow.  After the point, where either the places or the mantissa may run
out, the first digit that does not fit decides the rounding, away from zero from
five on, and the rest is dropped: it must still be digits and underscores, but its
value no longer counts.

An underscore right after the last place stands for the digit zero there when the
mantissa before that place was short, below `shortBound`; behind a longer mantissa
it is passed over like any other.
-/

namespace ExchangeClient
namespace Decimal

/-! ## Writing -/

/-- The digits of a mantissa, at least one more than there are places. -/
def paddedDigits (mantissa scale : Nat) : List Char :=
  let digits := Nat.toDigits 10 mantissa
  List.replicate (scale + 1 - digits.length) '0' ++ digits

/-- The written form: a sign if negative, the whole part, and the places. -/
def toChars (d : Decimal) : List Char :=
  let digits := paddedDigits d.mantissa d.scale
  let whole := digits.length - d.scale
  (if d.negative then ['-'] else []) ++ digits.take whole
    ++ (if d.scale = 0 then [] else '.' :: digits.drop whole)

/-- The written form as a string. -/
def toText (d : Decimal) : String :=
  String.ofList d.toChars

/-! ## Reading without an exponent -/

/-- The value of a decimal digit. -/
def digitValue (c : Char) : Nat :=
  c.toNat - 48

/-- What may follow the digit that decided the rounding. -/
def isDroppable (c : Char) : Bool :=
  c.isDigit || c == '_'

/-- Where a mantissa stops being short: any that is smaller takes one more digit
and stays well inside sixty-four bits. -/
def shortBound : Nat := 1844674407370954906

/-- The decimal that digits spell out: a zero written in full has no sign. -/
def ofDigits? (negative : Bool) (mantissa scale : Nat) : Option Decimal :=
  ofParts? (negative && mantissa != 0) mantissa scale

/-- Rounds a full mantissa by the first digit that did not fit. -/
def roundBy (negative : Bool) (mantissa scale digit : Nat) : Option Decimal :=
  if digit < 5 then ofDigits? negative mantissa scale
  else if mantissa + 1 < mantissaBound then ofDigits? negative (mantissa + 1) scale
  else if scale = 0 then none
  else ofDigits? negative ((mantissa + 1 + 4) / 10) (scale - 1)

/-- Reads digits onto a mantissa.  `point` says that the point has been read and
`started` that a digit has. -/
def readDigits (negative : Bool) (mantissa scale : Nat) (point started : Bool) :
    List Char → Option Decimal
  | [] => if started then ofDigits? negative mantissa scale else none
  | c :: rest =>
    if c.isDigit then
      if point && (scale == maxScale || mantissaBound ≤ mantissa * 10 + digitValue c) then
        if rest.all isDroppable then roundBy negative mantissa scale (digitValue c) else none
      else if mantissaBound ≤ mantissa * 10 + digitValue c then none
      else
        readDigits negative (mantissa * 10 + digitValue c) (if point then scale + 1 else scale)
          point true rest
    else if c = '.' && !point then readDigits negative mantissa scale true started rest
    else if c = '_' && started then
      if point && scale == maxScale && mantissa / 10 < shortBound then
        if rest.all isDroppable then roundBy negative mantissa scale 0 else none
      else readDigits negative mantissa scale point true rest
    else none

/-- Reads a decimal that has no exponent. -/
def ofFixed? : List Char → Option Decimal
  | '-' :: rest => readDigits true 0 0 false false rest
  | '+' :: rest => readDigits false 0 0 false false rest
  | cs => readDigits false 0 0 false false cs

/-! ## Reading with an exponent -/

/-- The value of a nonempty run of digits, by places. -/
def digitsValue? (cs : List Char) : Option Nat :=
  if cs.isEmpty || !cs.all Char.isDigit then none
  else some (cs.foldl (fun n c => 10 * n + digitValue c) 0)

/-- A count below 2³², with an optional plus sign. -/
def count? (cs : List Char) : Option Nat :=
  let digits := match cs with
    | '+' :: rest => rest
    | _ => cs
  (digitsValue? digits).filter (· < UInt32.size)

/-- Rounds a mantissa to `places` fewer digits, a half away from zero. -/
def dropPlaces (mantissa places : Nat) : Nat :=
  if places = 0 then mantissa else (mantissa + 5 * Nat.pow 10 (places - 1)) / Nat.pow 10 places

/-- Divides by `10 ^ n` by adding places, after making room for them. -/
def shiftRight? (base : Decimal) (n : Nat) : Option Decimal :=
  if maxScale < n then none
  else if base.scale + n ≤ maxScale then ofParts? base.negative base.mantissa (base.scale + n)
  else ofParts? base.negative (dropPlaces base.mantissa (base.scale + n - maxScale)) maxScale

/-- Multiplies by `10 ^ n`, first by taking places away. -/
def shiftLeft? (base : Decimal) (n : Nat) : Option Decimal :=
  if n ≤ base.scale then ofParts? base.negative base.mantissa (base.scale - n)
  else if maxScale < n then none
  else ofParts? base.negative (base.mantissa * Nat.pow 10 (n - base.scale)) 0

/-- A mark that separates the exponent. -/
def isExponentMark (c : Char) : Bool :=
  c == 'e' || c == 'E'

/-- Reads a decimal with an exponent. -/
def ofScientific? (cs : List Char) : Option Decimal :=
  match cs.dropWhile (!isExponentMark ·) with
  | [] => none
  | _ :: exponent => do
    let base ← ofFixed? (cs.takeWhile (!isExponentMark ·))
    match exponent with
    | '-' :: digits => shiftRight? base (← count? digits)
    | digits => shiftLeft? base (← count? digits)

/-- Reads a decimal, with or without an exponent. -/
def ofChars? (cs : List Char) : Option Decimal :=
  (ofFixed? cs).or (ofScientific? cs)

/-- Reads a decimal from a string. -/
def ofText? (s : String) : Option Decimal :=
  ofChars? s.toList

end Decimal
end ExchangeClient

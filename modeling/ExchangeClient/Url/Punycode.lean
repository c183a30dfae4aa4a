/-!
# Punycode

A label of a host name with letters outside ASCII is written in ASCII: first its
ASCII letters, then a sequence of whole numbers that say which other letters stand
where.  The letters are taken in ascending order of their code points, and each
number counts the places passed since the last insertion.  A number is written in
base 36 with digits of varying weight, which `threshold` settles from a bias that
adapts to the numbers seen so far.
-/

namespace ExchangeClient
namespace Punycode

/-- The digit of a value below thirty-six: letters first. -/
def digitChar (n : Nat) : Char :=
  if n < 26 then Char.ofNat (97 + n) else Char.ofNat (22 + n)

/-- The value of a digit. -/
def digitValue? (c : Char) : Option Nat :=
  let n := c.toNat
  if 97 ≤ n ∧ n ≤ 122 then some (n - 97)
  else if 65 ≤ n ∧ n ≤ 90 then some (n - 65)
  else if 48 ≤ n ∧ n ≤ 57 then some (n - 22)
  else none

/-- From which value on a digit at place `k` is not the last one. -/
def threshold (k bias : Nat) : Nat :=
  if k ≤ bias then 1 else if bias + 26 ≤ k then 26 else k - bias

theorem threshold_pos (k bias : Nat) : 1 ≤ threshold k bias := by
  unfold threshold; split
  · omega
  · split <;> omega

/-- Scales a number down to the range of the bias. -/
def scaleDown (delta k : Nat) : Nat × Nat :=
  if 455 < delta then scaleDown (delta / 35) (k + 36) else (delta, k)
termination_by delta
decreasing_by omega

/-- The bias after a number; `points` letters stand so far. -/
def adapt (delta points : Nat) (isFirst : Bool) : Nat :=
  let start := if isFirst then delta / 700 else delta / 2
  let (delta, k) := scaleDown (start + start / points) 0
  k + 36 * delta / (delta + 38)

/-- The digits of a number, from place `k` on. -/
def encodeNumber (bias k q : Nat) : List Char :=
  let t := threshold k bias
  if q < t then [digitChar q]
  else digitChar (t + (q - t) % (36 - t)) :: encodeNumber bias (k + 36) ((q - t) / (36 - t))
termination_by q
decreasing_by
  have h1 := threshold_pos k bias
  exact Nat.lt_of_le_of_lt (Nat.div_le_self _ _) (by omega)

/-- What has been written, and what the next number depends on. -/
structure Progress where
  written : List Char
  delta : Nat
  bias : Nat
  /-- How many letters have been dealt with. -/
  handled : Nat

/-- Passes one letter in the round of the code point `point`. -/
def passLetter (basics point : Nat) (p : Progress) (c : Char) : Progress :=
  if c.toNat < point then { p with delta := p.delta + 1 }
  else if c.toNat = point then
    { written := p.written ++ encodeNumber p.bias 36 p.delta
      delta := 0
      bias := adapt p.delta (p.handled + 1) (p.handled == basics)
      handled := p.handled + 1 }
  else p

/-- Passes the letters once for each of the code points. -/
def passAll (letters : List Char) (basics : Nat) : List Nat → Nat → Progress → Progress
  | [], _, p => p
  | point :: points, next, p =>
    let p := { p with delta := p.delta + (point - next) * (p.handled + 1) }
    let p := letters.foldl (passLetter basics point) p
    passAll letters basics points (point + 1) { p with delta := p.delta + 1 }

/-- Whether a letter is ASCII. -/
def isBasic (c : Char) : Bool := c.toNat < 128

/-- A label in ASCII. -/
def encode (letters : List Char) : List Char :=
  let basics := letters.filter isBasic
  let points := ((letters.filter fun c => !isBasic c).map Char.toNat).mergeSort.eraseDups
  let p := passAll letters basics.length points 128 ⟨[], 0, 72, basics.length⟩
  basics ++ (if basics.isEmpty then [] else ['-']) ++ p.written

/-- The greatest number that a spelling may hold, and the greatest weight of a
digit. -/
def maxNumber : Nat := 0xFFFFFFFF

/-- Reads a number from place `k` on, each digit weighing `weight`: the number and
the rest. -/
def decodeNumber (bias : Nat) : List Char → (k weight sum : Nat) → Option (Nat × List Char)
  | [], _, _, _ => none
  | c :: rest, k, weight, sum =>
    match digitValue? c with
    | none => none
    | some d =>
      let t := threshold k bias
      if maxNumber < sum + d * weight then none
      else if d < t then some (sum + d * weight, rest)
      else if maxNumber < weight * (36 - t) then none
      else decodeNumber bias rest (k + 36) (weight * (36 - t)) (sum + d * weight)

/-- Inserts letters until the numbers end.  `turns` bounds their count. -/
def insertLetters : (turns : Nat) → (letters : List Char) → (point place bias : Nat) →
    (isFirst : Bool) → List Char → Option (List Char)
  | _, letters, _, _, _, _, [] => some letters
  | 0, _, _, _, _, _, _ :: _ => none
  | turns + 1, letters, point, place, bias, isFirst, c :: rest => do
    let (delta, rest) ← decodeNumber bias (c :: rest) 36 1 0
    let size := letters.length + 1
    let point := point + (place + delta) / size
    let spot := (place + delta) % size
    if 0x10FFFF < point || (0xD800 ≤ point && point ≤ 0xDFFF) then none
    else
      insertLetters turns (letters.take spot ++ Char.ofNat point :: letters.drop spot) point
        (spot + 1) (adapt delta size isFirst) false rest

/-- The label that a text in ASCII stands for.  The last hyphen separates its ASCII
letters from the numbers, if there are such letters. -/
def decode (cs : List Char) : Option (List Char) :=
  let tail := (cs.reverse.takeWhile (· != '-')).reverse
  let basics := cs.take (cs.length - tail.length - 1)
  let numbers := if basics.isEmpty then cs else tail
  if !(basics.all isBasic) then none
  else insertLetters (numbers.length + 1) basics 128 0 72 true numbers

end Punycode
end ExchangeClient

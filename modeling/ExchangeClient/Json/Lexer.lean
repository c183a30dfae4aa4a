import ExchangeClient.Double.Read
import ExchangeClient.Json.Error
import ExchangeClient.Json.Value
import ExchangeClient.Text.Utf8

/-!
# The words of a JSON text

Readers take the characters still to be read and give back what they read with
the characters after it.  The readers here cover space, the three words, strings
and numbers; each starts at the first character of its word, except that a string
is read from behind its opening quote.

## Skipping is not reading

The value of a member that no type asks for is passed over, and only its grammar
counts: a number may be too large for a double, and an escape may name half of a
surrogate pair.  `skipString` and `skipNumber` are therefore readers of their own
and not the reading ones with the result thrown away.
-/

namespace ExchangeClient
namespace Json

/-- The characters still to be read. -/
abbrev Input := List Char

/-- A reader takes the input and gives what it read with the rest. -/
abbrev Reader (α : Type) := Input → Except DecodeError (α × Input)

/-- The white space of JSON. -/
def isSpace (c : Char) : Bool :=
  c == ' ' || c == '\n' || c == '\t' || c == '\r'

/-- The input from its first character that is no space. -/
def skipSpace (cs : Input) : Input :=
  cs.dropWhile isSpace

/-- Expects the given characters. -/
def expectWord : List Char → Input → Except DecodeError Input
  | [], cs => .ok cs
  | _ :: _, [] => .error .truncated
  | w :: ws, c :: cs => if c = w then expectWord ws cs else .error .malformed

/-- Expects the colon between a key and its value. -/
def expectColon (cs : Input) : Except DecodeError Input :=
  match skipSpace cs with
  | [] => .error .truncated
  | c :: rest => if c = ':' then .ok rest else .error .malformed

/-! ## Strings -/

/-- The character that an escape letter stands for. -/
def escaped? (c : Char) : Option Char :=
  if c = '"' then some '"'
  else if c = '\\' then some '\\'
  else if c = '/' then some '/'
  else if c = 'b' then some '\x08'
  else if c = 'f' then some '\x0c'
  else if c = 'n' then some '\n'
  else if c = 'r' then some '\r'
  else if c = 't' then some '\t'
  else none

/-- The number that four hexadecimal digits write. -/
def hexFour? (a b c d : Char) : Option Nat := do
  let a ← Text.hexValue? a
  let b ← Text.hexValue? b
  let c ← Text.hexValue? c
  let d ← Text.hexValue? d
  return 4096 * a + 256 * b + 16 * c + d

/-- A first half of a surrogate pair. -/
def isLeading (n : Nat) : Bool :=
  0xD800 ≤ n && n ≤ 0xDBFF

/-- A second half of a surrogate pair. -/
def isTrailing (n : Nat) : Bool :=
  0xDC00 ≤ n && n ≤ 0xDFFF

/-- The character that a surrogate pair stands for. -/
def pairChar (leading trailing : Nat) : Char :=
  Char.ofNat (0x10000 + (leading - 0xD800) * 0x400 + (trailing - 0xDC00))

/-- The error of a numeric escape with fewer than four characters after it: the
text was cut off, unless at least four bytes are left. -/
def shortEscape (cs : Input) : DecodeError :=
  if 4 ≤ (Text.Utf8.encode cs).length then .malformed else .truncated

/-- Puts a character in front of what a string reader read. -/
def prepend (c : Char) (r : Except DecodeError (List Char × Input)) :
    Except DecodeError (List Char × Input) :=
  r.map fun p => (c :: p.1, p.2)

/-- Reads a string from behind its opening quote. -/
def readString : Reader (List Char)
  | [] => .error .truncated
  | c :: rest =>
    if c = '"' then .ok ([], rest)
    else if c = '\\' then
      match rest with
      | [] => .error .truncated
      | e :: rest =>
        if e = 'u' then
          match rest with
          | h₁ :: h₂ :: h₃ :: h₄ :: rest =>
            match hexFour? h₁ h₂ h₃ h₄ with
            | none => .error .malformed
            | some n =>
              if isTrailing n then .error .malformed
              else if !isLeading n then prepend (Char.ofNat n) (readString rest)
              else
                match rest with
                | [] => .error .truncated
                | b :: rest =>
                  if b ≠ '\\' then .error .malformed
                  else
                    match rest with
                    | [] => .error .truncated
                    | u :: rest =>
                      if u ≠ 'u' then .error .malformed
                      else
                        match rest with
                        | l₁ :: l₂ :: l₃ :: l₄ :: rest =>
                          match hexFour? l₁ l₂ l₃ l₄ with
                          | none => .error .malformed
                          | some m =>
                            if isTrailing m then prepend (pairChar n m) (readString rest)
                            else .error .malformed
                        | short => .error (shortEscape short)
          | short => .error (shortEscape short)
        else
          match escaped? e with
          | none => .error .malformed
          | some ch => prepend ch (readString rest)
    else if c.toNat < 0x20 then .error .malformed
    else prepend c (readString rest)

/-- Passes over a string from behind its opening quote. -/
def skipString : Input → Except DecodeError Input
  | [] => .error .truncated
  | c :: rest =>
    if c = '"' then .ok rest
    else if c = '\\' then
      match rest with
      | [] => .error .truncated
      | e :: rest =>
        if e = 'u' then
          match rest with
          | h₁ :: h₂ :: h₃ :: h₄ :: rest =>
            if (hexFour? h₁ h₂ h₃ h₄).isSome then skipString rest else .error .malformed
          | short => .error (shortEscape short)
        else if (escaped? e).isSome then skipString rest
        else .error .malformed
    else if c.toNat < 0x20 then .error .malformed
    else skipString rest

/-! ## Numbers -/

/-- The greatest whole number that a significand holds. -/
def significandMax : Nat := 0xFFFFFFFFFFFFFFFF

/-- Gathers digits onto a significand up to the first that does not fit, and says
how many are left over. -/
def gather (significand : Nat) : List Char → Nat × Nat
  | [] => (significand, 0)
  | d :: ds =>
    let next := significand * 10 + (d.toNat - 48)
    if next ≤ significandMax then gather next ds else (significand, ds.length + 1)

/-- A number as read: its sign, its significand and its power of ten. -/
def scaledNumber (negative : Bool) (significand : Nat) (exponent : Int) :
    Except DecodeError Number :=
  match Double.ofScaled? significand exponent with
  | none => .error .malformed
  | some x => .ok (.double (if negative then -x else x))

/-- A number without fraction and exponent whose digits all fitted. -/
def wholeNumber (negative : Bool) (significand : Nat) : Number :=
  if !negative then .whole significand
  else if 0 < significand ∧ significand ≤ 0x8000000000000000 then .whole (-significand)
  else .double (-Float.ofNat significand)

/-- The error of a missing digit: the input was cut off, or holds something else. -/
def missingDigit : Input → DecodeError
  | [] => .truncated
  | _ => .malformed

/-- Reads an exponent behind its sign: its value and the rest. -/
def readDigits (negative : Bool) (cs : Input) : Except DecodeError (Int × Input) :=
  let digits := cs.takeWhile Char.isDigit
  if digits.isEmpty then .error (missingDigit cs)
  else
    let n : Nat := digits.foldl (fun n d => 10 * n + (d.toNat - 48)) 0
    .ok (if negative then -(n : Int) else (n : Int), cs.dropWhile Char.isDigit)

/-- Reads an exponent from behind its mark. -/
def readExponent : Input → Except DecodeError (Int × Input)
  | '+' :: rest => readDigits false rest
  | '-' :: rest => readDigits true rest
  | cs => readDigits false cs

/-- A mark that starts an exponent. -/
def isExponentMark (c : Char) : Bool :=
  c == 'e' || c == 'E'

/-- Reads what may follow the significand of a double. -/
def readScaled (negative : Bool) (significand : Nat) (exponent : Int) : Reader Number
  | [] => (scaledNumber negative significand exponent).map fun n => (n, [])
  | c :: rest =>
    if isExponentMark c then do
      let (e, rest) ← readExponent rest
      return (← scaledNumber negative significand (exponent + e), rest)
    else (scaledNumber negative significand exponent).map fun n => (n, c :: rest)

/-- Reads what follows the whole part of a number, of whose digits `dropped` did
not fit. -/
def readFraction (negative : Bool) (significand dropped : Nat) : Reader Number
  | '.' :: rest =>
    let digits := rest.takeWhile Char.isDigit
    if digits.isEmpty then .error (missingDigit rest)
    else
      let (significand, unused) := gather significand digits
      readScaled negative significand ((dropped : Int) - (digits.length - unused : Nat))
        (rest.dropWhile Char.isDigit)
  | cs =>
    if dropped = 0 && !(cs.head?.any isExponentMark) then
      .ok (wholeNumber negative significand, cs)
    else readScaled negative significand dropped cs

/-- Reads a number behind its sign. -/
def readUnsigned (negative : Bool) (cs : Input) : Except DecodeError (Number × Input) :=
  match cs.takeWhile Char.isDigit with
  | [] => .error (missingDigit cs)
  | '0' :: _ :: _ => .error .malformed
  | digits =>
    let (significand, dropped) := gather 0 digits
    readFraction negative significand dropped (cs.dropWhile Char.isDigit)

/-- Reads a number. -/
def readNumber : Reader Number
  | '-' :: rest => readUnsigned true rest
  | cs => readUnsigned false cs

/-- Passes over at least one digit. -/
def skipDigits (cs : Input) : Except DecodeError Input :=
  if (cs.takeWhile Char.isDigit).isEmpty then .error .malformed
  else .ok (cs.dropWhile Char.isDigit)

/-- Passes over an exponent, if there is one. -/
def skipExponent : Input → Except DecodeError Input
  | [] => .ok []
  | c :: rest =>
    if isExponentMark c then
      match rest with
      | '+' :: rest => skipDigits rest
      | '-' :: rest => skipDigits rest
      | _ => skipDigits rest
    else .ok (c :: rest)

/-- Passes over what follows the whole part of a number. -/
def skipFraction : Input → Except DecodeError Input
  | '.' :: rest => do skipExponent (← skipDigits rest)
  | rest => skipExponent rest

/-- Passes over a number behind its sign. -/
def skipUnsigned (cs : Input) : Except DecodeError Input :=
  match cs.takeWhile Char.isDigit with
  | [] => .error .malformed
  | '0' :: _ :: _ => .error .malformed
  | _ => skipFraction (cs.dropWhile Char.isDigit)

/-- Passes over a number. -/
def skipNumber : Input → Except DecodeError Input
  | '-' :: rest => skipUnsigned rest
  | cs => skipUnsigned cs

end Json
end ExchangeClient

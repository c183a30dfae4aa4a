import ExchangeClient.Json.Value
import ExchangeClient.Double.Text
import ExchangeClient.Text.Hex

/-!
# Writing JSON

Values are written without space.  In a string only the quote, the backslash and
the control characters below the space are escaped, five of them by their letter
and the others by number; everything else stands for itself.  Members are written
in the order in which the object lists them.
-/

namespace ExchangeClient
namespace Json

/-- One character as it stands in a string. -/
def escape (c : Char) : List Char :=
  if c = '"' then ['\\', '"']
  else if c = '\\' then ['\\', '\\']
  else if c = '\x08' then ['\\', 'b']
  else if c = '\x0c' then ['\\', 'f']
  else if c = '\n' then ['\\', 'n']
  else if c = '\r' then ['\\', 'r']
  else if c = '\t' then ['\\', 't']
  else if c.toNat < 0x20 then
    ['\\', 'u', '0', '0', Text.hexDigit (c.toNat / 16), Text.hexDigit (c.toNat % 16)]
  else [c]

/-- A string between its quotes. -/
def stringChars (s : List Char) : List Char :=
  '"' :: s.flatMap escape ++ ['"']

/-- The digits of a whole number, with its sign. -/
def wholeChars (n : Int) : List Char :=
  (if n < 0 then ['-'] else []) ++ Nat.toDigits 10 n.natAbs

/-- A number as it is written. -/
def Number.chars : Number → List Char
  | .whole n => wholeChars n
  | .double x => (Double.toText x).toList

mutual

/-- A value as it is written. -/
def chars : Json → List Char
  | .null => ['n', 'u', 'l', 'l']
  | .bool true => ['t', 'r', 'u', 'e']
  | .bool false => ['f', 'a', 'l', 's', 'e']
  | .number n => n.chars
  | .string s => stringChars s.toList
  | .array items => '[' :: itemsChars items ++ [']']
  | .object members => '{' :: membersChars members ++ ['}']

/-- The items of a list with commas between them. -/
def itemsChars : List Json → List Char
  | [] => []
  | [x] => chars x
  | x :: xs => chars x ++ ',' :: itemsChars xs

/-- The members of an object with commas between them. -/
def membersChars : List (String × Json) → List Char
  | [] => []
  | [(k, v)] => stringChars k.toList ++ ':' :: chars v
  | (k, v) :: rest => stringChars k.toList ++ ':' :: chars v ++ ',' :: membersChars rest

end

/-- The text of a value. -/
def toText (j : Json) : String :=
  String.ofList j.chars

end Json
end ExchangeClient

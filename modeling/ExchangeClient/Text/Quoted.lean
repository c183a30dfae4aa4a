import ExchangeClient.Text.Hidden
import ExchangeClient.Text.Hex

/-!
# Quoted text

Messages that name a text show it between double quotes.  A quote and a backslash
get a backslash, a few controls their letter, and every other character without a
printed form its code point in braces, so that what is shown can be told apart
from what is meant.
-/

namespace ExchangeClient
namespace Text

/-- The escape letter of a character, if it has one. -/
def escapeLetter? (c : Char) : Option Char :=
  if c = '\x00' then some '0'
  else if c = '\t' then some 't'
  else if c = '\n' then some 'n'
  else if c = '\r' then some 'r'
  else if c = '"' then some '"'
  else if c = '\\' then some '\\'
  else none

/-- One character as it stands between quotes. -/
def quotedChar (c : Char) : List Char :=
  match escapeLetter? c with
  | some l => ['\\', l]
  | none =>
    if isHidden c then ['\\', 'u', '{'] ++ hexNumber c.toNat ++ ['}'] else [c]

/-- A text between double quotes. -/
def quoted (s : String) : String :=
  String.ofList ('"' :: s.toList.flatMap quotedChar ++ ['"'])

end Text
end ExchangeClient

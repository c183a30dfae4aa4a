import ExchangeClient.Text.Percent
import ExchangeClient.Text.Pieces

/-!
# Form text

The arguments of a query are pairs of a name and a value.  Letters, digits and the
four signs `*-._` stand for themselves, a space becomes a plus sign, and everything
else is escaped byte by byte; so neither names nor values contain the signs that
join them.

`Form.decode` reads a query back: it cuts at each ampersand, then each piece at its
first equals sign.
-/

namespace ExchangeClient
namespace Form

/-- A character that stands for itself. -/
def isPlain (c : Char) : Bool :=
  c.isAlphanum || c == '*' || c == '-' || c == '.' || c == '_'

/-- A character as it stands in a query. -/
def encodeChar (c : Char) : List Char :=
  if isPlain c then [c]
  else if c = ' ' then ['+']
  else Text.percentChar c

/-- A name or a value as it stands in a query. -/
def encodeText (cs : List Char) : List Char :=
  cs.flatMap encodeChar

/-- A pair as it stands in a query. -/
def encodePair (pair : String × String) : List Char :=
  encodeText pair.1.toList ++ '=' :: encodeText pair.2.toList

/-- The query of a list of pairs. -/
def encode : List (String × String) → List Char
  | [] => []
  | [pair] => encodePair pair
  | pair :: pairs => encodePair pair ++ '&' :: encode pairs

/-- The text that a name or a value in a query stands for. -/
def decodeText (cs : List Char) : String :=
  String.ofList
    (Text.Utf8.decodeLossy (Text.percentDecode (cs.map fun c => if c = '+' then ' ' else c)))

/-- The pairs of a query. -/
def decode (query : List Char) : List (String × String) :=
  ((Text.pieces '&' query).filter fun piece => !piece.isEmpty).map fun piece =>
    let (name, value) := Text.cut '=' piece
    (decodeText name, decodeText (value.getD []))

end Form
end ExchangeClient

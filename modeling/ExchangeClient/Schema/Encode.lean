import ExchangeClient.Schema.Shape
import ExchangeClient.Decimal.Double

/-!
# Writing values of a shape

A record is written as an object with its fields in the order in which they are
declared; the fields of an embedded group stand where the group is declared.
-/

namespace ExchangeClient

mutual

/-- The JSON value that a value of a shape is written as. -/
def Shape.encode : (s : Shape) → s.Value → Json
  | .text, v => .string v
  | .integer type, v => .ofInt (type.toInt v)
  | .decimal, v => .string (Decimal.toText v)
  | .quantity, v => .number (.double (Decimal.toDouble v))
  | .choice names, v => .string (names.get v)
  | .any, v => v
  | .optional _, none => .null
  | .optional inner, some v => inner.encode v
  | .list item, vs => .array (vs.map item.encode)
  | .record _ fields, v => .object (fields.encode v)

/-- The members that a tuple of field values is written as. -/
def Fields.encode : (fields : Fields) → fields.Value → List (String × Json)
  | .nil, _ => []
  | .cons key presence shape rest, (v, vs) =>
    if presence.hidesNone && shape.isNone v then rest.encode vs
    else (key, shape.encode v) :: rest.encode vs
  | .embed group rest, (v, vs) => group.encode v ++ rest.encode vs

end

end ExchangeClient

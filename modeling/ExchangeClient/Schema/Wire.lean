import ExchangeClient.Json.Printer
import ExchangeClient.Schema.Encode
import ExchangeClient.Schema.Read

/-!
# Types with a shape

`Wire` ties a type of the data model to the shape of its values.  The two
conversions are inverse to each other, so a type and the values of its shape are
the same thing under two names, and what is proved of shapes holds of the types.
-/

namespace ExchangeClient

/-- A type whose values are the values of a shape. -/
class Wire (α : Type) where
  shape : Shape
  toValue : α → shape.Value
  ofValue : shape.Value → α
  ofValue_toValue (a : α) : ofValue (toValue a) = a
  toValue_ofValue (v : shape.Value) : toValue (ofValue v) = v

namespace Wire

open Json (DecodeError Mismatch)

variable {α : Type} [Wire α]

/-- The JSON value of `a`. -/
def toJson (a : α) : Json := (shape α).encode (toValue a)

/-- The JSON text of `a`. -/
def toText (a : α) : String := (toJson a).toText

/-- The value that a text writes. -/
def ofText (text : String) : Except DecodeError α :=
  ((shape α).ofText text).map ofValue

/-- The value that a JSON value stands for. -/
def ofJson (j : Json) : Except Mismatch α :=
  ((shape α).decode j).map ofValue

end Wire

instance : Wire String where
  shape := .text
  toValue s := s
  ofValue s := s
  ofValue_toValue _ := rfl
  toValue_ofValue _ := rfl

instance : Wire Decimal where
  shape := .decimal
  toValue d := d
  ofValue d := d
  ofValue_toValue _ := rfl
  toValue_ofValue _ := rfl

instance {α : Type} [Wire α] : Wire (List α) where
  shape := .list (Wire.shape α)
  toValue := fun (as : List α) => as.map Wire.toValue
  ofValue := fun (vs : List (Wire.shape α).Value) => vs.map Wire.ofValue
  ofValue_toValue as := by simp [Wire.ofValue_toValue, Function.comp_def]
  toValue_ofValue vs := by simp [Wire.toValue_ofValue, Function.comp_def]

end ExchangeClient

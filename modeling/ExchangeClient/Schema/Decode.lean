import ExchangeClient.Schema.Shape
import ExchangeClient.Decimal.Double
import ExchangeClient.Json.Error

/-!
# Values of a shape from JSON values

This is the decoder for values that have been read already, such as the message
inside a notification.  The members of an object are taken in the order in which
the object lists them, so of two faults the one that is met first is reported; a
missing field is noticed after them all.
-/

namespace ExchangeClient

/-- What a value is, as a mismatch reports it. -/
def Json.found : Json → Json.Found
  | .null => .null
  | .bool b => .bool b
  | .number (.whole n) => .whole n
  | .number (.double x) => .double x
  | .string s => .string s
  | .array _ => .sequence
  | .object _ => .map

namespace Schema

open Json (Mismatch Found)

/-- What a decimal is called in a message. -/
def decimalLabel : String := "a Decimal type representing a fixed-point number"

/-- A number as a decimal. -/
def decimalOfNumber : Json.Number → Except Mismatch Decimal
  | .whole n =>
    match Decimal.ofInt? n with
    | some d => .ok d
    | none => .error (.range (.whole n) decimalLabel)
  | .double x =>
    match Decimal.ofDouble? x with
    | some d => .ok d
    | none => .error (.range (.double x) decimalLabel)

/-- A string as a decimal. -/
def decimalOfText (s : String) : Except Mismatch Decimal :=
  match Decimal.ofText? s with
  | some d => .ok d
  | none => .error (.range (.string s) decimalLabel)

/-- A value as a decimal. -/
def decimalOfJson : Json → Except Mismatch Decimal
  | .number n => decimalOfNumber n
  | .string s => decimalOfText s
  | j => .error (.kind j.found decimalLabel)

/-- A number as a value of an integer type. -/
def integerOfNumber (type : IntegerType) : Json.Number → Except Mismatch type.Carrier
  | .whole n =>
    match type.ofInt? n with
    | some v => .ok v
    | none => .error (.range (.whole n) type.label)
  | .double x => .error (.kind (.double x) type.label)

/-- A name as one of the names of a choice. -/
def variant (names : List String) (name : String) : Except Mismatch (Fin names.length) :=
  match names.finIdxOf? name with
  | some i => .ok i
  | none => .error (.unknownVariant name names)

/-- The null that goes with the name in the object form of a choice. -/
def unitOfJson : Json → Except Mismatch Unit
  | .null => .ok ()
  | j => .error (.kind j.found "unit")

/-- A value as one of the names of a choice: the name itself, or an object whose
one member has the name and is null. -/
def choiceOfJson (names : List String) : Json → Except Mismatch (Fin names.length)
  | .string s => variant names s
  | .object [(key, value)] => do
    let i ← variant names key
    unitOfJson value
    return i
  | .object _ => .error (.range .map "map with a single key")
  | j => .error (.kind j.found "string or map")

/-- What a record is called in a message. -/
def recordLabel (name : String) : String := "struct " ++ name

/-- What a record is called in a message about the length of a list. -/
def lengthLabel (name : String) (size : Nat) : String :=
  recordLabel name ++ s!" with {size} " ++ (if size = 1 then "element" else "elements")

end Schema

open Schema
open Json (Mismatch)

/-- Stores a value in the slot of a field that has none yet. -/
def Fields.fill {α : Type} (key : String) (slot : Option α) (value : Except Mismatch α) :
    Except Mismatch (Option α) :=
  match slot with
  | some _ => .error (.duplicateField key)
  | none => value.map some

/-- The first required field with an empty slot. -/
def Fields.missing? : (fields : Fields) → fields.Slots → Option String
  | .nil, _ => none
  | .cons key presence shape rest, (slot, slots) =>
    if slot.isNone && !(presence.mayLackMember && shape.absent?.isSome) then some key
    else rest.missing? slots
  | .embed _ rest, slots => rest.missing? slots

/-- Reports a missing field before anything else. -/
def Fields.unlessMissing {α : Type} (missing : Option String) (r : Except Mismatch α) :
    Except Mismatch α :=
  match missing with
  | some key => .error (.missingField key)
  | none => r

/-- Stores members one by one and gives back those that no field has.  `store`
stores one member, or is `none` for a key that no field has. -/
def Fields.storeAll {σ : Type} (store : String → Json → σ → Option (Except Mismatch σ)) :
    List (String × Json) → σ → Except Mismatch (σ × List (String × Json))
  | [], slots => .ok (slots, [])
  | (key, j) :: members, slots =>
    match store key j slots with
    | none => do
      let (slots, others) ← Fields.storeAll store members slots
      return (slots, (key, j) :: others)
    | some r => do Fields.storeAll store members (← r)

mutual

/-- The value of a shape that a JSON value stands for. -/
def Shape.decode : (s : Shape) → Json → Except Mismatch s.Value
  | .text, .string v => .ok v
  | .text, j => .error (.kind j.found "a string")
  | .integer type, .number n => integerOfNumber type n
  | .integer type, j => .error (.kind j.found type.label)
  | .decimal, j => decimalOfJson j
  | .quantity, j => decimalOfJson j
  | .choice names, j => choiceOfJson names j
  | .any, j => .ok j
  | .optional _, .null => .ok none
  | .optional inner, j => (inner.decode j).map some
  | .list item, .array js => js.mapM item.decode
  | .list _, j => .error (.kind j.found "a sequence")
  | .record _ fields, .object members => do
    let (slots, others) ←
      Fields.storeAll (fun key j => fields.decodeMember key j) members fields.noSlots
    Fields.unlessMissing (fields.missing? slots) (fields.build slots others)
  | .record name fields, .array items =>
    if fields.hasGroup then .error (.kind .sequence (recordLabel name))
    else fields.decodeItems (lengthLabel name fields.size) items.length 0 items
  | .record name _, j => .error (.kind j.found (recordLabel name))

/-- Stores the value of a member in its field's slot; `none` if no field has the
key. -/
def Fields.decodeMember : (fields : Fields) → (key : String) → Json → fields.Slots →
    Option (Except Mismatch fields.Slots)
  | .nil, _, _, _ => none
  | .cons k _ shape rest, key, j, (slot, slots) =>
    if key = k then some ((Fields.fill k slot (shape.decode j)).map fun slot => (slot, slots))
    else (rest.decodeMember key j slots).map fun r => r.map fun slots => (slot, slots)
  | .embed _ rest, key, j, slots => rest.decodeMember key j slots

/-- The tuple of field values, once all members have been seen and no required one
is missing.  `others` are the members that no field of the record has, among which
an embedded group looks for its own. -/
def Fields.build : (fields : Fields) → fields.Slots → List (String × Json) →
    Except Mismatch fields.Value
  | .nil, _, _ => .ok ()
  | .cons key _ shape rest, (slot, slots), others =>
    match slot.or shape.absent? with
    | none => .error (.missingField key)
    | some v => (rest.build slots others).map fun vs => (v, vs)
  | .embed group rest, slots, others => do
    let (found, _) ←
      Fields.storeAll (fun key j => group.decodeMember key j) others group.noSlots
    let v ← Fields.unlessMissing (group.missing? found) (group.build found [])
    return (v, ← rest.build slots others)

/-- The tuple of field values from a list of them.  `label` is what the record is
called, `given` the length of the whole list and `index` the place of the first
field here. -/
def Fields.decodeItems : (fields : Fields) → (label : String) → (given index : Nat) →
    List Json → Except Mismatch fields.Value
  | .nil, _, _, _, [] => .ok ()
  | .nil, _, given, _, _ :: _ => .error (.length given "fewer elements in array")
  | .cons _ presence shape rest, label, given, index, [] =>
    match if presence.mayLackItem then shape.absent? else none with
    | none => .error (.length index label)
    | some v => (rest.decodeItems label given (index + 1) []).map fun vs => (v, vs)
  | .cons _ _ shape rest, label, given, index, j :: js => do
    let v ← shape.decode j
    return (v, ← rest.decodeItems label given (index + 1) js)
  | .embed _ _, label, _, index, _ => .error (.length index label)

end

end ExchangeClient

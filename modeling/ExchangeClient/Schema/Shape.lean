import ExchangeClient.Decimal.Basic
import ExchangeClient.Json.Value

/-!
# Shapes of exchanged data

Everything the exchange sends or receives is a JSON value of a known shape.  A
`Shape` describes one as data, and `Shape.Value` is the type of its values: a
record's value is the tuple of its fields' values, an optional field's value an
`Option`, and so on.  Two decoders and one encoder are then defined once, by
recursion on the shape, and laws about them hold of every type of the data model.

## Presence

Fields differ in what their absence means.  The exchange leaves out members it has
nothing to say about, some types also accept a list of their fields in order, and
a request does not send what was not asked for.  `Presence` is the four
combinations that occur.

## Embedded groups

A request that pages through history carries the paging fields among its own.
`Fields.embed` splices a group of fields into a record.  A record with such a
group has no list form, and the members of the group are set aside until the
object has been read.
-/

namespace ExchangeClient

/-- The whole-number types of the data model. -/
inductive IntegerType where
  | signed64
  | unsigned32
  deriving Repr, DecidableEq

/-- How an integer type is named in a message. -/
def IntegerType.label : IntegerType → String
  | .signed64 => "i64"
  | .unsigned32 => "u32"

/-- The values of an integer type. -/
@[reducible] def IntegerType.Carrier : IntegerType → Type
  | .signed64 => Int64
  | .unsigned32 => UInt32

/-- The signed sixty-four-bit integer that a whole number is, if it is one. -/
def signed64? (n : Int) : Option Int64 :=
  if -0x8000000000000000 ≤ n ∧ n < 0x8000000000000000 then some (Int64.ofInt n) else none

/-- The unsigned thirty-two-bit integer that a whole number is, if it is one. -/
def unsigned32? (n : Int) : Option UInt32 :=
  if 0 ≤ n ∧ n < 0x100000000 then some (UInt32.ofNat n.toNat) else none

@[simp] theorem signed64?_toInt (n : Int64) : signed64? n.toInt = some n := by
  have h1 := Int64.le_toInt n
  have h2 := Int64.toInt_lt n
  rw [signed64?, if_pos ⟨h1, h2⟩, Int64.ofInt_toInt]

/-- A whole number is an integer of the type exactly when it is that integer's number. -/
theorem signed64?_eq_some_iff {n : Int} {m : Int64} : signed64? n = some m ↔ m.toInt = n := by
  constructor
  · intro h
    unfold signed64? at h
    split at h
    · next hn =>
      cases h
      exact Int64.toInt_ofInt_of_le hn.1 hn.2
    · cases h
  · rintro rfl
    exact signed64?_toInt m

@[simp] theorem unsigned32?_toNat (n : UInt32) : unsigned32? (n.toNat : Int) = some n := by
  have h : n.toNat < 0x100000000 := UInt32.toNat_lt n
  rw [unsigned32?, if_pos ⟨Int.natCast_nonneg _, Int.ofNat_lt.2 h⟩]
  simp

/-- A whole number is a natural word exactly when it is that word's number. -/
theorem unsigned32?_eq_some_iff {n : Int} {m : UInt32} :
    unsigned32? n = some m ↔ (m.toNat : Int) = n := by
  constructor
  · intro h
    unfold unsigned32? at h
    split at h
    · next hn =>
      cases h
      have hlt : n.toNat < UInt32.size := (Int.toNat_lt hn.1).2 hn.2
      rw [UInt32.toNat_ofNat_of_lt' hlt, Int.toNat_of_nonneg hn.1]
    · cases h
  · rintro rfl
    exact unsigned32?_toNat m

/-- The value of an integer type that a whole number stands for. -/
def IntegerType.ofInt? : (t : IntegerType) → Int → Option t.Carrier
  | .signed64, n => signed64? n
  | .unsigned32, n => unsigned32? n

/-- The whole number that a value of an integer type is. -/
def IntegerType.toInt : (t : IntegerType) → t.Carrier → Int
  | .signed64, n => Int64.toInt n
  | .unsigned32, n => (UInt32.toNat n : Int)

/-- A value of an integer type is found again from its number. -/
@[simp] theorem IntegerType.ofInt?_toInt (t : IntegerType) (n : t.Carrier) :
    t.ofInt? (t.toInt n) = some n := by
  cases t with
  | signed64 => exact signed64?_toInt n
  | unsigned32 => exact unsigned32?_toNat n

/-- What the absence of a field means. -/
inductive Presence where
  /-- The field must be there. -/
  | required
  /-- An object may leave the field out, and writing leaves it out when it is none. -/
  | optional
  /-- As `optional`, and a list of fields may end before it. -/
  | trailing
  /-- Objects and lists may leave the field out, and it is always written. -/
  | defaulted
  deriving Repr, DecidableEq

/-- An object may lack the field. -/
def Presence.mayLackMember : Presence → Bool
  | .required => false
  | _ => true

/-- A list of fields may end before the field. -/
def Presence.mayLackItem : Presence → Bool
  | .trailing | .defaulted => true
  | _ => false

/-- Writing leaves the field out when it is none. -/
def Presence.hidesNone : Presence → Bool
  | .optional | .trailing => true
  | _ => false

mutual

/-- The shape of a JSON value. -/
inductive Shape where
  | text
  | integer (type : IntegerType)
  /-- A decimal, written as a string. -/
  | decimal
  /-- A decimal, written as a number. -/
  | quantity
  /-- One of some names. -/
  | choice (names : List String)
  /-- Any value. -/
  | any
  | optional (inner : Shape)
  | list (item : Shape)
  | record (name : String) (fields : Fields)

/-- The fields of a record. -/
inductive Fields where
  | nil
  | cons (key : String) (presence : Presence) (shape : Shape) (rest : Fields)
  | embed (group : Fields) (rest : Fields)

end

mutual

/-- The values of a shape. -/
@[reducible] def Shape.Value : Shape → Type
  | .text => String
  | .integer type => type.Carrier
  | .decimal => Decimal
  | .quantity => Decimal
  | .choice names => Fin names.length
  | .any => Json
  | .optional inner => Option inner.Value
  | .list item => List item.Value
  | .record _ fields => fields.Value

/-- The tuples of values of some fields. -/
@[reducible] def Fields.Value : Fields → Type
  | .nil => Unit
  | .cons _ _ shape rest => shape.Value × rest.Value
  | .embed group rest => group.Value × rest.Value

end

/-- The values read so far, field by field.  The fields of an embedded group are
not among them. -/
@[reducible] def Fields.Slots : Fields → Type
  | .nil => Unit
  | .cons _ _ shape rest => Option shape.Value × rest.Slots
  | .embed _ rest => rest.Slots

/-- Nothing read yet. -/
def Fields.noSlots : (fields : Fields) → fields.Slots
  | .nil => ()
  | .cons _ _ _ rest => (none, rest.noSlots)
  | .embed _ rest => rest.noSlots

/-- Whether some fields hold an embedded group. -/
def Fields.hasGroup : Fields → Bool
  | .nil => false
  | .cons _ _ _ rest => rest.hasGroup
  | .embed _ _ => true

/-- How many fields there are, a group counting as one. -/
def Fields.size : Fields → Nat
  | .nil => 0
  | .cons _ _ _ rest => rest.size + 1
  | .embed _ rest => rest.size + 1

/-- The value that stands in for an absent one. -/
def Shape.absent? : (s : Shape) → Option s.Value
  | .text => some ""
  | .decimal => some Decimal.zero
  | .quantity => some Decimal.zero
  | .optional _ => some none
  | .list _ => some []
  | .integer _ => none
  | .choice _ => none
  | .any => none
  | .record _ _ => none

/-- Whether a value says that there is nothing. -/
def Shape.isNone : (s : Shape) → s.Value → Bool
  | .optional _, none => true
  | .optional _, some _ => false
  | .text, _ => false
  | .decimal, _ => false
  | .quantity, _ => false
  | .list _, _ => false
  | .integer _, _ => false
  | .choice _, _ => false
  | .any, _ => false
  | .record _ _, _ => false

end ExchangeClient

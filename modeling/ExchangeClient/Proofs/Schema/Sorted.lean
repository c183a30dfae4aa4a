import ExchangeClient.Proofs.Json.Written
import ExchangeClient.Schema.Decode

/-!
# Values of a shape, sorted

A value of a shape may hold JSON values, where the shape asks for any value.  `Shape.sorted`
sorts their members, as reading a text does, and leaves everything else alone.

Records are taken without embedded groups, `Shape.isGroupFree`.  The members that such a group
looks at are set aside when a text is read, and are sorted when they come to be decoded.
-/

namespace ExchangeClient

open Json (Mismatch)

mutual

/-- Whether no record in a shape has an embedded group. -/
def Shape.isGroupFree : Shape → Bool
  | .optional inner => inner.isGroupFree
  | .list item => item.isGroupFree
  | .record _ fields => fields.isGroupFree
  | .text | .integer _ | .decimal | .quantity | .choice _ | .any => true

/-- Whether some fields hold no embedded group, and no record in them does. -/
def Fields.isGroupFree : Fields → Bool
  | .nil => true
  | .cons _ _ shape rest => shape.isGroupFree && rest.isGroupFree
  | .embed _ _ => false

end

mutual

/-- The value with the JSON values in it sorted. -/
def Shape.sorted : (s : Shape) → s.Value → s.Value
  | .text, v => v
  | .integer _, v => v
  | .decimal, v => v
  | .quantity, v => v
  | .choice _, v => v
  | .any, j => Json.sorted j
  | .optional inner, v => Option.map inner.sorted v
  | .list item, vs => List.map item.sorted vs
  | .record _ fields, v => fields.sorted v

/-- The tuple of field values with the JSON values in it sorted. -/
def Fields.sorted : (fields : Fields) → fields.Value → fields.Value
  | .nil, v => v
  | .cons _ _ shape rest, (v, vs) => (shape.sorted v, rest.sorted vs)
  | .embed group rest, (v, vs) => (group.sorted v, rest.sorted vs)

end

/-- The values read so far with the JSON values in them sorted. -/
def Fields.sortedSlots : (fields : Fields) → fields.Slots → fields.Slots
  | .nil, slots => slots
  | .cons _ _ shape rest, (slot, slots) => (slot.map shape.sorted, rest.sortedSlots slots)
  | .embed _ rest, slots => rest.sortedSlots slots

/-- Only null says that an optional value is not there. -/
theorem Shape.decode_optional {inner : Shape} {j : Json} (h : j ≠ .null) :
    (Shape.optional inner).decode j = (inner.decode j).map some := by
  rw [Shape.decode]
  exact h

/-- What stands in for an absent value has no JSON value in it. -/
theorem Shape.sorted_of_absent? {s : Shape} {v : s.Value} (h : s.absent? = some v) :
    s.sorted v = v := by
  cases s with
  | text | decimal | quantity => rfl
  | optional inner => cases h; rfl
  | list item => cases h; rfl
  | integer | choice | any | record => cases h

theorem Shape.absent?_or_map_sorted (s : Shape) (slot : Option s.Value) :
    (slot.map s.sorted).or s.absent? = (slot.or s.absent?).map s.sorted := by
  cases slot with
  | some v => rfl
  | none =>
    show s.absent? = s.absent?.map s.sorted
    cases h : s.absent? with
    | none => rfl
    | some v => rw [Option.map_some, Shape.sorted_of_absent? h]

theorem Fields.sortedSlots_noSlots : (fields : Fields) →
    fields.sortedSlots fields.noSlots = fields.noSlots
  | .nil => rfl
  | .cons _ _ _ rest => by
    rw [Fields.noSlots, Fields.sortedSlots, rest.sortedSlots_noSlots]
    rfl
  | .embed _ rest => rest.sortedSlots_noSlots

theorem Fields.missing?_sortedSlots : (fields : Fields) → (slots : fields.Slots) →
    fields.missing? (fields.sortedSlots slots) = fields.missing? slots
  | .nil, _ => rfl
  | .cons _ _ _ rest, (_, slots) => by
    rw [Fields.sortedSlots, Fields.missing?, Fields.missing?, rest.missing?_sortedSlots slots,
      Option.isNone_map]
  | .embed _ rest, slots => rest.missing?_sortedSlots slots

/-- Without embedded groups, the tuple is made of what has been read for each field. -/
theorem Fields.build_sortedSlots : (fields : Fields) → fields.isGroupFree = true →
    (slots : fields.Slots) → (others : List (String × Json)) →
    fields.build (fields.sortedSlots slots) others = (fields.build slots others).map fields.sorted
  | .nil, _, _, _ => rfl
  | .cons _ _ shape rest, h, (slot, slots), others => by
    rw [Fields.isGroupFree, Bool.and_eq_true] at h
    rw [Fields.sortedSlots, Fields.build, Fields.build, Shape.absent?_or_map_sorted]
    cases slot.or shape.absent? with
    | none => rfl
    | some v =>
      dsimp only [Option.map]
      rw [rest.build_sortedSlots h.2 slots others]
      cases rest.build slots others <;> rfl
  | .embed _ _, h, _, _ => nomatch h

theorem Fields.hasGroup_of_isGroupFree : (fields : Fields) → fields.isGroupFree = true →
    fields.hasGroup = false
  | .nil, _ => rfl
  | .cons _ _ _ rest, h => by
    rw [Fields.isGroupFree, Bool.and_eq_true] at h
    exact rest.hasGroup_of_isGroupFree h.2
  | .embed _ _, h => nomatch h

end ExchangeClient

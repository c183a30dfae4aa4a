import ExchangeClient.Catalog
import ExchangeClient.Proofs.Schema.Encoding

/-!
# What is sent comes back

The text of a value is read back as that value, both straight into its type and by way of the
JSON value of the text.  This holds of every type of the catalogue that has no decimal written
as a number, `roundTrip_of_catalogued`; such a decimal goes through a double, and comes back
with other places than it had.

The catalogue enters through what its shapes have in common, `exact_of_catalogued`, and that is
checked shape by shape.
-/

namespace ExchangeClient

open Json (FitsIn writtenOfText)

/-! ## Shapes -/

/-- Whether embedded groups occur, if at all, in the record that a shape itself is. -/
def Shape.isShallow : Shape → Bool
  | .record _ fields => fields.isShallow
  | .optional inner => inner.isGroupFree
  | .list item => item.isGroupFree
  | .text | .integer _ | .decimal | .quantity | .choice _ | .any => true

theorem Fields.isGroupFree_of_isShallow : (fields : Fields) → fields.isShallow = true →
    fields.hasGroup = false → fields.isGroupFree = true
  | .nil, _, _ => rfl
  | .cons _ _ shape rest, h, hgroup => by
    rw [Fields.isShallow, Bool.and_eq_true] at h
    rw [Fields.isGroupFree, h.1, rest.isGroupFree_of_isShallow h.2 hgroup]
    rfl
  | .embed _ _, _, hgroup => nomatch hgroup

/-- A shallow shape has no groups at all, or it is a record that has them itself. -/
theorem Shape.isGroupFree_or_record {s : Shape} (h : s.isShallow = true) :
    s.isGroupFree = true ∨
      ∃ name fields,
        s = .record name fields ∧ fields.isShallow = true ∧ fields.hasGroup = true := by
  cases s with
  | record name fields =>
    cases hgroup : fields.hasGroup with
    | true => exact .inr ⟨name, fields, rfl, h, hgroup⟩
    | false => exact .inl (fields.isGroupFree_of_isShallow h hgroup)
  | optional inner => exact .inl h
  | list item => exact .inl h
  | text | integer | decimal | quantity | choice | any => exact .inl rfl

section

variable {s : Shape} {v : s.Value}

/-- **The text of a value is read back as the value.** -/
theorem Shape.ofText_toText (hexact : s.isExact = true) (hshallow : s.isShallow = true)
    (hopens : s.opens ≤ Json.maxDepth) (hv : s.hasSignedZero v = false) :
    s.ofText (s.encode v).toText = .ok v := by
  have hwritten := Json.writtenOfText_toText (s.fitsIn_encode hexact hopens v)
  rcases Shape.isGroupFree_or_record hshallow with hfree | ⟨name, fields, rfl, hfields, hgroup⟩
  · have hdecode := s.decode_rearranged Json.isRearrangement_id hexact v hv
    rw [(s.ofText_of_written hfree hwritten).1 v hdecode, s.sorted_eq_self hexact]
  · obtain ⟨hexact, -, hkeys⟩ := Shape.isExact_record_iff.mp hexact
    have hown := fields.finds_rearranged Json.isRearrangement_id hexact hkeys v hv
    have haside := fields.finds_rearranged Json.isRearrangement_sorted hexact hkeys v hv
    simp only [List.map_id] at hown
    exact Shape.ofText_of_finds hfields hgroup (fields.sortedSlots_eq_self hexact) hkeys name
      hwritten (hown.combine haside)

/-- The JSON value of the text of a value is converted to the value. -/
theorem Shape.decode_toText (hexact : s.isExact = true) (hopens : s.opens ≤ Json.maxDepth)
    (hv : s.hasSignedZero v = false) :
    ∃ message, Json.ofText (s.encode v).toText = .ok message ∧ s.decode message = .ok v :=
  ⟨_, Json.ofText_toText (s.fitsIn_encode hexact hopens v),
    s.decode_rearranged Json.isRearrangement_sorted hexact v hv⟩

end

/-! ## The catalogue -/

mutual

/-- Whether a shape has a decimal that is written as a number. -/
def Shape.hasQuantity : Shape → Bool
  | .quantity => true
  | .optional inner => inner.hasQuantity
  | .list item => item.hasQuantity
  | .record _ fields => fields.hasQuantity
  | .text | .integer _ | .decimal | .choice _ | .any => false

/-- Whether some fields have a decimal that is written as a number. -/
def Fields.hasQuantity : Fields → Bool
  | .nil => false
  | .cons _ _ shape rest => shape.hasQuantity || rest.hasQuantity
  | .embed group rest => group.hasQuantity || rest.hasQuantity

end

/-- Only orders are sent with prices and sizes as numbers, and the legs of a parent order come
back as they were sent. -/
example : (Catalog.shapes.filter fun p => p.2.hasQuantity).map Prod.fst =
    ["ParentOrderDetail", "SendChildOrderRequest", "ParentOrderParameter",
      "SendParentOrderRequest"] := by
  decide

/-- Everything in the catalogue that has no decimal written as a number is written in a way of
its own, with groups at the top only and no deeper than texts are read. -/
theorem exact_of_catalogued : ∀ p ∈ Catalog.shapes, p.2.hasQuantity = false →
    p.2.isExact = true ∧ p.2.isShallow = true ∧ p.2.opens ≤ Json.maxDepth := by
  decide

/-- **What is sent comes back**, read straight into its type and by way of the JSON value: every
string and whole number, every decimal with its mantissa and its scale, every optional value
that is there or is not, and every item of a list. -/
theorem roundTrip_of_catalogued {α : Type} [Wire α] {name : String}
    (h : (name, Wire.shape α) ∈ Catalog.shapes) (hquantity : (Wire.shape α).hasQuantity = false)
    (a : α) (hzeros : (Wire.shape α).hasSignedZero (Wire.toValue a) = false) :
    Wire.ofText (Wire.toText a) = .ok a ∧
      ∃ message, Json.ofText (Wire.toText a) = .ok message ∧ Wire.ofJson message = .ok a := by
  obtain ⟨hexact, hshallow, hopens⟩ := exact_of_catalogued _ h hquantity
  obtain ⟨message, hmessage, hdecode⟩ := Shape.decode_toText hexact hopens hzeros
  refine ⟨?_, message, hmessage, ?_⟩
  · rw [Wire.ofText, Wire.toText, Wire.toJson, Shape.ofText_toText hexact hshallow hopens hzeros]
    exact congrArg Except.ok (Wire.ofValue_toValue a)
  · rw [Wire.ofJson, hdecode]
    exact congrArg Except.ok (Wire.ofValue_toValue a)

/-- A board whose decimals have the greatest mantissa and the most places there are. -/
def extremeBoard : Board where
  midPrice := (Decimal.ofParts? false 0xFFFFFFFFFFFFFFFFFFFFFFFF 28).getD .zero
  bids := [⟨(Decimal.ofParts? true 0xFFFFFFFFFFFFFFFFFFFFFFFF 0).getD .zero,
    (Decimal.ofParts? false 0 28).getD .zero⟩]
  asks := []

/-- A look-up of orders that pages, with a product code that has to be escaped. -/
def pagedLookUp : GetChildOrdersRequest where
  productCode := "\"BTC\\\n"
  pagination := ⟨some 4294967295, none, some (-9223372036854775808)⟩
  childOrderState := some .active
  childOrderId := none
  childOrderAcceptanceId := some ""
  parentOrderId := none

/-- Both come back, the second from a text that says nothing of what it does not ask for. -/
theorem extremeBoard_pagedLookUp_roundTrip :
    (Wire.toText extremeBoard = "\x7b\"mid_price\":\"7.9228162514264337593543950335\"," ++
        "\"bids\":[\x7b\"price\":\"-79228162514264337593543950335\"," ++
        "\"size\":\"0.0000000000000000000000000000\"\x7d],\"asks\":[]\x7d" ∧
      Wire.ofText (Wire.toText extremeBoard) = .ok extremeBoard ∧
      ∃ message, Json.ofText (Wire.toText extremeBoard) = .ok message ∧
        Wire.ofJson message = .ok extremeBoard) ∧
    (Wire.toText pagedLookUp = "\x7b\"product_code\":\"\\\"BTC\\\\\\n\",\"count\":4294967295," ++
        "\"after\":-9223372036854775808,\"child_order_state\":\"ACTIVE\"," ++
        "\"child_order_acceptance_id\":\"\"\x7d" ∧
      Wire.ofText (Wire.toText pagedLookUp) = .ok pagedLookUp ∧
      ∃ message, Json.ofText (Wire.toText pagedLookUp) = .ok message ∧
        Wire.ofJson message = .ok pagedLookUp) := by
  have hboard : ("Board", Wire.shape Board) ∈ Catalog.shapes :=
    List.mem_of_getElem? (show Catalog.shapes[6]? = some ("Board", _) from rfl)
  have hlookUp : ("GetChildOrdersRequest", Wire.shape GetChildOrdersRequest) ∈ Catalog.shapes :=
    List.mem_of_getElem? (show Catalog.shapes[29]? = some ("GetChildOrdersRequest", _) from rfl)
  exact ⟨⟨by decide +kernel, roundTrip_of_catalogued hboard rfl extremeBoard rfl⟩,
    by decide +kernel, roundTrip_of_catalogued hlookUp rfl pagedLookUp rfl⟩

end ExchangeClient

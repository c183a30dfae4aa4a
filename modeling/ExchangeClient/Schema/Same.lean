import ExchangeClient.Schema.Wire

/-!
# Values that say the same

Two decimals that differ only in trailing zeros are the same number.  `Shape.same`
carries this through records, lists and optional values; everything else has to be
equal as it stands.  It is the comparison under which a request survives being
sent and read back, because quantities are sent as numbers and come back without
their trailing zeros.
-/

namespace ExchangeClient

/-- Two lists whose items agree pairwise. -/
def sameItems {α : Type} (same : α → α → Bool) : List α → List α → Bool
  | [], [] => true
  | a :: as, b :: bs => same a b && sameItems same as bs
  | _, _ => false

theorem sameItems_self {α : Type} {same : α → α → Bool} (h : ∀ a, same a a = true) (l : List α) :
    sameItems same l l = true := by
  induction l with
  | nil => rfl
  | cons a l ih => simp [sameItems, h a, ih]

mutual

/-- Whether two values of a shape say the same. -/
def Shape.same : (s : Shape) → s.Value → s.Value → Bool
  | .text, v, w => decide (v = w)
  | .integer type, v, w => decide (type.toInt v = type.toInt w)
  | .decimal, v, w => Decimal.numEq v w
  | .quantity, v, w => Decimal.numEq v w
  | .choice _, v, w => decide (v = w)
  | .any, v, w => decide (Json.chars v = Json.chars w)
  | .optional _, none, none => true
  | .optional inner, some v, some w => inner.same v w
  | .optional _, _, _ => false
  | .list item, vs, ws => sameItems item.same vs ws
  | .record _ fields, v, w => fields.same v w

/-- Whether two tuples of field values say the same. -/
def Fields.same : (fields : Fields) → fields.Value → fields.Value → Bool
  | .nil, _, _ => true
  | .cons _ _ shape rest, (v, vs), (w, ws) => shape.same v w && rest.same vs ws
  | .embed group rest, (v, vs), (w, ws) => group.same v w && rest.same vs ws

end

mutual

/-- A value says the same as itself. -/
theorem Shape.same_self : (s : Shape) → (v : s.Value) → s.same v v = true
  | .text, v => by simp [Shape.same]
  | .integer type, v => by simp [Shape.same]
  | .decimal, v => by simp [Shape.same]
  | .quantity, v => by simp [Shape.same]
  | .choice _, v => by simp [Shape.same]
  | .any, v => by simp [Shape.same]
  | .optional _, none => by simp [Shape.same]
  | .optional inner, some v => by simp [Shape.same, Shape.same_self inner v]
  | .list item, vs => by
    simpa [Shape.same] using sameItems_self (fun a => Shape.same_self item a) vs
  | .record _ fields, v => by simpa [Shape.same] using Fields.same_self fields v

theorem Fields.same_self : (fields : Fields) → (v : fields.Value) → fields.same v v = true
  | .nil, _ => by simp [Fields.same]
  | .cons _ _ shape rest, (v, vs) => by
    simp [Fields.same, Shape.same_self shape v, Fields.same_self rest vs]
  | .embed group rest, (v, vs) => by
    simp [Fields.same, Fields.same_self group v, Fields.same_self rest vs]

end

/-- Whether two values of a type with a shape say the same. -/
def Wire.same {α : Type} [Wire α] (a b : α) : Bool :=
  (Wire.shape α).same (Wire.toValue a) (Wire.toValue b)

@[simp] theorem Wire.same_self {α : Type} [Wire α] (a : α) : Wire.same a a = true :=
  Shape.same_self _ _

end ExchangeClient

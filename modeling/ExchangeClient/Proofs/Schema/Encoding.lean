import ExchangeClient.Proofs.Json.Printing
import ExchangeClient.Proofs.Schema.Groups
import ExchangeClient.Schema.Encode

/-!
# What is encoded is decoded

`Shape.decode_rearranged` says that a value is found again in the JSON value that it is encoded
as, also if the members of the objects there have been put in another order.  What it takes is
a property of the shape alone, `Shape.isExact`: no name is given twice, to fields or in a
choice, null says one thing only, and nothing is written as a double or left open.

Of the values one thing is asked.  A zero with a sign is written with the sign and read without
it, so no decimal may be one, `Shape.hasSignedZero`.
-/

namespace ExchangeClient

open Json (Mismatch FitsIn IsWhole)

/-! ## Exact shapes -/

/-- Whether null may be a value that is there. -/
def Shape.mayBeNull : Shape → Bool
  | .optional _ | .any => true
  | .text | .integer _ | .decimal | .quantity | .choice _ | .list _ | .record _ _ => false

mutual

/-- Whether each value of a shape is written in a way of its own. -/
def Shape.isExact : Shape → Bool
  | .text | .integer _ | .decimal => true
  | .quantity | .any => false
  | .choice names => decide names.Nodup
  | .optional inner => inner.isExact && !inner.mayBeNull
  | .list item => item.isExact
  | .record _ fields => fields.isExact && (fields.isShallow && decide fields.keys.Nodup)

/-- Whether each value of some fields is written in a way of its own. -/
def Fields.isExact : Fields → Bool
  | .nil => true
  | .cons _ _ shape rest => shape.isExact && rest.isExact
  | .embed group rest => group.isExact && rest.isExact

end

theorem Shape.isExact_record_iff {name : String} {fields : Fields} :
    (Shape.record name fields).isExact = true ↔
      fields.isExact = true ∧ fields.isShallow = true ∧ fields.keys.Nodup := by
  simp only [Shape.isExact, Bool.and_eq_true, decide_eq_true_eq]

mutual

/-- Whether some decimal in a value is a zero with a sign. -/
def Shape.hasSignedZero : (s : Shape) → s.Value → Bool
  | .text, _ => false
  | .integer _, _ => false
  | .decimal, d => Decimal.isSignedZero d
  | .quantity, d => Decimal.isSignedZero d
  | .choice _, _ => false
  | .any, _ => false
  | .optional _, none => false
  | .optional inner, some v => inner.hasSignedZero v
  | .list item, vs => List.any vs item.hasSignedZero
  | .record _ fields, v => fields.hasSignedZero v

/-- Whether some decimal in a tuple of field values is a zero with a sign. -/
def Fields.hasSignedZero : (fields : Fields) → fields.Value → Bool
  | .nil, _ => false
  | .cons _ _ shape rest, (v, vs) => shape.hasSignedZero v || rest.hasSignedZero vs
  | .embed group rest, (v, vs) => group.hasSignedZero v || rest.hasSignedZero vs

end

mutual

/-- The values of an exact shape hold no JSON values, so there is nothing in them to sort. -/
theorem Shape.sorted_eq_self : (s : Shape) → s.isExact = true → (v : s.Value) → s.sorted v = v
  | .text, _, _ => rfl
  | .integer _, _, _ => rfl
  | .decimal, _, _ => rfl
  | .quantity, _, _ => rfl
  | .choice _, _, _ => rfl
  | .any, h, _ => nomatch h
  | .optional inner, h, v => by
    rw [Shape.isExact, Bool.and_eq_true] at h
    cases v with
    | none => rfl
    | some v => exact congrArg some (inner.sorted_eq_self h.1 v)
  | .list item, h, vs =>
    (List.map_congr_left fun v _ => item.sorted_eq_self h v).trans (List.map_id vs)
  | .record _ fields, h, v => fields.sorted_eq_self (Shape.isExact_record_iff.mp h).1 v

theorem Fields.sorted_eq_self : (fields : Fields) → fields.isExact = true →
    (v : fields.Value) → fields.sorted v = v
  | .nil, _, _ => rfl
  | .cons _ _ shape rest, h, (v, vs) => by
    rw [Fields.isExact, Bool.and_eq_true] at h
    rw [Fields.sorted, shape.sorted_eq_self h.1, rest.sorted_eq_self h.2]
  | .embed group rest, h, (v, vs) => by
    rw [Fields.isExact, Bool.and_eq_true] at h
    rw [Fields.sorted, group.sorted_eq_self h.1, rest.sorted_eq_self h.2]

end

theorem Fields.sortedSlots_eq_self : (fields : Fields) → fields.isExact = true →
    (slots : fields.Slots) → fields.sortedSlots slots = slots
  | .nil, _, _ => rfl
  | .cons _ _ shape rest, h, (slot, slots) => by
    rw [Fields.isExact, Bool.and_eq_true] at h
    rw [Fields.sortedSlots, rest.sortedSlots_eq_self h.2, funext (shape.sorted_eq_self h.1),
      Option.map_id']
  | .embed _ rest, h, slots => by
    rw [Fields.isExact, Bool.and_eq_true] at h
    exact rest.sortedSlots_eq_self h.2 slots

/-! ## The members that are written -/

/-- Members are written under the keys of the fields, in their order and each at most once. -/
theorem Fields.map_fst_encode_sublist : (fields : Fields) → (v : fields.Value) →
    ((fields.encode v).map Prod.fst).Sublist fields.keys
  | .nil, _ => .slnil
  | .cons key _ _ rest, (_, vs) => by
    rw [Fields.encode, Fields.keys]
    split
    · exact (rest.map_fst_encode_sublist vs).cons key
    · exact (rest.map_fst_encode_sublist vs).cons_cons key
  | .embed group rest, (v, vs) => by
    rw [Fields.encode, Fields.keys, List.map_append]
    exact (group.map_fst_encode_sublist v).append (rest.map_fst_encode_sublist vs)

/-- No member is written under a key that no field has. -/
theorem Fields.valuesOf_encode_of_notMem {fields : Fields} {key : String}
    (h : key ∉ fields.keys) (v : fields.Value) : valuesOf key (fields.encode v) = [] :=
  valuesOf_of_notMem fun hkey => h ((fields.map_fst_encode_sublist v).subset hkey)

/-! ## Rearranging -/

/-- Whether a change of JSON values leaves all as it is but the order of members. -/
structure Json.IsRearrangement (f : Json → Json) : Prop where
  null : f .null = .null
  number (n : Json.Number) : f (.number n) = .number n
  string (s : String) : f (.string s) = .string s
  array (xs : List Json) : f (.array xs) = .array (xs.map f)
  object {ms : List (String × Json)} (h : (ms.map Prod.fst).Nodup) :
    ∃ ns, f (.object ms) = .object ns ∧ ∀ key, valuesOf key ns = (valuesOf key ms).map f

theorem Json.isRearrangement_id : Json.IsRearrangement id where
  null := rfl
  number _ := rfl
  string _ := rfl
  array xs := by rw [List.map_id]; rfl
  object _ := ⟨_, rfl, fun key => (List.map_id _).symm⟩

/-- Reading a value is putting its members in order. -/
theorem Json.isRearrangement_sorted : Json.IsRearrangement Json.sorted where
  null := rfl
  number _ := rfl
  string _ := rfl
  array xs := by rw [Json.sorted, Json.sortedItems_eq_map]
  object h := ⟨_, rfl, valuesOf_gathered h⟩

/-! ## Decoding what was encoded -/

theorem variant_get {names : List String} (h : names.Nodup) (i : Fin names.length) :
    Schema.variant names (names.get i) = .ok i := by
  have hfind : names.finIdxOf? (names.get i) = some i := by
    rw [List.finIdxOf?_eq_some_iff]
    refine ⟨rfl, fun j hj heq => ?_⟩
    exact absurd ((List.Nodup.get_inj_iff h).mp heq) (Fin.ne_of_lt hj)
  rw [Schema.variant, hfind]

theorem mapM_map_eq_ok {α β : Type} {write : α → β} {read : β → Except Mismatch α} {vs : List α}
    (h : ∀ v ∈ vs, read (write v) = .ok v) : (vs.map write).mapM read = .ok vs := by
  induction vs with
  | nil => rfl
  | cons v vs ih =>
    obtain ⟨hv, hvs⟩ := List.forall_mem_cons.mp h
    rw [List.map_cons, List.mapM_cons, Json.bind_of_ok hv, Json.bind_of_ok (ih hvs)]
    rfl

/-- An absent value is left out only where it is put back. -/
theorem Shape.takesOne_of_hidden {s : Shape} {presence : Presence} {v : s.Value}
    (h : (presence.hidesNone && s.isNone v) = true) : s.TakesOne presence [] v := by
  rw [Bool.and_eq_true] at h
  refine .absent ?_ ?_
  · cases presence with
    | optional | trailing => rfl
    | required | defaulted => cases h.1
  · cases s with
    | optional inner =>
      cases v with
      | none => rfl
      | some v => cases h.2
    | text | integer | decimal | quantity | choice | any | list | record => cases h.2

section

variable {f : Json → Json}

/-- Only what may be null is written as null. -/
theorem Json.IsRearrangement.encode_ne_null (hf : Json.IsRearrangement f) {s : Shape}
    (hs : s.isExact = true) (hnull : s.mayBeNull = false) (v : s.Value) :
    f (s.encode v) ≠ .null := by
  cases s with
  | text | decimal | choice =>
    rw [Shape.encode, hf.string]
    nofun
  | integer type =>
    rw [Shape.encode, Json.ofInt, hf.number]
    nofun
  | list item =>
    rw [Shape.encode, hf.array]
    nofun
  | record name fields =>
    obtain ⟨-, -, hkeys⟩ := Shape.isExact_record_iff.mp hs
    obtain ⟨ns, heq, -⟩ := hf.object (hkeys.sublist (fields.map_fst_encode_sublist v))
    rw [Shape.encode, heq]
    nofun
  | quantity => cases hs
  | optional | any => cases hnull

mutual

/-- **A value is found again in what it is encoded as**, whatever the order of members. -/
theorem Shape.decode_rearranged (hf : Json.IsRearrangement f) : (s : Shape) →
    s.isExact = true → (v : s.Value) → s.hasSignedZero v = false →
      s.decode (f (s.encode v)) = .ok v
  | .text, _, v, _ => by
    rw [Shape.encode, hf.string]
    rfl
  | .integer type, _, v, _ => by
    rw [Shape.encode, Json.ofInt, hf.number, Shape.decode, Schema.integerOfNumber,
      IntegerType.ofInt?_toInt]
  | .decimal, _, v, hv => by
    rw [Shape.encode, hf.string, Shape.decode, Schema.decimalOfJson, Schema.decimalOfText,
      (Decimal.ofText?_toText_iff v).mpr hv]
  | .quantity, hs, _, _ => nomatch hs
  | .choice names, hs, v, _ => by
    rw [Shape.encode, hf.string, Shape.decode, Schema.choiceOfJson]
    exact variant_get (of_decide_eq_true hs) v
  | .any, hs, _, _ => nomatch hs
  | .optional inner, hs, none, _ => by
    rw [Shape.encode, hf.null]
    rfl
  | .optional inner, hs, some v, hv => by
    rw [Shape.isExact, Bool.and_eq_true, Bool.not_eq_true'] at hs
    rw [Shape.encode, Shape.decode_optional (hf.encode_ne_null hs.1 hs.2 v),
      inner.decode_rearranged hf hs.1 v hv]
    rfl
  | .list item, hs, vs, hvs => by
    rw [Shape.hasSignedZero, List.any_eq_false] at hvs
    rw [Shape.encode, hf.array, List.map_map, Shape.decode]
    exact mapM_map_eq_ok fun v hv =>
      item.decode_rearranged hf hs v ((Bool.not_eq_true _).mp (hvs v hv))
  | .record name fields, hs, v, hv => by
    obtain ⟨hexact, hshallow, hkeys⟩ := Shape.isExact_record_iff.mp hs
    obtain ⟨ns, heq, hvalues⟩ := hf.object (hkeys.sublist (fields.map_fst_encode_sublist v))
    rw [Shape.encode, heq]
    refine Shape.decode_of_finds hshallow hkeys name ?_
    rw [funext hvalues]
    exact fields.finds_rearranged hf hexact hkeys v hv

theorem Fields.finds_rearranged (hf : Json.IsRearrangement f) : (fields : Fields) →
    fields.isExact = true → fields.keys.Nodup → (v : fields.Value) →
      fields.hasSignedZero v = false →
        fields.Finds (fun key => (valuesOf key (fields.encode v)).map f)
          (fun key => (valuesOf key (fields.encode v)).map f) v
  | .nil, _, _, _, _ => trivial
  | .cons key presence shape rest, hs, hkeys, (v, vs), hv => by
    rw [Fields.isExact, Bool.and_eq_true] at hs
    rw [Fields.keys, List.nodup_cons] at hkeys
    rw [Fields.hasSignedZero, Bool.or_eq_false_iff] at hv
    have hrest := rest.finds_rearranged hf hs.2 hkeys.2 vs hv.2
    have hnone := Fields.valuesOf_encode_of_notMem hkeys.1 vs
    rw [Fields.encode]
    split
    · next hhidden =>
      refine ⟨?_, hrest⟩
      show shape.TakesOne presence ((valuesOf key (rest.encode vs)).map f) v
      rw [hnone]
      exact Shape.takesOne_of_hidden hhidden
    · have hlook (k : String) (hk : k ∈ rest.keys) :
          (valuesOf k (rest.encode vs)).map f =
            (valuesOf k ((key, shape.encode v) :: rest.encode vs)).map f := by
        rw [valuesOf_cons_of_ne (ne_of_mem_of_not_mem hk hkeys.1).symm]
      refine ⟨?_, hrest.congr hlook hlook⟩
      show shape.TakesOne presence ((valuesOf key ((key, _) :: rest.encode vs)).map f) v
      rw [valuesOf_cons_self, hnone]
      exact .present (shape.decode_rearranged hf hs.1 v hv.1)
  | .embed group rest, hs, hkeys, (v, vs), hv => by
    rw [Fields.isExact, Bool.and_eq_true] at hs
    obtain ⟨hgroupKeys, hrestKeys, hdisjoint⟩ := List.nodup_append'.mp hkeys
    rw [Fields.hasSignedZero, Bool.or_eq_false_iff] at hv
    have hgroup := group.finds_rearranged hf hs.1 hgroupKeys v hv.1
    have hrest := rest.finds_rearranged hf hs.2 hrestKeys vs hv.2
    have hlookGroup (k : String) (hk : k ∈ group.keys) :
        (valuesOf k (group.encode v)).map f =
          (valuesOf k (group.encode v ++ rest.encode vs)).map f := by
      rw [valuesOf_append, Fields.valuesOf_encode_of_notMem (fun hk' => hdisjoint hk hk') vs,
        List.append_nil]
    have hlookRest (k : String) (hk : k ∈ rest.keys) :
        (valuesOf k (rest.encode vs)).map f =
          (valuesOf k (group.encode v ++ rest.encode vs)).map f := by
      rw [valuesOf_append, Fields.valuesOf_encode_of_notMem (fun hk' => hdisjoint hk' hk) v,
        List.nil_append]
    exact ⟨hgroup.congr hlookGroup hlookGroup, hrest.congr hlookRest hlookRest⟩

end

end

/-! ## What is written fits in a text -/

mutual

/-- How many containers may be open at once in a value of a shape. -/
def Shape.opens : Shape → Nat
  | .optional inner => inner.opens
  | .list item => item.opens + 1
  | .record _ fields => fields.opens + 1
  | .text | .integer _ | .decimal | .quantity | .choice _ | .any => 0

/-- How many containers may be open at once in the values of some fields. -/
def Fields.opens : Fields → Nat
  | .nil => 0
  | .cons _ _ shape rest => max shape.opens rest.opens
  | .embed group rest => max group.opens rest.opens

end

theorem isWhole_toInt (type : IntegerType) (n : type.Carrier) : IsWhole (type.toInt n) := by
  cases type with
  | signed64 =>
    have hle := Int64.le_toInt n
    have hlt := Int64.toInt_lt n
    show -0x8000000000000000 ≤ Int64.toInt n ∧ Int64.toInt n ≤ 0xFFFFFFFFFFFFFFFF
    omega
  | unsigned32 =>
    have hlt : UInt32.toNat n < 0x100000000 := UInt32.toNat_lt n
    show -0x8000000000000000 ≤ (UInt32.toNat n : Int) ∧ (UInt32.toNat n : Int) ≤ 0xFFFFFFFFFFFFFFFF
    omega

mutual

/-- A value of an exact shape is written without doubles and no deeper than the shape is. -/
theorem Shape.fitsIn_encode : (s : Shape) → s.isExact = true → {depth : Nat} →
    s.opens ≤ depth → (v : s.Value) → FitsIn depth (s.encode v)
  | .text, _, _, _, v => by
    rw [Shape.encode, FitsIn]
    trivial
  | .integer type, _, _, _, v => by
    rw [Shape.encode, Json.ofInt, FitsIn]
    exact isWhole_toInt type v
  | .decimal, _, _, _, v => by
    rw [Shape.encode, FitsIn]
    trivial
  | .quantity, h, _, _, _ => nomatch h
  | .choice names, _, _, _, v => by
    rw [Shape.encode, FitsIn]
    trivial
  | .any, h, _, _, _ => nomatch h
  | .optional inner, _, _, _, none => by
    rw [Shape.encode, FitsIn]
    trivial
  | .optional inner, h, _, hdepth, some v => by
    rw [Shape.isExact, Bool.and_eq_true] at h
    rw [Shape.encode]
    exact inner.fitsIn_encode h.1 hdepth v
  | .list item, h, depth, hdepth, vs => by
    cases depth with
    | zero => cases hdepth
    | succ depth =>
      rw [Shape.encode, FitsIn]
      intro x hx
      obtain ⟨v, -, rfl⟩ := List.mem_map.mp hx
      exact item.fitsIn_encode h (Nat.le_of_succ_le_succ hdepth) v
  | .record _ fields, h, depth, hdepth, v => by
    obtain ⟨hexact, -, -⟩ := Shape.isExact_record_iff.mp h
    cases depth with
    | zero => cases hdepth
    | succ depth =>
      rw [Shape.encode, FitsIn]
      exact fields.fitsIn_encode hexact (Nat.le_of_succ_le_succ hdepth) v

theorem Fields.fitsIn_encode : (fields : Fields) → fields.isExact = true → {depth : Nat} →
    fields.opens ≤ depth → (v : fields.Value) → ∀ m ∈ fields.encode v, FitsIn depth m.2
  | .nil, _, _, _, _ => nofun
  | .cons _ presence shape rest, h, _, hdepth, (v, vs) => by
    rw [Fields.isExact, Bool.and_eq_true] at h
    rw [Fields.opens, Nat.max_le] at hdepth
    have hrest := rest.fitsIn_encode h.2 hdepth.2 vs
    rw [Fields.encode]
    split
    · exact hrest
    · exact List.forall_mem_cons.mpr ⟨shape.fitsIn_encode h.1 hdepth.1 v, hrest⟩
  | .embed group rest, h, _, hdepth, (v, vs) => by
    rw [Fields.isExact, Bool.and_eq_true] at h
    rw [Fields.opens, Nat.max_le] at hdepth
    rw [Fields.encode, List.forall_mem_append]
    exact ⟨group.fitsIn_encode h.1 hdepth.1 v, rest.fitsIn_encode h.2 hdepth.2 vs⟩

end

end ExchangeClient

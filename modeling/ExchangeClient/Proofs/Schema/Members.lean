import ExchangeClient.Proofs.Json.Words
import ExchangeClient.Proofs.Schema.Sorted

/-!
# A record takes its members one by one

The decoder of records goes through the members of an object in their order and keeps a slot
for each field.  `Shape.decode_object_iff` says what comes of it without a word about the
order: each field takes the one member with its key, or what stands for an absent value, and
a key that is there twice is a fault.
-/

namespace ExchangeClient

open Json (Mismatch)

/-! ## One member after the other -/

/-- What a member of an object makes of the slots of some fields. -/
def Fields.storeMember (fields : Fields) (slots : fields.Slots) (m : String × Json) :
    Except Mismatch fields.Slots :=
  (fields.decodeMember m.1 m.2 slots).getD (.ok slots)

/-- The slots do not depend on the members that no field has. -/
theorem Fields.map_fst_storeAll (fields : Fields) (ms : List (String × Json))
    (slots : fields.Slots) :
    (Fields.storeAll (fun key j => fields.decodeMember key j) ms slots).map Prod.fst =
      ms.foldlM fields.storeMember slots := by
  induction ms generalizing slots with
  | nil => rfl
  | cons m ms ih =>
    obtain ⟨key, j⟩ := m
    rw [List.foldlM_cons, Fields.storeAll, Fields.storeMember]
    cases hstore : fields.decodeMember key j slots with
    | none =>
      show _ = List.foldlM fields.storeMember slots ms
      rw [← ih slots]
      dsimp only
      cases Fields.storeAll (fun key j => fields.decodeMember key j) ms slots <;> rfl
    | some r =>
      cases r with
      | error m => rfl
      | ok slots' => exact ih slots'

theorem Fields.build_others : (fields : Fields) → fields.isGroupFree = true →
    (slots : fields.Slots) → (others others' : List (String × Json)) →
    fields.build slots others = fields.build slots others'
  | .nil, _, _, _, _ => rfl
  | .cons _ _ shape rest, h, (slot, slots), others, others' => by
    rw [Fields.isGroupFree, Bool.and_eq_true] at h
    rw [Fields.build, Fields.build, rest.build_others h.2 slots others others']
  | .embed _ _, h, _, _, _ => nomatch h

/-- A record without embedded groups is decoded from an object member by member. -/
theorem Shape.decode_object {fields : Fields} (h : fields.isGroupFree = true) (name : String)
    (ms : List (String × Json)) :
    (Shape.record name fields).decode (.object ms) =
      ms.foldlM fields.storeMember fields.noSlots >>= fun slots =>
        Fields.unlessMissing (fields.missing? slots) (fields.build slots []) := by
  rw [Shape.decode, ← fields.map_fst_storeAll]
  cases Fields.storeAll (fun key j => fields.decodeMember key j) ms fields.noSlots with
  | error m => rfl
  | ok p =>
    show Fields.unlessMissing _ (fields.build p.1 p.2) = Fields.unlessMissing _ _
    rw [fields.build_others h p.1 p.2 []]

/-! ## The members with a key -/

/-- The values of the members with a key. -/
def valuesOf (key : String) (members : List (String × Json)) : List Json :=
  (members.filter fun m => m.1 = key).map Prod.snd

/-- The members with other keys. -/
def withoutKey (key : String) (members : List (String × Json)) : List (String × Json) :=
  members.filter fun m => m.1 ≠ key

section

variable {key : String} {m : String × Json} {ms : List (String × Json)}

theorem valuesOf_cons_of_eq (h : m.1 = key) : valuesOf key (m :: ms) = m.2 :: valuesOf key ms := by
  rw [valuesOf, List.filter_cons_of_pos (by simpa using h)]
  rfl

theorem valuesOf_cons_self (key : String) (j : Json) (ms : List (String × Json)) :
    valuesOf key ((key, j) :: ms) = j :: valuesOf key ms :=
  valuesOf_cons_of_eq (m := (key, j)) rfl

theorem valuesOf_cons_of_ne (h : m.1 ≠ key) : valuesOf key (m :: ms) = valuesOf key ms := by
  rw [valuesOf, List.filter_cons_of_neg (by simpa using h)]
  rfl

theorem withoutKey_cons_of_eq (h : m.1 = key) : withoutKey key (m :: ms) = withoutKey key ms :=
  List.filter_cons_of_neg (by simpa using h)

theorem withoutKey_cons_of_ne (h : m.1 ≠ key) :
    withoutKey key (m :: ms) = m :: withoutKey key ms :=
  List.filter_cons_of_pos (by simpa using h)

theorem valuesOf_withoutKey {other : String} (h : other ≠ key) :
    valuesOf other (withoutKey key ms) = valuesOf other ms := by
  induction ms with
  | nil => rfl
  | cons m ms ih =>
    by_cases hkey : m.1 = key
    · rw [withoutKey_cons_of_eq hkey, ih, valuesOf_cons_of_ne (hkey ▸ h.symm)]
    · rw [withoutKey_cons_of_ne hkey]
      by_cases hother : m.1 = other
      · rw [valuesOf_cons_of_eq hother, valuesOf_cons_of_eq hother, ih]
      · rw [valuesOf_cons_of_ne hother, valuesOf_cons_of_ne hother, ih]

theorem valuesOf_append (key : String) (ms ns : List (String × Json)) :
    valuesOf key (ms ++ ns) = valuesOf key ms ++ valuesOf key ns := by
  rw [valuesOf, List.filter_append, List.map_append]
  rfl

theorem valuesOf_of_notMem (h : key ∉ ms.map Prod.fst) : valuesOf key ms = [] := by
  rw [valuesOf, List.map_eq_nil_iff, List.filter_eq_nil_iff]
  intro m hm hkey
  exact h (List.mem_map.mpr ⟨m, hm, by simpa using hkey⟩)

/-- Where no key is repeated, a key has the value that looking it up gives. -/
theorem valuesOf_of_nodup (h : (ms.map Prod.fst).Nodup) (key : String) :
    valuesOf key ms = (ms.lookup key).toList := by
  induction ms with
  | nil => rfl
  | cons m ms ih =>
    obtain ⟨k, j⟩ := m
    rw [List.map_cons, List.nodup_cons] at h
    by_cases hkey : k = key
    · subst hkey
      rw [valuesOf_cons_self, valuesOf_of_notMem h.1, List.lookup_cons_self]
      rfl
    · have hne : (key == k) = false := by simpa using fun hk => hkey hk.symm
      rw [valuesOf_cons_of_ne hkey, ih h.2, List.lookup_cons, hne]

end

/-- What a field takes from the values of the members with its key. -/
inductive Shape.TakesOne (s : Shape) (presence : Presence) : List Json → s.Value → Prop
  | absent {v : s.Value} (hlack : presence.mayLackMember = true) (hv : s.absent? = some v) :
    TakesOne s presence [] v
  | present {j : Json} {v : s.Value} (hv : s.decode j = .ok v) : TakesOne s presence [j] v

@[simp] theorem Shape.takesOne_nil {s : Shape} {presence : Presence} {v : s.Value} :
    s.TakesOne presence [] v ↔ presence.mayLackMember = true ∧ s.absent? = some v := by
  constructor
  · rintro ⟨hlack, hv⟩
    exact ⟨hlack, hv⟩
  · rintro ⟨hlack, hv⟩
    exact .absent hlack hv

@[simp] theorem Shape.takesOne_singleton {s : Shape} {presence : Presence} {j : Json}
    {v : s.Value} : s.TakesOne presence [j] v ↔ s.decode j = .ok v := by
  constructor
  · rintro (_ | hv)
    exact hv
  · exact .present

/-- What some fields take from the members of an object. -/
def Fields.Takes : (fields : Fields) → List (String × Json) → fields.Value → Prop
  | .nil, _, _ => True
  | .cons key presence shape rest, ms, (v, vs) =>
    shape.TakesOne presence (valuesOf key ms) v ∧ rest.Takes (withoutKey key ms) vs
  | .embed _ _, _, _ => False

/-! ## Filling the slots -/

/-- A slot that is filled with some values, one after the other, ends empty or with the only
value there is. -/
theorem foldlM_fill_eq_ok_iff {shape : Shape} {key : String} {js : List Json}
    {slot : Option shape.Value} :
    js.foldlM (fun slot j => Fields.fill key slot (shape.decode j)) none = .ok slot ↔
      (js = [] ∧ slot = none) ∨ ∃ j v, js = [j] ∧ shape.decode j = .ok v ∧ slot = some v := by
  have hfull (v : shape.Value) (js : List Json) (slot : Option shape.Value) :
      js.foldlM (fun slot j => Fields.fill key slot (shape.decode j)) (some v) = .ok slot ↔
        js = [] ∧ slot = some v := by
    cases js with
    | nil =>
      show Except.ok (some v) = Except.ok slot ↔ _
      simp [eq_comm]
    | cons j js =>
      show Except.error _ = Except.ok slot ↔ _
      simp
  cases js with
  | nil =>
    show Except.ok none = Except.ok slot ↔ _
    simp [eq_comm]
  | cons j js =>
    rw [List.foldlM_cons, Fields.fill]
    cases hdecode : shape.decode j with
    | error m =>
      show Except.error m = Except.ok slot ↔ _
      simp [hdecode]
    | ok v =>
      show js.foldlM _ (some v) = Except.ok slot ↔ _
      rw [hfull]
      constructor
      · rintro ⟨rfl, rfl⟩
        exact .inr ⟨j, v, rfl, hdecode, rfl⟩
      · rintro (⟨hnil, _⟩ | ⟨_, w, hsingle, hw, rfl⟩)
        · cases hnil
        · cases hsingle
          rw [hdecode] at hw
          cases hw
          exact ⟨rfl, rfl⟩

/-- Where there are no fields, no member does anything. -/
theorem foldlM_storeMember_nil (ms : List (String × Json)) :
    ms.foldlM Fields.nil.storeMember () = .ok () := by
  induction ms with
  | nil => rfl
  | cons m ms ih => exact ih

/-- The first of some fields fills its slot with the members that have its key, and the other
fields fill theirs with the members that have not. -/
theorem foldlM_storeMember_cons {key : String} {presence : Presence} {shape : Shape}
    {rest : Fields} {ms : List (String × Json)} {slot slot' : Option shape.Value}
    {slots slots' : rest.Slots} :
    ms.foldlM (Fields.cons key presence shape rest).storeMember (slot, slots) =
        .ok (slot', slots') ↔
      (valuesOf key ms).foldlM (fun slot j => Fields.fill key slot (shape.decode j)) slot =
          .ok slot' ∧
        (withoutKey key ms).foldlM rest.storeMember slots = .ok slots' := by
  induction ms generalizing slot slots with
  | nil =>
    show Except.ok (slot, slots) = Except.ok (slot', slots') ↔ _
    simp [valuesOf, withoutKey, pure, Except.pure]
  | cons m ms ih =>
    rw [List.foldlM_cons, Fields.storeMember]
    by_cases hkey : m.1 = key
    · rw [valuesOf_cons_of_eq hkey, withoutKey_cons_of_eq hkey, Fields.decodeMember, if_pos hkey,
        Option.getD_some, List.foldlM_cons]
      cases Fields.fill key slot (shape.decode m.2) with
      | error e =>
        show Except.error e = Except.ok _ ↔ Except.error e = Except.ok _ ∧ _
        simp
      | ok slot₁ => exact ih
    · rw [valuesOf_cons_of_ne hkey, withoutKey_cons_of_ne hkey, Fields.decodeMember, if_neg hkey,
        List.foldlM_cons, Fields.storeMember]
      cases rest.decodeMember m.1 m.2 slots with
      | none => exact ih
      | some r =>
        cases r with
        | error e =>
          show Except.error e = Except.ok _ ↔ _ ∧ Except.error e = Except.ok _
          simp
        | ok slots₁ => exact ih

/-! ## A whole record -/

theorem Shape.takesOne_iff {s : Shape} {presence : Presence} {key : String} {js : List Json}
    {v : s.Value} : s.TakesOne presence js v ↔ ∃ slot,
      js.foldlM (fun slot j => Fields.fill key slot (s.decode j)) none = .ok slot ∧
        (slot.isNone && !(presence.mayLackMember && s.absent?.isSome)) = false ∧
        slot.or s.absent? = some v := by
  simp only [foldlM_fill_eq_ok_iff]
  constructor
  · rintro (⟨hlack, hv⟩ | hv)
    · refine ⟨none, .inl ⟨rfl, rfl⟩, ?_, hv⟩
      rw [hlack, hv]
      rfl
    · exact ⟨some v, .inr ⟨_, v, rfl, hv, rfl⟩, rfl, rfl⟩
  · rintro ⟨slot, ⟨rfl, rfl⟩ | ⟨j, w, rfl, hw, rfl⟩, hmissing, hv⟩
    · have hlack : presence.mayLackMember = true ∧ s.absent?.isSome = true := by
        simpa using hmissing
      exact .absent hlack.1 hv
    · cases hv
      exact .present hw

theorem Fields.takes_iff : (fields : Fields) → fields.isGroupFree = true →
    (ms : List (String × Json)) → (v : fields.Value) →
    (fields.Takes ms v ↔ ∃ slots, ms.foldlM fields.storeMember fields.noSlots = .ok slots ∧
      fields.missing? slots = none ∧ fields.build slots [] = .ok v)
  | .nil, _, ms, _ => ⟨fun _ => ⟨(), foldlM_storeMember_nil ms, rfl, rfl⟩, fun _ => trivial⟩
  | .cons key presence shape rest, h, ms, (v, vs) => by
    rw [Fields.isGroupFree, Bool.and_eq_true] at h
    rw [Fields.Takes, Shape.takesOne_iff, rest.takes_iff h.2]
    constructor
    · rintro ⟨⟨slot, hfill, hlack, hv⟩, slots, hstore, hmissing, hbuild⟩
      refine ⟨(slot, slots), foldlM_storeMember_cons.mpr ⟨hfill, hstore⟩, ?_, ?_⟩
      · rw [Fields.missing?, if_neg (by rw [hlack]; exact Bool.false_ne_true), hmissing]
      · rw [Fields.build, hv]
        dsimp only
        rw [hbuild]
        rfl
    · rintro ⟨⟨slot, slots⟩, hstore, hmissing, hbuild⟩
      obtain ⟨hfill, hstore⟩ := foldlM_storeMember_cons.mp hstore
      rw [Fields.missing?] at hmissing
      split at hmissing
      · cases hmissing
      · next hlack =>
        rw [Bool.not_eq_true] at hlack
        rw [Fields.build] at hbuild
        split at hbuild
        · cases hbuild
        · next w hw =>
          obtain ⟨ws, hws, hvalue⟩ := Json.ok_of_map hbuild
          cases hvalue
          exact ⟨⟨slot, hfill, hlack, hw⟩, slots, hstore, hmissing, hws⟩
  | .embed _ _, h, _, _ => nomatch h

/-- **A record takes its members one by one.**  An object is decoded as a record exactly if
every field can take its value from the members with its key. -/
theorem Shape.decode_object_iff {fields : Fields} (h : fields.isGroupFree = true) (name : String)
    (ms : List (String × Json)) (v : fields.Value) :
    (Shape.record name fields).decode (.object ms) = .ok v ↔ fields.Takes ms v := by
  rw [Shape.decode_object h, fields.takes_iff h]
  constructor
  · intro hdecode
    obtain ⟨slots, hslots, hbuild⟩ := Json.ok_of_bind hdecode
    cases hmissing : fields.missing? slots with
    | some key => rw [hmissing] at hbuild; cases hbuild
    | none => rw [hmissing] at hbuild; exact ⟨slots, hslots, hmissing, hbuild⟩
  · rintro ⟨slots, hslots, hmissing, hbuild⟩
    rw [Json.bind_of_ok hslots, hmissing]
    exact hbuild

end ExchangeClient

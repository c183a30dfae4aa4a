import ExchangeClient.Proofs.Schema.Groups
import ExchangeClient.Proofs.Schema.Seeing
import Mathlib.Data.List.Perm.Basic
import Mathlib.Logic.Relation

/-!
# Revisions of a text

What an exchange sends changes over the years: the members of an object come in another order,
there are members that nobody has heard of, and others are no longer there.  `Shape.Revised` is
one such change, at one place of a value, as the shape of the value finds that place: an object is
changed where a record is asked for, and in the part of a text that nobody looks at there is
nothing to change.

**A revision keeps what a text decodes to**, `Shape.Revised.decode_ok`, up to what stands in for a
member that is left out.  Which members may be left out is a parameter, and so is how close a
decimal has to stay; if none may be, the value is just the same.

The members of an object are taken by key, so only the change of the first member has to be
followed: any other place is a permutation away.
-/

namespace ExchangeClient

open Json (Source Padded Member)

/-! ## Values that resemble each other -/

mutual

/-- Whether two values are the same but for their decimals, and those are close. -/
def Shape.Resembles (close : Decimal → Decimal → Prop) : (s : Shape) → s.Value → s.Value → Prop
  | .decimal, d, e => close d e
  | .quantity, d, e => close d e
  | .optional inner, v, w => Option.Rel (inner.Resembles close) v w
  | .list item, vs, ws => List.Forall₂ (item.Resembles close) vs ws
  | .record _ fields, v, w => fields.Resembles close v w
  | .text, v, w => v = w
  | .integer _, v, w => v = w
  | .choice _, v, w => v = w
  | .any, v, w => v = w

/-- Whether two tuples of field values are the same but for their decimals, and those are close. -/
def Fields.Resembles (close : Decimal → Decimal → Prop) :
    (fields : Fields) → fields.Value → fields.Value → Prop
  | .nil, _, _ => True
  | .cons _ _ shape rest, (v, vs), (w, ws) => shape.Resembles close v w ∧ rest.Resembles close vs ws
  | .embed group rest, (v, vs), (w, ws) => group.Resembles close v w ∧ rest.Resembles close vs ws

end

section

variable {close : Decimal → Decimal → Prop}

mutual

theorem Shape.resembles_self (h : ∀ d, close d d) : (s : Shape) → (v : s.Value) →
    s.Resembles close v v
  | .decimal, d | .quantity, d => h d
  | .optional _, none => .none
  | .optional inner, some v => .some (inner.resembles_self h v)
  | .list item, _ => List.forall₂_same.mpr fun v _ => item.resembles_self h v
  | .record _ fields, v => fields.resembles_self h v
  | .text, _ | .integer _, _ | .choice _, _ | .any, _ => rfl

theorem Fields.resembles_self (h : ∀ d, close d d) : (fields : Fields) → (v : fields.Value) →
    fields.Resembles close v v
  | .nil, _ => trivial
  | .cons _ _ shape rest, (v, vs) => ⟨shape.resembles_self h v, rest.resembles_self h vs⟩
  | .embed group rest, (v, vs) => ⟨group.resembles_self h v, rest.resembles_self h vs⟩

end

/-- What relates each item of a list to one of the next list and that to one of a third. -/
theorem forall₂_trans {α : Type} {r : α → α → Prop} (hr : ∀ x y z, r x y → r y z → r x z)
    {xs ys zs : List α} (hxy : List.Forall₂ r xs ys) (hyz : List.Forall₂ r ys zs) :
    List.Forall₂ r xs zs := by
  induction hxy generalizing zs with
  | nil => exact hyz
  | cons hx _ ih =>
    cases hyz with
    | cons hy hys => exact .cons (hr _ _ _ hx hy) (ih hys)

mutual

theorem Shape.resembles_trans (h : ∀ c d e, close c d → close d e → close c e) : (s : Shape) →
    {u v w : s.Value} → s.Resembles close u v → s.Resembles close v w → s.Resembles close u w
  | .decimal, _, _, _, huv, hvw | .quantity, _, _, _, huv, hvw => h _ _ _ huv hvw
  | .optional inner, _, _, _, huv, hvw => by
    cases huv with
    | none => exact hvw
    | some huv =>
      cases hvw with
      | some hvw => exact .some (inner.resembles_trans h huv hvw)
  | .list item, _, _, _, huv, hvw =>
    forall₂_trans (r := item.Resembles close) (fun _ _ _ => item.resembles_trans h) huv hvw
  | .record _ fields, _, _, _, huv, hvw => fields.resembles_trans h huv hvw
  | .text, _, _, _, huv, hvw | .integer _, _, _, _, huv, hvw | .choice _, _, _, _, huv, hvw
  | .any, _, _, _, huv, hvw => Eq.trans huv hvw

theorem Fields.resembles_trans (h : ∀ c d e, close c d → close d e → close c e) :
    (fields : Fields) → {u v w : fields.Value} → fields.Resembles close u v →
    fields.Resembles close v w → fields.Resembles close u w
  | .nil, _, _, _, _, _ => trivial
  | .cons _ _ shape rest, (_, _), (_, _), (_, _), huv, hvw =>
    ⟨shape.resembles_trans h huv.1 hvw.1, rest.resembles_trans h huv.2 hvw.2⟩
  | .embed group rest, (_, _), (_, _), (_, _), huv, hvw =>
    ⟨group.resembles_trans h huv.1 hvw.1, rest.resembles_trans h huv.2 hvw.2⟩

end

end

mutual

/-- Where close decimals are equal, values that resemble each other are. -/
theorem Shape.eq_of_resembles : (s : Shape) → {v w : s.Value} → s.Resembles Eq v w → v = w
  | .decimal, _, _, h | .quantity, _, _, h => h
  | .optional inner, _, _, h => by
    cases h with
    | none => rfl
    | some h => rw [inner.eq_of_resembles h]
  | .list item, _, _, h => by
    refine List.forall₂_eq_eq_eq ▸ h.imp fun _ _ hv => ?_
    exact item.eq_of_resembles hv
  | .record _ fields, _, _, h => fields.eq_of_resembles h
  | .text, _, _, h | .integer _, _, _, h | .choice _, _, _, h | .any, _, _, h => h

theorem Fields.eq_of_resembles : (fields : Fields) → {v w : fields.Value} →
    fields.Resembles Eq v w → v = w
  | .nil, _, _, _ => rfl
  | .cons _ _ shape rest, (_, _), (_, _), h => by
    rw [shape.eq_of_resembles h.1, rest.eq_of_resembles h.2]
  | .embed group rest, (_, _), (_, _), h => by
    rw [group.eq_of_resembles h.1, rest.eq_of_resembles h.2]

end

/-! ## The field with a key -/

/-- The presence and the shape of the field with a key. -/
def Fields.field? : (fields : Fields) → (key : String) → Option (Presence × Shape)
  | .nil, _ => none
  | .cons k presence shape rest, key => if key = k then some (presence, shape) else rest.field? key
  | .embed _ rest, key => rest.field? key

/-- The shape of the field that an item at a place is read as. -/
def Fields.shapeAt? : (fields : Fields) → (index : Nat) → Option Shape
  | .cons _ _ shape _, 0 => some shape
  | .cons _ _ _ rest, index + 1 => rest.shapeAt? index
  | _, _ => none

section

variable {key : String} {presence : Presence} {shape : Shape}

theorem Fields.isPlain_of_field : {fields : Fields} → fields.isPlain = true →
    fields.field? key = some (presence, shape) → shape.isPlain = true
  | .cons k _ _ rest, hs, h => by
    rw [Fields.isPlain, Bool.and_eq_true] at hs
    rw [Fields.field?] at h
    split at h
    · cases h
      exact hs.1
    · exact Fields.isPlain_of_field hs.2 h

theorem Fields.isPlain_of_shapeAt : {fields : Fields} → fields.isPlain = true → {index : Nat} →
    fields.shapeAt? index = some shape → shape.isPlain = true
  | .cons _ _ _ _, hs, 0, h => by
    rw [Fields.isPlain, Bool.and_eq_true] at hs
    cases h
    exact hs.1
  | .cons _ _ _ _, hs, _ + 1, h => by
    rw [Fields.isPlain, Bool.and_eq_true] at hs
    exact Fields.isPlain_of_shapeAt hs.2 h

/-- The value of a member is seen as its field sees it. -/
theorem Fields.seenMember_of_field (depth : Nat) (t : Source) : (fields : Fields) →
    fields.field? key = some (presence, shape) →
    fields.seenMember depth key t = shape.seen depth t
  | .cons _ _ _ rest, h => by
    rw [Fields.field?] at h
    rw [Fields.seenMember]
    split at h
    · next hkey =>
      cases h
      rw [if_pos hkey]
    · next hkey => rw [if_neg hkey, rest.seenMember_of_field depth t h]
  | .embed _ rest, h => rest.seenMember_of_field depth t h

end

/-! ## Members that are taken -/

section

variable {key : String} {j : Json}

theorem withoutKey_append (key : String) (ms ns : List (String × Json)) :
    withoutKey key (ms ++ ns) = withoutKey key ms ++ withoutKey key ns :=
  List.filter_append ms ns

theorem valuesOf_map_mk (key other : String) (js : List Json) :
    valuesOf other (js.map fun j => (key, j)) = if key = other then js else [] := by
  by_cases h : key = other <;> simp [valuesOf, List.filter_map, Function.comp_def, h]

theorem withoutKey_map_mk (key other : String) (js : List Json) :
    withoutKey other (js.map fun j => (key, j)) =
      if key = other then [] else js.map fun j => (key, j) := by
  by_cases h : key = other <;> simp [withoutKey, List.filter_map, Function.comp_def, h]

theorem Shape.TakesOne.perm {s : Shape} {presence : Presence} {js ks : List Json} {v : s.Value}
    (h : s.TakesOne presence js v) (hperm : js.Perm ks) : s.TakesOne presence ks v := by
  cases h with
  | absent hlack hv =>
    rw [List.nil_perm.mp hperm]
    exact .absent hlack hv
  | present hv =>
    rw [← List.singleton_perm.mp hperm]
    exact .present hv

/-- A record takes the same from its members in another order. -/
theorem Fields.Takes.perm : {fields : Fields} → {ms ns : List (String × Json)} →
    {v : fields.Value} → fields.Takes ms v → ms.Perm ns → fields.Takes ns v
  | .nil, _, _, _, _, _ => trivial
  | .cons key _ _ _, _, _, (_, _), h, hperm =>
    ⟨h.1.perm (valuesOf_perm hperm key), h.2.perm (hperm.filter _)⟩
  | .embed _ _, _, _, _, h, _ => h.elim

/-- A record takes nothing from a member that no field has. -/
theorem Fields.takes_cons_of_notMem : {fields : Fields} → {ms : List (String × Json)} →
    {v : fields.Value} → key ∉ fields.keys → (fields.Takes ((key, j) :: ms) v ↔ fields.Takes ms v)
  | .nil, _, _, _ => Iff.rfl
  | .cons k _ shape rest, ms, (v, vs), h => by
    rw [Fields.keys, List.mem_cons, not_or] at h
    rw [Fields.Takes, Fields.Takes, valuesOf_cons_of_ne (m := (key, j)) h.1,
      withoutKey_cons_of_ne (m := (key, j)) h.1, rest.takes_cons_of_notMem h.2]
  | .embed _ _, _, _, _ => Iff.rfl

/-- Where the member of a field gives way to others with its key, the record takes from them what
the field does. -/
theorem Fields.Takes.revise {close : Decimal → Decimal → Prop} (hclose : ∀ d, close d d)
    (js : List Json) {presence : Presence} {shape : Shape} : {fields : Fields} →
    {ms : List (String × Json)} → {v : fields.Value} → fields.field? key = some (presence, shape) →
    (∀ w, shape.decode j = .ok w →
      ∃ w', shape.TakesOne presence js w' ∧ shape.Resembles close w w') →
    fields.Takes ((key, j) :: ms) v →
    ∃ v', fields.Takes ((js.map fun j => (key, j)) ++ ms) v' ∧ fields.Resembles close v v'
  | .cons k p s rest, ms, (v, vs), hfield, hrevise, h => by
    rw [Fields.field?] at hfield
    by_cases hkey : key = k
    · subst hkey
      rw [if_pos rfl] at hfield
      cases hfield
      obtain ⟨htakes, hrest⟩ := h
      rw [valuesOf_cons_self] at htakes
      rw [withoutKey_cons_of_eq (m := (key, j)) rfl] at hrest
      -- A field that takes a member has no other with its key.
      generalize hothers : valuesOf key ms = others at htakes
      cases htakes with
      | present hv =>
        obtain ⟨w', hw', hresembles⟩ := hrevise v hv
        refine ⟨(w', vs), ⟨?_, ?_⟩, hresembles, rest.resembles_self hclose vs⟩
        · rw [valuesOf_append, valuesOf_map_mk, if_pos rfl, hothers, List.append_nil]
          exact hw'
        · rw [withoutKey_append, withoutKey_map_mk, if_pos rfl]
          exact hrest
    · rw [if_neg hkey] at hfield
      obtain ⟨htakes, hrest⟩ := h
      rw [valuesOf_cons_of_ne (m := (key, j)) hkey] at htakes
      rw [withoutKey_cons_of_ne (m := (key, j)) hkey] at hrest
      obtain ⟨vs', hvs', hresembles⟩ := Fields.Takes.revise hclose js hfield hrevise hrest
      refine ⟨(v, vs'), ⟨?_, ?_⟩, s.resembles_self hclose v, hresembles⟩
      · rw [valuesOf_append, valuesOf_map_mk, if_neg hkey]
        exact htakes
      · rw [withoutKey_append, withoutKey_map_mk, if_neg hkey]
        exact hvs'
  | .embed _ _, _, _, _, _, h => h.elim

end

/-! ## Members that are seen -/

/-- What some fields take from the members of an object, as far as they see them. -/
def Fields.TakesSeen (fields : Fields) (depth : Nat) (members : List (Member Source))
    (v : fields.Value) : Prop :=
  ∃ seen, members.mapM (Member.seen fun key t => fields.seenMember depth key t) = some seen ∧
    fields.Takes seen v

section

variable {fields : Fields} {depth : Nat} {m : Member Source} {ms ns : List (Member Source)}
  {v : fields.Value}

theorem Shape.decode_seen_object_iff (hs : fields.isGroupFree = true) (name : String)
    (space : Json.Space) (v : fields.Value) :
    (Shape.record name fields).decode
        ((Shape.record name fields).seen depth (.object ms space)) = .ok v ↔
      ∃ d, depth = d + 1 ∧ fields.TakesSeen d ms v := by
  cases depth with
  | zero =>
    constructor
    · intro h
      cases h
    · rintro ⟨d, hd, -⟩
      cases hd
  | succ depth =>
    rw [Shape.seen, Json.seenMembers]
    cases hseen : ms.mapM (Member.seen fun key t => fields.seenMember depth key t) with
    | none =>
      constructor
      · intro h
        cases h
      · rintro ⟨_, hd, seen, hsome, -⟩
        cases hd
        rw [hseen] at hsome
        cases hsome
    | some seen =>
      dsimp only
      rw [Shape.decode_object_iff hs]
      constructor
      · intro h
        exact ⟨depth, rfl, seen, hseen, h⟩
      · rintro ⟨_, hd, seen', hsome, h⟩
        cases hd
        rw [hseen] at hsome
        cases hsome
        exact h

theorem Fields.TakesSeen.perm (h : fields.TakesSeen depth ms v) (hperm : ms.Perm ns) :
    fields.TakesSeen depth ns v := by
  obtain ⟨seen, hseen, htakes⟩ := h
  obtain ⟨seen', hseen', hperm'⟩ := List.perm_comp_forall₂ hperm.symm (mapM_eq_some_iff.mp hseen)
  exact ⟨seen', mapM_eq_some_iff.mpr hseen', htakes.perm hperm'.symm⟩

/-- The first member is seen if its key can be read. -/
theorem Fields.takesSeen_cons_iff : fields.TakesSeen depth (m :: ms) v ↔
    ∃ key seen, m.key.text? = some key ∧
      ms.mapM (Member.seen fun key t => fields.seenMember depth key t) = some seen ∧
      fields.Takes ((key, fields.seenMember depth key m.value.value) :: seen) v := by
  simp only [Fields.TakesSeen, mapM_eq_some_iff, List.forall₂_cons_left_iff, Member.seen,
    Option.map_eq_some_iff]
  constructor
  · rintro ⟨_, ⟨_, seen, ⟨key, hkey, rfl⟩, hseen, rfl⟩, htakes⟩
    exact ⟨key, seen, hkey, hseen, htakes⟩
  · rintro ⟨key, seen, hkey, hseen, htakes⟩
    exact ⟨_, ⟨_, seen, ⟨key, hkey, rfl⟩, hseen, rfl⟩, htakes⟩

end

/-! ## Revisions -/

/-- One change of a value, at a place where its shape looks.  `mayDrop` says of the shape of a
field and of the value of its member whether the member may be left out. -/
inductive Shape.Revised (mayDrop : Shape → Source → Prop) : Shape → Source → Source → Prop
  /-- The members of an object come in another order. -/
  | permuted {name : String} {fields : Fields} {ms ns : List (Member Source)} {space : Json.Space}
    (h : ms.Perm ns) :
    Revised mayDrop (.record name fields) (.object ms space) (.object ns space)
  /-- A member is added, anywhere, whose key can be read and is no field's. -/
  | added {name : String} {fields : Fields} {ms ns : List (Member Source)} {space : Json.Space}
    {m : Member Source} {key : String} (hkey : m.key.text? = some key)
    (hforeign : key ∉ fields.keys) :
    Revised mayDrop (.record name fields) (.object (ms ++ ns) space) (.object (ms ++ m :: ns) space)
  /-- The member of a field is left out. -/
  | dropped {name : String} {fields : Fields} {ms ns : List (Member Source)} {space : Json.Space}
    {m : Member Source} {key : String} {presence : Presence} {shape : Shape}
    (hkey : m.key.text? = some key) (hfield : fields.field? key = some (presence, shape))
    (hlack : presence.mayLackMember = true) (hdrop : mayDrop shape m.value.value) :
    Revised mayDrop (.record name fields) (.object (ms ++ m :: ns) space) (.object (ms ++ ns) space)
  /-- The value of a field's member is changed. -/
  | member {name : String} {fields : Fields} {ms ns : List (Member Source)} {space : Json.Space}
    {m : Member Source} {key : String} {presence : Presence} {shape : Shape} {t : Source}
    (hkey : m.key.text? = some key) (hfield : fields.field? key = some (presence, shape))
    (h : Revised mayDrop shape m.value.value t) :
    Revised mayDrop (.record name fields) (.object (ms ++ m :: ns) space)
      (.object (ms ++ { m with value := { m.value with value := t } } :: ns) space)
  /-- An item is changed of a record that is written as the list of its fields. -/
  | element {name : String} {fields : Fields} {xs zs : List (Padded Source)} {space : Json.Space}
    {x : Padded Source} {shape : Shape} {t : Source}
    (hshape : fields.shapeAt? xs.length = some shape) (h : Revised mayDrop shape x.value t) :
    Revised mayDrop (.record name fields) (.array (xs ++ x :: zs) space)
      (.array (xs ++ { x with value := t } :: zs) space)
  /-- An item of a list is changed. -/
  | item {shape : Shape} {xs zs : List (Padded Source)} {space : Json.Space} {x : Padded Source}
    {t : Source} (h : Revised mayDrop shape x.value t) :
    Revised mayDrop (.list shape) (.array (xs ++ x :: zs) space)
      (.array (xs ++ { x with value := t } :: zs) space)
  /-- A value is changed that need not be there. -/
  | optional {inner : Shape} {t t' : Source} (h : Revised mayDrop inner t t') :
    Revised mayDrop (.optional inner) t t'

/-- Whether what may be left out resembles what stands in for it. -/
def HasStandIns (close : Decimal → Decimal → Prop) (mayDrop : Shape → Source → Prop) : Prop :=
  ∀ (s : Shape) (t : Source), mayDrop s t → ∀ (depth : Nat) (v : s.Value),
    s.decode (s.seen depth t) = .ok v → ∃ w, s.absent? = some w ∧ s.Resembles close v w

section

variable {close : Decimal → Decimal → Prop} {mayDrop : Shape → Source → Prop} {s : Shape}
  {t t' : Source}

/-- Containers are changed, so neither null is nor does anything become null. -/
theorem Shape.Revised.ne_null (h : s.Revised mayDrop t t') : t ≠ .null ∧ t' ≠ .null := by
  induction h with
  | optional _ ih => exact ih
  | permuted | added | dropped | member | element | item => simp

/-- Where one item is converted to something else, the list is. -/
theorem mapM_revise {α β ε : Type} {r : β → β → Prop} (hr : ∀ y, r y y) {f : α → Except ε β}
    {x x' : α} (hx : ∀ y, f x = .ok y → ∃ y', f x' = .ok y' ∧ r y y') {xs zs : List α}
    {ys : List β} (h : (xs ++ x :: zs).mapM f = .ok ys) :
    ∃ ys', (xs ++ x' :: zs).mapM f = .ok ys' ∧ List.Forall₂ r ys ys' := by
  induction xs generalizing ys with
  | nil =>
    rw [List.nil_append, List.mapM_cons] at h
    obtain ⟨y, hy, h⟩ := Json.ok_of_bind h
    obtain ⟨ys, hys, heq⟩ := Json.ok_of_bind h
    cases heq
    obtain ⟨y', hy', hyy'⟩ := hx y hy
    refine ⟨y' :: ys, ?_, .cons hyy' (List.forall₂_same.mpr fun y _ => hr y)⟩
    rw [List.nil_append, List.mapM_cons, Json.bind_of_ok hy', Json.bind_of_ok hys]
    rfl
  | cons x₁ xs ih =>
    rw [List.cons_append, List.mapM_cons] at h
    obtain ⟨y, hy, h⟩ := Json.ok_of_bind h
    obtain ⟨ys, hys, heq⟩ := Json.ok_of_bind h
    cases heq
    obtain ⟨ys', hys', hall⟩ := ih hys
    refine ⟨y :: ys', ?_, .cons (hr y) hall⟩
    rw [List.cons_append, List.mapM_cons, Json.bind_of_ok hy, Json.bind_of_ok hys']
    rfl

theorem Fields.length_seenItems (depth : Nat) : (fields : Fields) → (items : List (Padded Source)) →
    (fields.seenItems depth items).length = items.length
  | .cons _ _ _ rest, _ :: items => congrArg (· + 1) (rest.length_seenItems depth items)
  | .cons _ _ _ _, [] => rfl
  | .nil, _ | .embed _ _, _ => List.length_map _

/-- Where one item is converted to something else, the record is. -/
theorem Fields.decodeItems_revise (hclose : ∀ d, close d d) {shape : Shape} {depth : Nat}
    {x x' : Padded Source} (label : String) (given : Nat)
    (hx : ∀ w, shape.decode (shape.seen depth x.value) = .ok w →
      ∃ w', shape.decode (shape.seen depth x'.value) = .ok w' ∧ shape.Resembles close w w') :
    {fields : Fields} → {xs zs : List (Padded Source)} → {index : Nat} → {v : fields.Value} →
    fields.shapeAt? xs.length = some shape →
    fields.decodeItems label given index (fields.seenItems depth (xs ++ x :: zs)) = .ok v →
    ∃ v', fields.decodeItems label given index (fields.seenItems depth (xs ++ x' :: zs)) = .ok v' ∧
      fields.Resembles close v v'
  | .cons _ _ s rest, [], zs, index, _, hshape, h => by
    cases hshape
    rw [List.nil_append, Fields.seenItems, Fields.decodeItems] at h ⊢
    obtain ⟨w, hw, h⟩ := Json.ok_of_bind h
    obtain ⟨ws, hws, heq⟩ := Json.ok_of_bind h
    cases heq
    obtain ⟨w', hw', hresembles⟩ := hx w hw
    refine ⟨(w', ws), ?_, hresembles, rest.resembles_self hclose ws⟩
    rw [Json.bind_of_ok hw', Json.bind_of_ok hws]
    rfl
  | .cons _ _ s rest, x₁ :: xs, zs, index, _, hshape, h => by
    rw [List.cons_append, Fields.seenItems, Fields.decodeItems] at h ⊢
    obtain ⟨w, hw, h⟩ := Json.ok_of_bind h
    obtain ⟨ws, hws, heq⟩ := Json.ok_of_bind h
    cases heq
    have hshape : rest.shapeAt? xs.length = some shape := hshape
    obtain ⟨ws', hws', hresembles⟩ := Fields.decodeItems_revise hclose label given hx hshape hws
    refine ⟨(w, ws'), ?_, s.resembles_self hclose w, hresembles⟩
    rw [Json.bind_of_ok hw, Json.bind_of_ok hws']
    rfl

/-- **A revision keeps what a text decodes to**, up to what stands in for a member that is left
out. -/
theorem Shape.Revised.decode_ok (hclose : ∀ d, close d d) (hdrop : HasStandIns close mayDrop)
    (h : s.Revised mayDrop t t') (hs : s.isPlain = true) {depth : Nat} {v : s.Value}
    (hv : s.decode (s.seen depth t) = .ok v) :
    ∃ v', s.decode (s.seen depth t') = .ok v' ∧ s.Resembles close v v' := by
  induction h generalizing depth with
  | @permuted name fields ms ns space h =>
    have hfree := fields.isGroupFree_of_isPlain hs
    obtain ⟨d, hd, htakes⟩ := (Shape.decode_seen_object_iff hfree name space v).mp hv
    exact ⟨v, (Shape.decode_seen_object_iff hfree name space v).mpr ⟨d, hd, htakes.perm h⟩,
      fields.resembles_self hclose v⟩
  | @added name fields ms ns space m key hkey hforeign =>
    have hfree := fields.isGroupFree_of_isPlain hs
    obtain ⟨d, hd, seen, hseen, htakes⟩ := (Shape.decode_seen_object_iff hfree name space v).mp hv
    have hadded : fields.TakesSeen d (m :: (ms ++ ns)) v :=
      Fields.takesSeen_cons_iff.mpr ⟨key, seen, hkey, hseen,
        (Fields.takes_cons_of_notMem hforeign).mpr htakes⟩
    exact ⟨v, (Shape.decode_seen_object_iff hfree name space v).mpr
      ⟨d, hd, hadded.perm List.perm_middle.symm⟩, fields.resembles_self hclose v⟩
  | @dropped name fields ms ns space m key presence shape hkey hfield hlack hmay =>
    have hfree := fields.isGroupFree_of_isPlain hs
    obtain ⟨d, hd, htakes⟩ := (Shape.decode_seen_object_iff hfree name space v).mp hv
    obtain ⟨key', seen, hkey', hseen, htakes⟩ :=
      Fields.takesSeen_cons_iff.mp (htakes.perm List.perm_middle)
    rw [hkey] at hkey'
    cases hkey'
    obtain ⟨v', htakes', hresembles⟩ := Fields.Takes.revise hclose [] hfield (fun w hw => by
      rw [fields.seenMember_of_field d _ hfield] at hw
      obtain ⟨w', hw', hww'⟩ := hdrop shape _ hmay d w hw
      exact ⟨w', .absent hlack hw', hww'⟩) htakes
    exact ⟨v', (Shape.decode_seen_object_iff hfree name space v').mpr
      ⟨d, hd, seen, hseen, htakes'⟩, hresembles⟩
  | @member name fields ms ns space m key presence shape t hkey hfield h ih =>
    have hfree := fields.isGroupFree_of_isPlain hs
    obtain ⟨d, hd, htakes⟩ := (Shape.decode_seen_object_iff hfree name space v).mp hv
    obtain ⟨key', seen, hkey', hseen, htakes⟩ :=
      Fields.takesSeen_cons_iff.mp (htakes.perm List.perm_middle)
    rw [hkey] at hkey'
    cases hkey'
    obtain ⟨v', htakes', hresembles⟩ :=
      Fields.Takes.revise hclose [shape.seen d t] hfield (fun w hw => by
        rw [fields.seenMember_of_field d _ hfield] at hw
        obtain ⟨w', hw', hww'⟩ := ih (Fields.isPlain_of_field hs hfield) hw
        exact ⟨w', .present hw', hww'⟩) htakes
    have hrevised : fields.TakesSeen d
        ({ m with value := { m.value with value := t } } :: (ms ++ ns)) v' := by
      refine Fields.takesSeen_cons_iff.mpr ⟨key, seen, hkey, hseen, ?_⟩
      rw [fields.seenMember_of_field d t hfield]
      exact htakes'
    exact ⟨v', (Shape.decode_seen_object_iff hfree name space v').mpr
      ⟨d, hd, hrevised.perm List.perm_middle.symm⟩, hresembles⟩
  | @element name fields xs zs space x shape t hshape h ih =>
    have hgroup := fields.hasGroup_of_isGroupFree (fields.isGroupFree_of_isPlain hs)
    cases depth with
    | zero => cases hv
    | succ depth =>
      have hlength : (fields.seenItems depth (xs ++ { x with value := t } :: zs)).length =
          (fields.seenItems depth (xs ++ x :: zs)).length := by
        simp only [Fields.length_seenItems, List.length_append, List.length_cons]
      rw [Shape.decode_seen_array hgroup] at hv ⊢
      rw [hlength]
      exact Fields.decodeItems_revise hclose _ _
        (fun w hw => ih (Fields.isPlain_of_shapeAt hs hshape) hw) hshape hv
  | @item shape xs zs space x t h ih =>
    cases depth with
    | zero => cases hv
    | succ depth =>
      rw [Shape.decode_seen_list] at hv ⊢
      exact mapM_revise (f := fun x : Padded Source => shape.decode (shape.seen depth x.value))
        (shape.resembles_self hclose) (fun w hw => ih hs hw) hv
  | @optional inner t t' h ih =>
    have hne := h.ne_null
    rw [Shape.seen, Shape.decode_optional (inner.seen_ne_null hne.1 depth)] at hv
    rw [Shape.seen, Shape.decode_optional (inner.seen_ne_null hne.2 depth)]
    obtain ⟨w, hw, rfl⟩ := Json.ok_of_map hv
    obtain ⟨w', hw', hresembles⟩ := ih hs hw
    exact ⟨some w', by rw [hw']; rfl, .some hresembles⟩

end

end ExchangeClient

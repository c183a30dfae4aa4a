import ExchangeClient.Proofs.Json.Keys
import ExchangeClient.Proofs.Schema.Reading

/-!
# Converting a value that has been read

A value that has been read has its members sorted.  Where no key is repeated, a shape finds
the same in it as in the value as it was written (`Shape.alike_sorted`): a record looks for
the member with a key and not for its place, and everything else is sorted from within.

With this the two decoders of whole texts are the same (`Shape.ofText_eq_ok_iff`): reading a
text into a shape, and reading it as any JSON value and converting that.
-/

namespace ExchangeClient

open Json (DecodeError Mismatch)

/-! ## Conversions that come to the same -/

/-- Two conversions come to the same value up to a change, or both fail, not necessarily for
the same reason. -/
inductive Alike {α β : Type} (f : α → β) : Except Mismatch α → Except Mismatch β → Prop
  | ok (v : α) : Alike f (.ok v) (.ok (f v))
  | error (m m' : Mismatch) : Alike f (.error m) (.error m')

namespace Alike

variable {α β γ δ : Type} {f : α → β} {g : γ → δ} {r : Except Mismatch α} {r' : Except Mismatch β}

theorem of_eq {f : α → α} (hf : ∀ v, f v = v) (r : Except Mismatch α) : Alike f r r := by
  cases r with
  | ok v =>
    have hv : Alike f (.ok v) (.ok (f v)) := .ok v
    rwa [hf] at hv
  | error m => exact .error m m

theorem bind (h : Alike f r r') {k : α → Except Mismatch γ} {k' : β → Except Mismatch δ}
    (hk : ∀ v, Alike g (k v) (k' (f v))) : Alike g (r >>= k) (r' >>= k') := by
  cases h with
  | ok v => exact hk v
  | error m m' => exact .error m m'

theorem map (h : Alike f r r') {k : α → γ} {k' : β → δ} (hk : ∀ v, k' (f v) = g (k v)) :
    Alike g (r.map k) (r'.map k') := by
  cases h with
  | ok v =>
    show Alike g (.ok (k v)) (.ok (k' (f v)))
    rw [hk]
    exact .ok (k v)
  | error m m' => exact .error m m'

/-- The second comes to just the values that the first comes to, changed. -/
theorem eq_ok_iff (h : Alike f r r') {w : β} : r' = .ok w ↔ ∃ v, r = .ok v ∧ f v = w := by
  cases h with
  | ok v => simp
  | error m m' => simp

theorem of_eq_ok_iff (h : ∀ w, r' = .ok w ↔ ∃ v, r = .ok v ∧ f v = w) : Alike f r r' := by
  cases r with
  | ok v =>
    rw [(h (f v)).mpr ⟨v, rfl, rfl⟩]
    exact .ok v
  | error m =>
    cases r' with
    | ok w =>
      obtain ⟨v, hv, -⟩ := (h w).mp rfl
      cases hv
    | error m' => exact .error m m'

end Alike

/-! ## Members that have been read -/

theorem valuesOf_perm {ms ns : List (String × Json)} (h : ms.Perm ns) (key : String) :
    (valuesOf key ms).Perm (valuesOf key ns) :=
  (h.filter _).map _

theorem valuesOf_sortedMembers (key : String) (ms : List (String × Json)) :
    valuesOf key (Json.sortedMembers ms) = (valuesOf key ms).map Json.sorted := by
  rw [Json.sortedMembers_eq_map]
  simp [valuesOf, List.filter_map, Function.comp_def]

/-- Where no key is repeated, sorting leaves each key its value. -/
theorem valuesOf_gathered {ms : List (String × Json)} (h : (ms.map Prod.fst).Nodup)
    (key : String) : valuesOf key (Json.gathered ms) = (valuesOf key ms).map Json.sorted := by
  have hperm := valuesOf_perm (Json.gathered_perm h) key
  rw [← Json.sortedMembers_eq_map, valuesOf_sortedMembers, valuesOf_of_nodup h] at hperm
  rw [valuesOf_of_nodup h]
  generalize ms.lookup key = found at hperm ⊢
  cases found with
  | none => exact List.perm_nil.mp hperm
  | some j => exact List.perm_singleton.mp hperm

theorem valuesOf_withoutKey_self (key : String) (ms : List (String × Json)) :
    valuesOf key (withoutKey key ms) = [] := by
  simp [valuesOf, withoutKey, List.filter_filter]

theorem mem_of_mem_valuesOf {key : String} {ms : List (String × Json)} {j : Json}
    (h : j ∈ valuesOf key ms) : (key, j) ∈ ms := by
  rw [valuesOf, List.mem_map] at h
  obtain ⟨⟨k, j'⟩, hfilter, rfl⟩ := h
  obtain ⟨hm, hkey⟩ := List.mem_filter.mp hfilter
  obtain rfl : k = key := by simpa using hkey
  exact hm

theorem membersKeyed_withoutKey (key : String) {ms : List (String × Json)}
    (h : Json.MembersKeyed ms) : Json.MembersKeyed (withoutKey key ms) :=
  Json.membersKeyed_iff.mpr fun m hm => Json.membersKeyed_iff.mp h m (List.mem_filter.mp hm).1

/-! ## Simple values -/

theorem Shape.alike_choice (names : List String) {j : Json} (h : j.IsKeyed) :
    Alike (fun v => v) (Schema.choiceOfJson names j) (Schema.choiceOfJson names j.sorted) := by
  cases j with
  | string s => exact .of_eq (fun _ => rfl) _
  | null | bool | number | array => exact .error _ _
  | object ms =>
    rw [Json.sorted]
    rcases ms with _ | ⟨⟨key, value⟩, _ | ⟨m', rest⟩⟩
    · exact .error _ _
    · have hunit :
          Alike (fun v => v) (Schema.unitOfJson value) (Schema.unitOfJson value.sorted) := by
        cases value with
        | null => exact .ok ()
        | bool | number | string | array | object => exact .error _ _
      have hname : Alike (fun v => v) (Schema.variant names key) (Schema.variant names key) :=
        .of_eq (fun _ => rfl) _
      exact hname.bind fun i => hunit.bind fun _ => .ok i
    · -- An object of several members has as many when it is sorted.
      have hlength := (Json.gathered_perm h.1).length_eq
      rw [Json.gathered] at hlength
      generalize Json.sortMembers (Json.sortedMembers ((key, value) :: m' :: rest)) = ns at hlength
      rcases ns with _ | ⟨n, _ | ⟨n', ns⟩⟩
      · simp at hlength
      · simp at hlength
      · exact .error _ _

theorem Shape.alike_decimal (j : Json) :
    Alike (fun v => v) (Schema.decimalOfJson j) (Schema.decimalOfJson j.sorted) := by
  cases j with
  | number | string => exact .of_eq (fun _ => rfl) _
  | null | bool | array | object => exact .error _ _

theorem Json.sorted_ne_null {j : Json} (h : j ≠ .null) : j.sorted ≠ .null := by
  cases j with
  | null => exact absurd rfl h
  | bool | number | string | array | object => exact nofun

/-- A field takes the same from values that were sorted. -/
theorem Shape.takesOne_map_sorted_iff {s : Shape} {presence : Presence} {js : List Json}
    (h : ∀ j ∈ js, Alike s.sorted (s.decode j) (s.decode j.sorted)) {w : s.Value} :
    s.TakesOne presence (js.map Json.sorted) w ↔
      ∃ v, s.TakesOne presence js v ∧ s.sorted v = w := by
  match js, h with
  | [], _ =>
    rw [List.map_nil, Shape.takesOne_nil]
    constructor
    · rintro ⟨hlack, hw⟩
      exact ⟨w, .absent hlack hw, Shape.sorted_of_absent? hw⟩
    · rintro ⟨v, hv, rfl⟩
      obtain ⟨hlack, hv⟩ := Shape.takesOne_nil.mp hv
      rw [Shape.sorted_of_absent? hv]
      exact ⟨hlack, hv⟩
  | [j], h =>
    simp only [List.map_cons, List.map_nil, Shape.takesOne_singleton]
    exact (h j (List.mem_singleton_self j)).eq_ok_iff
  | _ :: _ :: _, _ =>
    constructor
    · rintro ⟨⟩
    · rintro ⟨v, ⟨⟩, -⟩

theorem Alike.mapM {α β : Type} {f : α → β} {convert : Json → Except Mismatch α}
    {convert' : Json → Except Mismatch β} {xs : List Json}
    (h : ∀ x ∈ xs, Alike f (convert x) (convert' x.sorted)) :
    Alike (List.map f) (xs.mapM convert) ((xs.map Json.sorted).mapM convert') := by
  induction xs with
  | nil => exact .ok []
  | cons x xs ih =>
    obtain ⟨hx, hxs⟩ := List.forall_mem_cons.mp h
    rw [List.map_cons, List.mapM_cons, List.mapM_cons]
    exact hx.bind fun v => (ih hxs).bind fun vs => .ok (v :: vs)

/-! ## All shapes -/

mutual

/-- **A value that has been read converts to what the value as it is written converts to**, if
no key is repeated. -/
theorem Shape.alike_sorted : (s : Shape) → s.isGroupFree = true → ∀ {j : Json}, j.IsKeyed →
    Alike s.sorted (s.decode j) (s.decode j.sorted)
  | .text, _, j, _ => by
    cases j with
    | string text => exact .ok text
    | null | bool | number | array | object => exact .error _ _
  | .integer type, _, j, _ => by
    cases j with
    | number n => exact .of_eq (fun _ => rfl) (Schema.integerOfNumber type n)
    | null | bool | string | array | object => exact .error _ _
  | .decimal, _, j, _ => by
    rw [Shape.decode, Shape.decode]
    exact Shape.alike_decimal j
  | .quantity, _, j, _ => by
    rw [Shape.decode, Shape.decode]
    exact Shape.alike_decimal j
  | .choice names, _, j, h => by
    rw [Shape.decode, Shape.decode]
    exact Shape.alike_choice names h
  | .any, _, j, _ => .ok j
  | .optional inner, hs, j, h => by
    by_cases hj : j = .null
    · subst hj
      exact .ok none
    · rw [Shape.decode_optional hj, Shape.decode_optional (Json.sorted_ne_null hj)]
      exact (inner.alike_sorted hs h).map fun _ => rfl
  | .list item, hs, j, h => by
    cases j with
    | array items =>
      rw [Json.sorted, Json.sortedItems_eq_map]
      have hitems := Json.itemsKeyed_iff.mp h
      exact Alike.mapM fun x hx => item.alike_sorted hs (hitems x hx)
    | null | bool | number | string | object => exact .error _ _
  | .record name fields, hs, j, h => by
    cases j with
    | object ms =>
      refine .of_eq_ok_iff fun w => ?_
      have hvalues := valuesOf_gathered h.1
      rw [Json.sorted, Shape.decode_object_iff hs]
      simp only [Shape.decode_object_iff hs]
      exact fields.takes_sorted_iff hs h.2 hvalues
    | array items =>
      have hgroup := fields.hasGroup_of_isGroupFree hs
      rw [Json.sorted, Json.sortedItems_eq_map, Shape.decode, Shape.decode, hgroup,
        List.length_map]
      exact fields.alike_decodeItems hs _ _ 0 h
    | null | bool | number | string => exact .error _ _

theorem Fields.takes_sorted_iff : (fields : Fields) → fields.isGroupFree = true →
    ∀ {ms ns : List (String × Json)}, Json.MembersKeyed ms →
      (∀ key, valuesOf key ns = (valuesOf key ms).map Json.sorted) → ∀ {w : fields.Value},
        fields.Takes ns w ↔ ∃ v, fields.Takes ms v ∧ fields.sorted v = w
  | .nil, _, ms, ns, _, _, w => ⟨fun _ => ⟨(), trivial, rfl⟩, fun _ => trivial⟩
  | .cons key presence shape rest, hs, ms, ns, hms, hvalues, (w, ws) => by
    rw [Fields.isGroupFree, Bool.and_eq_true] at hs
    have hfirst : shape.TakesOne presence (valuesOf key ns) w ↔
        ∃ v, shape.TakesOne presence (valuesOf key ms) v ∧ shape.sorted v = w := by
      rw [hvalues]
      exact Shape.takesOne_map_sorted_iff fun j hj =>
        shape.alike_sorted hs.1 (Json.membersKeyed_iff.mp hms _ (mem_of_mem_valuesOf hj))
    have hrest : rest.Takes (withoutKey key ns) ws ↔
        ∃ vs, rest.Takes (withoutKey key ms) vs ∧ rest.sorted vs = ws := by
      refine rest.takes_sorted_iff hs.2 (membersKeyed_withoutKey key hms) fun other => ?_
      by_cases hother : other = key
      · rw [hother, valuesOf_withoutKey_self, valuesOf_withoutKey_self, List.map_nil]
      · rw [valuesOf_withoutKey hother, valuesOf_withoutKey hother, hvalues]
    rw [Fields.Takes, hfirst, hrest]
    constructor
    · rintro ⟨⟨v, hv, rfl⟩, vs, hvs, rfl⟩
      exact ⟨(v, vs), ⟨hv, hvs⟩, rfl⟩
    · rintro ⟨⟨v, vs⟩, ⟨hv, hvs⟩, heq⟩
      cases heq
      exact ⟨⟨v, hv, rfl⟩, vs, hvs, rfl⟩
  | .embed _ _, hs, _, _, _, _, _ => nomatch hs

theorem Fields.alike_decodeItems : (fields : Fields) → fields.isGroupFree = true →
    ∀ (label : String) (given index : Nat) {xs : List Json}, Json.ItemsKeyed xs →
      Alike fields.sorted (fields.decodeItems label given index xs)
        (fields.decodeItems label given index (xs.map Json.sorted))
  | .nil, _, label, given, index, xs, _ => by
    cases xs with
    | nil => exact .ok ()
    | cons x xs => exact .error _ _
  | .cons _ presence shape rest, hs, label, given, index, xs, hxs => by
    rw [Fields.isGroupFree, Bool.and_eq_true] at hs
    cases xs with
    | nil =>
      have hrest := rest.alike_decodeItems hs.2 label given (index + 1) hxs
      rw [List.map_nil, Fields.decodeItems]
      split
      · exact .error _ _
      · next v hv =>
        have hsorted : shape.sorted v = v := by
          split at hv
          · exact Shape.sorted_of_absent? hv
          · cases hv
        refine hrest.map fun vs => ?_
        rw [Fields.sorted, hsorted]
    | cons x xs =>
      rw [List.map_cons, Fields.decodeItems, Fields.decodeItems]
      exact (shape.alike_sorted hs.1 hxs.1).bind fun v =>
        (rest.alike_decodeItems hs.2 label given (index + 1) hxs.2).bind fun vs => .ok (v, vs)
  | .embed _ _, hs, _, _, _, _, _ => nomatch hs

end

/-! ## Whole texts -/

/-- **Reading a text into a shape and converting the value of the text come to the same**, up
to the order of members in the JSON values that the result holds, if no key is repeated. -/
theorem Shape.ofText_eq_ok_iff (s : Shape) (hs : s.isGroupFree = true) {text : String} {j : Json}
    (h : Json.writtenOfText text = .ok j) (hkeyed : j.IsKeyed) (v : s.Value) :
    s.ofText text = .ok v ↔
      ∃ message, Json.ofText text = .ok message ∧ s.decode message = .ok v := by
  obtain ⟨hok, herror⟩ := s.ofText_of_written hs h
  have hmessage : Json.ofText text = .ok j.sorted := by
    rw [Json.ofText_eq_map_sorted, h]
    rfl
  rw [hmessage]
  simp only [Except.ok.injEq, exists_eq_left']
  rw [(s.alike_sorted hs hkeyed).eq_ok_iff]
  cases hdecode : s.decode j with
  | ok w =>
    rw [hok w hdecode]
    simp
  | error m =>
    obtain ⟨e, he⟩ := herror m hdecode
    rw [he]
    simp

end ExchangeClient

import ExchangeClient.Proofs.Schema.Seen
import Mathlib.Data.List.Forall2

/-!
# Readers see what their shapes see

`Shape.agrees_seen` says that reading a text into a shape comes to what converting the part comes
to that the shape sees of it.  So whether a text decodes, and to what, depends on what is seen of
it and on nothing else, `Shape.ofText_document`.

The loops over items and members are followed first, `agrees_items_seen` and
`agrees_members_seen`; the induction is on the shape.
-/

namespace ExchangeClient

open Json (DecodeError Mismatch Input Reader Source Padded Member Space Quoted EndsNumber listed
  skipSpace expectColon readItems readMembers skipValue)

/-! ## Loops -/

theorem length_le_listed (ws : List (List Char)) (first : Bool) :
    ws.length ≤ (listed first ws).length + 1 := by
  induction ws generalizing first with
  | nil => exact Nat.zero_le _
  | cons w ws ih =>
    have htail : ws.length ≤ (listed false ws).length := by
      cases ws with
      | nil => exact Nat.zero_le _
      | cons w' ws =>
        have := ih true
        simp only [listed, List.length_cons, List.length_append] at this ⊢
        omega
    cases first <;> simp only [listed, List.length_cons, List.length_append] <;> omega

section

variable {cs : Input} {space : Space} {rest : Input}

theorem skipSpace_listed_nil {c : Char} (hc : Json.isSpace c = false) (first : Bool) :
    skipSpace (listed first [] ++ (space.val ++ c :: rest)) = c :: rest := by
  rw [listed]
  exact Json.skipSpace_space_cons space hc rest

/-- A loop over items agrees with the conversion of what is seen if it does so for each. -/
theorem agrees_items_seen {β : Type} (typed : Reader β) (convert : Source → Except Mismatch β)
    {items : List (Padded Source)}
    (h : ∀ x ∈ items, ∀ cs rest, skipSpace cs = x.value.chars ++ rest → EndsNumber rest →
      Agrees rest (typed cs) (convert x.value))
    {turns : Nat} (hturns : items.length < turns) {first : Bool}
    (hcs : skipSpace cs =
      skipSpace (listed first (items.map Padded.chars) ++ (space.val ++ ']' :: rest))) :
    Agrees rest (readItems typed turns first cs) (items.mapM fun x => convert x.value) := by
  induction items generalizing turns first cs with
  | nil =>
    obtain ⟨turns, rfl⟩ := Nat.exists_eq_succ_of_ne_zero (Nat.ne_of_gt hturns)
    rw [List.map_nil, skipSpace_listed_nil (by decide)] at hcs
    rw [readItems, hcs]
    exact .ok []
  | cons x items ih =>
    obtain ⟨hx, hitems⟩ := List.forall_mem_cons.mp h
    obtain ⟨turns, rfl⟩ := Nat.exists_eq_succ_of_ne_zero (Nat.ne_zero_of_lt hturns)
    have hend := Json.endsNumber_listed (items.map Padded.chars) space
      (show ']' ∈ [',', ']', '}'] by decide) rest
    have hturn (cs' : Input) (hcs' : skipSpace cs' = x.value.chars ++ (x.after.val ++
        (listed false (items.map Padded.chars) ++ (space.val ++ ']' :: rest)))) :
        Agrees rest (Json.readItem typed (readItems typed turns false) cs')
          ((x :: items).mapM fun x => convert x.value) := by
      rw [List.mapM_cons]
      exact (hx _ _ hcs' (hend.space x.after)).bind fun v =>
        (ih hitems (Nat.lt_of_succ_lt_succ hturns) (Json.skipSpace_space _ _)).bind fun vs =>
          .ok (v :: vs)
    cases first with
    | true =>
      obtain ⟨c, tail, hc, -, hclosing, -⟩ := x.value.exists_cons
      rw [List.map_cons, listed, List.append_assoc, x.skipSpace_append] at hcs
      have hitem := hturn _ (x.value.skipSpace_append _)
      rw [hc, List.cons_append] at hcs hitem
      rw [readItems, hcs]
      dsimp only
      rw [if_neg hclosing, if_pos rfl]
      exact hitem
    | false =>
      rw [List.map_cons, listed, List.cons_append, List.append_assoc,
        Json.skipSpace_cons (by decide)] at hcs
      rw [readItems, hcs]
      exact hturn _ (x.skipSpace_append _)

/-- A loop over members agrees with the storing of what is seen if it does so for each.  A key
that cannot be read ends both. -/
theorem agrees_members_seen {σ τ : Type} {member : String → σ → Reader σ}
    {store : τ → Member Source → Except Mismatch τ} {f : τ → σ} {members : List (Member Source)}
    (hkey : ∀ m ∈ members, m.key.text? = none → ∀ t, ∃ e, store t m = .error e)
    (hmember : ∀ m ∈ members, ∀ key, m.key.text? = some key → ∀ t cs₁ cs₂ rest,
      expectColon cs₁ = .ok cs₂ → skipSpace cs₂ = m.value.value.chars ++ rest → EndsNumber rest →
        Agrees rest (member key (f t) cs₁) ((store t m).map f))
    {turns : Nat} (hturns : members.length < turns) {first : Bool}
    (hcs : skipSpace cs =
      skipSpace (listed first (members.map Member.chars) ++ (space.val ++ '}' :: rest))) (t : τ) :
    Agrees rest (readMembers member turns first (f t) cs) ((members.foldlM store t).map f) := by
  induction members generalizing turns first cs t with
  | nil =>
    obtain ⟨turns, rfl⟩ := Nat.exists_eq_succ_of_ne_zero (Nat.ne_of_gt hturns)
    rw [List.map_nil, skipSpace_listed_nil (by decide)] at hcs
    rw [readMembers, hcs]
    exact .ok (f t)
  | cons m members ih =>
    obtain ⟨hkey₁, hkeys⟩ := List.forall_mem_cons.mp hkey
    obtain ⟨hm, hmembers⟩ := List.forall_mem_cons.mp hmember
    obtain ⟨turns, rfl⟩ := Nat.exists_eq_succ_of_ne_zero (Nat.ne_zero_of_lt hturns)
    have hend := Json.endsNumber_listed (members.map Member.chars) space
      (show '}' ∈ [',', ']', '}'] by decide) rest
    generalize htail :
      listed false (members.map Member.chars) ++ (space.val ++ '}' :: rest) = tail at hend
    have hturn : Agrees rest
        (Json.readMember member (readMembers member turns false) (f t) (m.tail ++ tail))
        (((m :: members).foldlM store t).map f) := by
      have hread := readString_member m tail
      have hmap : ((m :: members).foldlM store t).map f =
          store t m >>= fun t => (members.foldlM store t).map f := by
        rw [List.foldlM_cons]
        cases store t m <;> rfl
      rw [hmap, Json.readMember, hread]
      cases hs : Json.Glyph.decode m.key.glyphs with
      | none =>
        obtain ⟨e, he⟩ := hkey₁ (by rw [Quoted.text?, hs]; rfl) t
        rw [he]
        exact .error _ _
      | some s =>
        have hvalue := hm (String.ofList s) (by rw [Quoted.text?, hs]; rfl) t _ _ _
          (Json.expectColon_space m.beforeColon _) (m.value.skipSpace_append tail)
          (hend.space m.value.after)
        refine hvalue.bind_map fun t' => ih hkeys hmembers (Nat.lt_of_succ_lt_succ hturns) ?_ t'
        rw [Json.skipSpace_space, htail]
    cases first with
    | true =>
      rw [List.map_cons, listed, List.append_assoc, htail, m.skipSpace_append] at hcs
      rw [readMembers, hcs]
      exact hturn
    | false =>
      rw [List.map_cons, listed, List.cons_append, List.append_assoc, htail,
        Json.skipSpace_cons (by decide)] at hcs
      rw [readMembers, hcs]
      dsimp only
      rw [if_neg (by decide), if_neg (by decide), if_pos rfl, m.skipSpace_append]
      exact hturn

end

/-! ## Null -/

/-- Only null starts with its letter. -/
theorem Json.Source.eq_null_of_skipSpace (t : Source) {rest tail : Input}
    (h : t.chars ++ rest = 'n' :: tail) : t = .null := by
  cases t with
  | null => rfl
  | bool b => cases b <;> cases h
  | string | array | object => cases h
  | number n =>
    obtain ⟨c, cs, hcs, hc⟩ := n.exists_cons
    rw [chars, hcs] at h
    cases h
    cases hc

theorem Json.Source.seen_ne_null {t : Source} (h : t ≠ .null) : t.seen ≠ .null := by
  cases t with
  | null => exact absurd rfl h
  | bool | array | object => simp [seen]
  | string q =>
    rw [seen]
    cases q.text? <;> simp [Json.unreadable]
  | number n =>
    rw [seen]
    cases n.read <;> simp [Json.unreadable]

theorem Json.seenMembers_ne_null (see : String → Source → Json) (members : List (Member Source)) :
    Json.seenMembers see members ≠ .null := by
  rw [Json.seenMembers]
  split <;> simp [Json.unreadable]

/-- Null is seen as null, whatever is asked for. -/
theorem Shape.seen_null : (s : Shape) → (depth : Nat) → s.seen depth .null = .null
  | .optional inner, depth => inner.seen_null depth
  | .text, _ | .integer _, _ | .decimal, _ | .quantity, _ | .choice _, _ | .any, _ | .list _, _
  | .record _ _, _ => rfl

theorem Shape.seen_ne_null {t : Source} (h : t ≠ .null) :
    (s : Shape) → (depth : Nat) → s.seen depth t ≠ .null
  | .optional inner, depth => inner.seen_ne_null h depth
  | .text, _ | .integer _, _ | .decimal, _ | .quantity, _ | .any, _ => Source.seen_ne_null h
  | .choice _, depth => by
    cases t with
    | object members =>
      cases depth with
      | zero => simp [Shape.seen, Source.seenByChoice, Json.unreadable]
      | succ depth => exact Json.seenMembers_ne_null _ members
    | null | bool | string | number | array => exact Source.seen_ne_null h
  | .list item, depth => by
    cases t with
    | array items =>
      cases depth with
      | zero => simp [Shape.seen, Json.unreadable]
      | succ depth => simp [Shape.seen]
    | null | bool | string | number | object => exact Source.seen_ne_null h
  | .record _ fields, depth => by
    cases t with
    | object members =>
      cases depth with
      | zero => simp [Shape.seen, Json.unreadable]
      | succ depth => exact Json.seenMembers_ne_null _ members
    | array items =>
      cases depth with
      | zero => simp [Shape.seen, Json.unreadable]
      | succ depth => simp [Shape.seen]
    | null | bool | string | number => exact Source.seen_ne_null h

/-! ## Records from objects -/

/-- What a reader of a record knows of a member agrees with what the record makes of what is
seen of it. -/
def Fields.SeesMembers (fields : Fields) (depth : Nat) : Prop :=
  ∀ (cs₁ cs₂ : Input) (t : Source) (rest : Input) (key : String) (slots : fields.Slots),
    expectColon cs₁ = .ok cs₂ → skipSpace cs₂ = t.chars ++ rest → EndsNumber rest →
    Option.Rel (fun read d => Agrees rest (read cs₁) d) (fields.readMember key depth slots)
      (fields.decodeMember key (fields.seenMember depth key t) slots)

/-- Stores what is seen of a member.  A key that cannot be read is a fault of some kind. -/
def Fields.storeSeen (fields : Fields) (depth : Nat) (slots : fields.Slots) (m : Member Source) :
    Except Mismatch fields.Slots :=
  match m.seen fun key t => fields.seenMember depth key t with
  | some p => fields.storeMember slots p
  | none => .error (.kind .map "")

section

variable {fields : Fields} {depth : Nat}

theorem Fields.SeesMembers.nil : Fields.nil.SeesMembers depth :=
  fun _ _ _ _ _ _ _ _ _ => .none

/-- A field reads the member with its key, and the other fields read theirs. -/
theorem Fields.SeesMembers.cons {k : String} {presence : Presence} {shape : Shape}
    {others : Fields}
    (hshape : ∀ {cs t rest}, skipSpace cs = Source.chars t ++ rest → EndsNumber rest →
      Agrees rest (shape.read depth cs) (shape.decode (shape.seen depth t)))
    (hothers : others.SeesMembers depth) :
    (Fields.cons k presence shape others).SeesMembers depth := by
  intro cs₁ cs₂ t rest key (slot, slots) hcolon hvalue hrest
  rw [Fields.readMember, Fields.decodeMember, Fields.seenMember]
  by_cases hkey : key = k
  · rw [if_pos hkey, if_pos hkey, if_pos hkey]
    refine .some ?_
    cases slot with
    | some v => exact .error _ _
    | none =>
      have hfill : Fields.readFill k none (shape.read depth) cs₁ =
          (shape.read depth cs₂).map fun p => (some p.1, p.2) := by
        rw [Fields.readFill]
        dsimp only
        rw [Json.bind_of_ok hcolon]
        cases shape.read depth cs₂ <;> rfl
      dsimp only
      rw [hfill, Json.map_map, Fields.fill, Json.map_map]
      exact (hshape hvalue hrest).map fun v => (some v, slots)
  · rw [if_neg hkey, if_neg hkey, if_neg hkey]
    have hmember := hothers cs₁ cs₂ t rest key slots hcolon hvalue hrest
    generalize others.readMember key depth slots = read?,
      others.decodeMember key (others.seenMember depth key t) slots = d? at hmember ⊢
    cases hmember with
    | none => exact .none
    | some hagrees => exact .some (hagrees.map fun slots => (slot, slots))

/-- A member that no field has is passed over. -/
theorem Fields.SeesMembers.readInto (h : fields.SeesMembers depth)
    (hs : fields.isGroupFree = true) {m : Member Source} {key : String}
    (hkey : m.key.text? = some key) (slots : fields.Slots) {cs₁ cs₂ rest : Input}
    (hcolon : expectColon cs₁ = .ok cs₂) (hvalue : skipSpace cs₂ = m.value.value.chars ++ rest)
    (hrest : EndsNumber rest) :
    Agrees rest
      (Fields.readInto depth fields.hasGroup (fun key slots => fields.readMember key depth slots)
        key (slots, []) cs₁)
      ((fields.storeSeen depth slots m).map fun slots => (slots, [])) := by
  have hmember := h cs₁ cs₂ m.value.value rest key slots hcolon hvalue hrest
  rw [Fields.readInto, Fields.storeSeen, Member.seen, hkey, fields.hasGroup_of_isGroupFree hs]
  dsimp only [Option.map_some]
  rw [Fields.storeMember]
  generalize fields.readMember key depth slots = read?,
    fields.decodeMember key (fields.seenMember depth key m.value.value) slots = d? at hmember ⊢
  cases hmember with
  | none =>
    have hother : Fields.readOther depth false key [] cs₁ = .ok ([], rest) := by
      rw [Fields.readOther, Json.bind_of_ok hcolon]
      show (do return ([], ← skipValue cs₂)) = _
      rw [Json.bind_of_ok (Json.skipValue_of_source hvalue hrest)]
      rfl
    rw [Json.bind_of_ok hother]
    exact .ok _
  | @some read d hagrees =>
    have hread := hagrees.map fun slots => (slots, ([] : List (String × Json)))
    cases hout : read cs₁ with
    | error e =>
      rw [hout] at hread
      dsimp only
      rw [hout]
      exact hread
    | ok p =>
      rw [hout] at hread
      dsimp only
      rw [hout]
      exact hread

theorem mapM_map {α β γ ε : Type} (f : α → β) (g : β → Except ε γ) (xs : List α) :
    (xs.map f).mapM g = xs.mapM fun x => g (f x) := by
  induction xs with
  | nil => rfl
  | cons x xs ih => rw [List.map_cons, List.mapM_cons, List.mapM_cons, ih]

theorem mapM_eq_some_iff {α β : Type} {f : α → Option β} {xs : List α} {ys : List β} :
    xs.mapM f = some ys ↔ List.Forall₂ (fun x y => f x = some y) xs ys := by
  induction xs generalizing ys with
  | nil =>
    rw [List.mapM_nil, List.forall₂_nil_left_iff]
    exact ⟨fun h => (Option.some.inj h).symm, fun h => h ▸ rfl⟩
  | cons x xs ih =>
    simp only [List.mapM_cons, List.forall₂_cons_left_iff, Option.bind_eq_bind,
      Option.bind_eq_some_iff, Option.pure_def, Option.some.injEq, ih]
    constructor
    · rintro ⟨y, hy, ys', hys, rfl⟩
      exact ⟨y, ys', hy, hys, rfl⟩
    · rintro ⟨y, ys', hy, hys, rfl⟩
      exact ⟨y, hy, ys', hys, rfl⟩

/-- What is seen of the members is stored one by one. -/
theorem Fields.foldlM_storeSeen {members : List (Member Source)} {slots slots' : fields.Slots} :
    members.foldlM (fields.storeSeen depth) slots = .ok slots' ↔
      ∃ seen, members.mapM (Member.seen fun key t => fields.seenMember depth key t) = some seen ∧
        seen.foldlM fields.storeMember slots = .ok slots' := by
  simp only [mapM_eq_some_iff]
  induction members generalizing slots with
  | nil => simp [pure, Except.pure]
  | cons m members ih =>
    rw [List.foldlM_cons, Fields.storeSeen]
    simp only [List.forall₂_cons_left_iff]
    constructor
    · intro h
      obtain ⟨slots₁, hstore, h⟩ := Json.ok_of_bind h
      obtain ⟨seen, hseen, hstores⟩ := ih.mp h
      split at hstore
      · next p hp =>
        refine ⟨p :: seen, ⟨p, seen, hp, hseen, rfl⟩, ?_⟩
        rw [List.foldlM_cons, Json.bind_of_ok hstore, hstores]
      · cases hstore
    · rintro ⟨_, ⟨p, seen, hp, hseen, rfl⟩, h⟩
      rw [List.foldlM_cons] at h
      obtain ⟨slots₁, hstore, h⟩ := Json.ok_of_bind h
      rw [hp]
      dsimp only
      rw [Json.bind_of_ok hstore]
      exact ih.mpr ⟨seen, hseen, h⟩

/-- Without embedded groups, reading the object of a record agrees with decoding what is seen
of it. -/
theorem Fields.SeesMembers.agrees (h : fields.SeesMembers depth) (hs : fields.isGroupFree = true)
    (name : String) (members : List (Member Source)) (space : Space) (rest : Input) :
    Agrees rest
      (do
        let ((slots, others), cs) ← Json.readObject (Fields.readInto depth fields.hasGroup
          fun key slots => fields.readMember key depth slots) (fields.noSlots, [])
          (listed true (members.map Member.chars) ++ (space.val ++ '}' :: rest))
        let v ← Schema.orMismatch
          (Fields.unlessMissing (fields.missing? slots) (fields.build slots others))
        return (v, cs))
      ((Shape.record name fields).decode
        (Json.seenMembers (fun key t => fields.seenMember depth key t) members)) := by
  have hturns : members.length <
      (listed true (members.map Member.chars) ++ (space.val ++ '}' :: rest)).length + 1 := by
    have hle := length_le_listed (members.map Member.chars) true
    simp only [List.length_append, List.length_cons, List.length_map] at hle ⊢
    omega
  have hloop : Agrees rest
      (Json.readObject (Fields.readInto depth fields.hasGroup
        fun key slots => fields.readMember key depth slots) (fields.noSlots, [])
        (listed true (members.map Member.chars) ++ (space.val ++ '}' :: rest)))
      ((members.foldlM (fields.storeSeen depth) fields.noSlots).map fun slots => (slots, [])) :=
    agrees_members_seen
      (fun m _ hkey slots => ⟨_, by rw [Fields.storeSeen, Member.seen, hkey]; rfl⟩)
      (fun m _ key hkey slots cs₁ cs₂ rest => h.readInto hs hkey slots) hturns rfl fields.noSlots
  refine (hloop.bind_map fun slots => .of_orMismatch _).congr fun v => ?_
  rw [Json.seenMembers]
  cases hseen : members.mapM (Member.seen fun key t => fields.seenMember depth key t) with
  | none =>
    refine ⟨fun hv => ?_, fun hv => by cases hv⟩
    obtain ⟨slots, hslots, -⟩ := Json.ok_of_bind hv
    obtain ⟨seen, hsome, -⟩ := Fields.foldlM_storeSeen.mp hslots
    rw [hseen] at hsome
    cases hsome
  | some seen =>
    dsimp only
    rw [Shape.decode_object hs]
    constructor
    · intro hv
      obtain ⟨slots, hslots, hbuild⟩ := Json.ok_of_bind hv
      obtain ⟨seen', hsome, hstore⟩ := Fields.foldlM_storeSeen.mp hslots
      rw [hseen] at hsome
      cases hsome
      rwa [Json.bind_of_ok hstore]
    · intro hv
      obtain ⟨slots, hstore, hbuild⟩ := Json.ok_of_bind hv
      rwa [Json.bind_of_ok (Fields.foldlM_storeSeen.mpr ⟨seen, hseen, hstore⟩)]

end

/-! ## Records from lists -/

section

variable {cs rest : Input} {space : Space} {items : List (Padded Source)} {first : Bool}

/-- What a list has next. -/
theorem nextItem_listed
    (hcs : skipSpace cs =
      skipSpace (listed first (items.map Padded.chars) ++ (space.val ++ ']' :: rest))) :
    (items = [] ∧ Schema.nextItem first cs = .ok (.closed (']' :: rest))) ∨
    ∃ x items' cs₁, items = x :: items' ∧ Schema.nextItem first cs = .ok (.item cs₁) ∧
      skipSpace cs₁ = x.value.chars ++ (x.after.val ++
        (listed false (items'.map Padded.chars) ++ (space.val ++ ']' :: rest))) := by
  cases items with
  | nil =>
    rw [List.map_nil, skipSpace_listed_nil (by decide)] at hcs
    refine .inl ⟨rfl, ?_⟩
    rw [Schema.nextItem, hcs]
    rfl
  | cons x items =>
    refine .inr ?_
    generalize htail : x.after.val ++
      (listed false (items.map Padded.chars) ++ (space.val ++ ']' :: rest)) = tail
    obtain ⟨c, tail', hc, -, hclosing, -⟩ := x.value.exists_cons
    have hvalue := x.value.skipSpace_append tail
    refine ⟨x, items, x.value.chars ++ tail, rfl, ?_, by rw [hvalue, htail]⟩
    cases first with
    | true =>
      rw [List.map_cons, listed, List.append_assoc, x.skipSpace_append, htail] at hcs
      rw [hc, List.cons_append] at hcs ⊢
      rw [Schema.nextItem, hcs]
      dsimp only
      rw [if_neg hclosing, if_pos rfl]
    | false =>
      rw [List.map_cons, listed, List.cons_append, List.append_assoc,
        Json.skipSpace_cons (by decide)] at hcs
      have hitem := x.skipSpace_append
        (listed false (items.map Padded.chars) ++ (space.val ++ ']' :: rest))
      rw [htail] at hitem
      rw [hc, List.cons_append] at hitem ⊢
      rw [Schema.nextItem, hcs]
      dsimp only
      rw [if_neg (by decide), if_neg (by decide), if_pos rfl, hitem]
      dsimp only
      rw [if_neg hclosing]

theorem agrees_closeList_seen (depth : Nat) (label : String) (given index : Nat)
    (hcs : skipSpace cs =
      skipSpace (listed first (items.map Padded.chars) ++ (space.val ++ ']' :: rest))) :
    Agrees rest ((Schema.closeList cs).map fun cs => ((), cs))
      (Fields.nil.decodeItems label given index (Fields.nil.seenItems depth items)) := by
  cases items with
  | nil =>
    rw [List.map_nil, skipSpace_listed_nil (by decide)] at hcs
    rw [Schema.closeList, hcs]
    exact .ok ()
  | cons x items =>
    have hopen : ∃ c tail, skipSpace cs = c :: tail ∧ c ≠ ']' := by
      cases first with
      | true =>
        obtain ⟨c, tail, hc, -, hclosing, -⟩ := x.value.exists_cons
        rw [List.map_cons, listed, List.append_assoc, x.skipSpace_append, hc] at hcs
        exact ⟨c, _, hcs, hclosing⟩
      | false =>
        rw [List.map_cons, listed, List.cons_append, Json.skipSpace_cons (by decide)] at hcs
        exact ⟨',', _, hcs, by decide⟩
    obtain ⟨c, tail, hc, hclosing⟩ := hopen
    rw [Schema.closeList, hc]
    dsimp only
    rw [if_neg hclosing]
    exact .error _ _

end

/-! ## All shapes -/

theorem Shape.decode_seen_list (item : Shape) (depth : Nat) (items : List (Padded Source))
    (space : Space) :
    (Shape.list item).decode ((Shape.list item).seen (depth + 1) (.array items space)) =
      items.mapM fun x => item.decode (item.seen depth x.value) :=
  mapM_map (fun x : Padded Source => item.seen depth x.value) item.decode items

/-- Without embedded groups, a record can be written as the list of its fields. -/
theorem Shape.decode_seen_array {fields : Fields} (hgroup : fields.hasGroup = false) (name : String)
    (depth : Nat) (items : List (Padded Source)) (space : Space) :
    (Shape.record name fields).decode
        ((Shape.record name fields).seen (depth + 1) (.array items space)) =
      fields.decodeItems (Schema.lengthLabel name fields.size) (fields.seenItems depth items).length
        0 (fields.seenItems depth items) := by
  rw [Shape.seen, Shape.decode, hgroup]
  rfl

/-- The optional value of a shape that is read as it is seen. -/
theorem agrees_optional_seen {inner : Shape} {depth : Nat} {t : Source} {cs rest : Input}
    (hinner : ∀ {cs : Input}, skipSpace cs = t.chars ++ rest →
      Agrees rest (inner.read depth cs) (inner.decode (inner.seen depth t)))
    (hcs : skipSpace cs = t.chars ++ rest) :
    Agrees rest ((Shape.optional inner).read depth cs)
      ((Shape.optional inner).decode ((Shape.optional inner).seen depth t)) := by
  by_cases ht : t = .null
  · subst ht
    rw [Shape.seen_null, Shape.read, Shape.decode]
    dsimp only
    rw [hcs]
    exact .ok none
  · have hread : (Shape.optional inner).read depth cs =
        (inner.read depth (skipSpace cs)).map fun p => (some p.1, p.2) := by
      rw [Shape.read]
      dsimp only
      split
      · next tail hn => exact absurd (t.eq_null_of_skipSpace (hcs.symm.trans hn)) ht
      · rfl
    rw [hread]
    show Agrees rest _ ((Shape.optional inner).decode (inner.seen depth t))
    rw [Shape.decode_optional (inner.seen_ne_null ht depth)]
    exact (hinner (by rw [Json.skipSpace_skipSpace, hcs])).map some

/-- Nothing but the text of an array is read as a list. -/
theorem agrees_list_seen {item : Shape} {depth : Nat} {t : Source} {cs rest : Input}
    (hitem : ∀ {depth : Nat} {t : Source} {cs rest : Input}, skipSpace cs = t.chars ++ rest →
      EndsNumber rest → Agrees rest (item.read depth cs) (item.decode (item.seen depth t)))
    (hcs : skipSpace cs = t.chars ++ rest) :
    Agrees rest ((Shape.list item).read depth cs)
      ((Shape.list item).decode ((Shape.list item).seen depth t)) := by
  rw [Shape.read]
  dsimp only
  rw [hcs]
  cases t with
  | array items space =>
    rw [Source.chars_array, List.cons_append, List.append_assoc, List.append_assoc]
    cases depth with
    | zero => exact .error _ _
    | succ depth =>
      have hturns : items.length <
          (listed true (items.map Padded.chars) ++ (space.val ++ ']' :: rest)).length + 1 := by
        have hle := length_le_listed (items.map Padded.chars) true
        simp only [List.length_append, List.length_cons, List.length_map] at hle ⊢
        omega
      rw [Shape.decode_seen_list]
      exact agrees_items_seen (item.read depth) (fun t => item.decode (item.seen depth t))
        (fun _ _ _ _ => hitem) hturns rfl
  | null | object => exact .error _ _
  | bool b => cases b <;> exact .error _ _
  | string q =>
    have hseen : (Shape.list item).seen depth (.string q) = (Source.string q).seen := rfl
    rw [hseen, Source.seen]
    cases q.text? <;> exact .error _ _
  | number n =>
    obtain ⟨c, tail, htail, hc⟩ := n.exists_cons
    have hseen : (Shape.list item).seen depth (.number n) = (Source.number n).seen := rfl
    rw [hseen, Source.chars, htail, List.cons_append, Source.seen]
    split
    · next hbracket => cases hbracket; cases hc
    · cases n.read <;> exact .error _ _

/-- Nothing but the text of an object, or of an array of its fields, is read as a record. -/
theorem agrees_record_seen {name : String} {fields : Fields} (hfree : fields.isGroupFree = true)
    (hmembers : ∀ depth, fields.SeesMembers depth)
    (hitems : ∀ {depth : Nat} {items : List (Padded Source)} {space : Space} {cs rest : Input}
      (label : String) (given : Nat),
      skipSpace cs = skipSpace
        (listed true (items.map Padded.chars) ++ (space.val ++ ']' :: rest)) →
      Agrees rest (fields.readItems label 0 depth cs)
        (fields.decodeItems label given 0 (fields.seenItems depth items)))
    {depth : Nat} {t : Source} {cs rest : Input} (hcs : skipSpace cs = t.chars ++ rest) :
    Agrees rest ((Shape.record name fields).read depth cs)
      ((Shape.record name fields).decode ((Shape.record name fields).seen depth t)) := by
  have hgroup := fields.hasGroup_of_isGroupFree hfree
  rw [Shape.read]
  dsimp only
  rw [hcs]
  cases t with
  | object members space =>
    rw [Source.chars_object, List.cons_append, List.append_assoc, List.append_assoc]
    cases depth with
    | zero => exact .error _ _
    | succ depth => exact (hmembers depth).agrees hfree name members space rest
  | array items space =>
    rw [Source.chars_array, List.cons_append, List.append_assoc, List.append_assoc]
    dsimp only
    rw [if_neg (by decide), hgroup, if_pos (by decide)]
    cases depth with
    | zero => exact .error _ _
    | succ depth =>
      rw [Shape.decode_seen_array hgroup]
      exact hitems _ _ rfl
  | null => exact .error _ _
  | bool b => cases b <;> exact .error _ _
  | string q =>
    have hseen : (Shape.record name fields).seen depth (.string q) = (Source.string q).seen := rfl
    rw [hseen, Source.seen]
    cases q.text? <;> exact .error _ _
  | number n =>
    obtain ⟨c, tail, htail, hc⟩ := n.exists_cons
    have hseen : (Shape.record name fields).seen depth (.number n) = (Source.number n).seen := rfl
    have hbrace := Json.ne_of_startsNumber hc '{' rfl
    have hbracket := Json.ne_of_startsNumber hc '[' rfl
    rw [hseen, Source.chars, htail, List.cons_append, Source.seen]
    dsimp only
    rw [if_neg hbrace, if_neg (by simp [hbracket])]
    cases n.read <;> exact .error _ _

mutual

/-- **A reader sees what its shape sees.**  Reading a value of a text comes to what converting
the part comes to that is seen of it, and it ends where the value ends. -/
theorem Shape.agrees_seen : (s : Shape) → s.isPlain = true → ∀ {depth t cs rest},
    skipSpace cs = Source.chars t ++ rest → EndsNumber rest →
      Agrees rest (s.read depth cs) (s.decode (s.seen depth t))
  | .text, _, depth, t, cs, rest, hcs, _ => agrees_text_seen "a string" hcs
  | .integer type, _, depth, t, cs, rest, hcs, hrest => agrees_integer_seen type hcs hrest
  | .decimal, _, depth, t, cs, rest, hcs, hrest => by
    rw [Shape.read, Shape.decode]
    exact agrees_decimal_seen hcs hrest
  | .quantity, _, depth, t, cs, rest, hcs, hrest => by
    rw [Shape.read, Shape.decode]
    exact agrees_decimal_seen hcs hrest
  | .choice names, _, depth, t, cs, rest, hcs, _ => by
    rw [Shape.read, Shape.decode]
    exact agrees_choice_seen names hcs
  | .optional inner, hs, depth, t, cs, rest, hcs, hrest =>
    agrees_optional_seen (fun hcs => inner.agrees_seen hs hcs hrest) hcs
  | .list item, hs, depth, t, cs, rest, hcs, _ =>
    agrees_list_seen (fun hcs hrest => item.agrees_seen hs hcs hrest) hcs
  | .record _ fields, hs, depth, t, cs, rest, hcs, _ =>
    agrees_record_seen (fields.isGroupFree_of_isPlain hs) (fields.agrees_seenMember hs)
      (fun label given hcs => fields.agrees_seenItems hs label given 0 hcs) hcs

theorem Fields.agrees_seenMember : (fields : Fields) → fields.isPlain = true →
    (depth : Nat) → fields.SeesMembers depth
  | .nil, _, _ => .nil
  | .cons _ _ shape others, hs, depth => by
    rw [Fields.isPlain, Bool.and_eq_true] at hs
    exact .cons (fun hcs hrest => shape.agrees_seen hs.1 hcs hrest)
      (others.agrees_seenMember hs.2 depth)
  | .embed _ _, hs, _ => nomatch hs

theorem Fields.agrees_seenItems : (fields : Fields) → fields.isPlain = true →
    ∀ {depth : Nat} {items : List (Padded Source)} {space : Space} {cs rest : Input}
      (label : String) (given index : Nat),
      skipSpace cs = skipSpace
        (listed (index == 0) (items.map Padded.chars) ++ (space.val ++ ']' :: rest)) →
      Agrees rest (fields.readItems label index depth cs)
        (fields.decodeItems label given index (fields.seenItems depth items))
  | .nil, _, depth, items, space, cs, rest, label, given, index, hcs =>
    agrees_closeList_seen depth label given index hcs
  | .cons _ presence shape others, hs, depth, items, space, cs, rest, label, given, index, hcs => by
    rw [Fields.isPlain, Bool.and_eq_true] at hs
    rw [Fields.readItems]
    dsimp only
    rcases nextItem_listed hcs with ⟨rfl, hclosed⟩ | ⟨x, items', cs₁, rfl, hitem, hx⟩
    · rw [Json.bind_of_ok hclosed]
      show Agrees rest _ (Fields.decodeItems (.cons _ presence shape others) label given index [])
      rw [Fields.decodeItems]
      dsimp only
      cases if presence.mayLackItem = true then shape.absent? else none with
      | none => exact .error _ _
      | some v =>
        have hclosing : skipSpace (']' :: rest) = skipSpace
            (listed (index + 1 == 0) (([] : List (Padded Source)).map Padded.chars) ++
              (Space.none.val ++ ']' :: rest)) := rfl
        have hrest : Agrees rest (others.readItems label (index + 1) depth (']' :: rest))
            (others.decodeItems label given (index + 1) (others.seenItems depth [])) :=
          others.agrees_seenItems hs.2 label given (index + 1) hclosing
        have hnil : others.seenItems depth [] = [] := by cases others <;> rfl
        rw [hnil] at hrest
        dsimp only
        generalize others.readItems label (index + 1) depth (']' :: rest) = r at hrest
        generalize others.decodeItems label given (index + 1) [] = d at hrest
        cases hrest with
        | ok vs => exact .ok (v, vs)
        | error e m => exact .error e m
    · have hend := (Json.endsNumber_listed (items'.map Padded.chars) space
        (show ']' ∈ [',', ']', '}'] by decide) rest).space x.after
      have hvalue : Agrees _ (shape.read depth cs₁) (shape.decode (shape.seen depth x.value)) :=
        shape.agrees_seen hs.1 hx hend
      rw [Json.bind_of_ok hitem, Fields.seenItems, Fields.decodeItems]
      exact hvalue.bind fun v =>
        (others.agrees_seenItems hs.2 label given (index + 1)
          (Json.skipSpace_space x.after _)).bind fun vs => .ok (v, vs)
  | .embed _ _, hs, _, _, _, _, _, _, _, _, _ => nomatch hs

end

/-- A text decodes to what the part of it decodes to that its shape sees. -/
theorem Shape.ofText_document {s : Shape} (hs : s.isPlain = true) (doc : Json.Document)
    (v : s.Value) :
    s.ofText doc.text = .ok v ↔ s.decode (s.seen Json.maxDepth doc.value) = .ok v := by
  have hspace : skipSpace doc.after.val = [] := by
    rw [← List.append_nil doc.after.val, Json.skipSpace_space]
    rfl
  have hend : EndsNumber doc.after.val := by
    rw [← List.append_nil doc.after.val]
    exact Json.endsNumber_nil.space doc.after
  have hvalue := doc.skipSpace_append []
  rw [List.append_nil, List.append_nil] at hvalue
  have hread := @Shape.agrees_seen s hs Json.maxDepth _ _ _ hvalue hend
  rw [Shape.ofText, Json.Document.text, String.toList_ofList, Json.finish]
  generalize s.read Json.maxDepth doc.chars = read, s.decode (s.seen Json.maxDepth doc.value) = d
    at hread ⊢
  cases hread with
  | ok w =>
    rw [Json.bind_of_ok rfl]
    dsimp only
    rw [hspace]
    show Except.ok w = Except.ok v ↔ _
    rw [Except.ok.injEq, Except.ok.injEq]
  | error e m =>
    constructor <;> intro h <;> cases h

end ExchangeClient

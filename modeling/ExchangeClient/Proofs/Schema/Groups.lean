import ExchangeClient.Proofs.Schema.Keyed

/-!
# Records with embedded groups

A record with an embedded group sets aside the members that no field of its own has, and the
group looks for its fields among those.  As long as no two fields have one key, the groups
included, this comes to every field finding the one member with its key, `Fields.Finds`.

Only one step is peculiar.  A text is read member by member, and the members that are set
aside are read as any JSON value, so a group gets to see them sorted while the fields of the
record itself see what stands in the text.  `Fields.Finds` therefore has two ways of looking a
member up, one for the record's own fields and one for those of its groups.
-/

namespace ExchangeClient

open Json (DecodeError Mismatch Input Reader readMembers readWritten expectColon MembersStand)

/-! ## Keys -/

/-- The keys of some fields and of the groups among them. -/
def Fields.keys : Fields → List String
  | .nil => []
  | .cons key _ _ rest => key :: rest.keys
  | .embed group rest => group.keys ++ rest.keys

/-- The keys of the groups among some fields. -/
def Fields.groupKeys : Fields → List String
  | .nil => []
  | .cons _ _ _ rest => rest.groupKeys
  | .embed group rest => group.keys ++ rest.groupKeys

/-- Whether groups are embedded at the top only: none in a group, and none in a value. -/
def Fields.isShallow : Fields → Bool
  | .nil => true
  | .cons _ _ shape rest => shape.isGroupFree && rest.isShallow
  | .embed group rest => group.isGroupFree && rest.isShallow

theorem Fields.mem_keys_of_mem_groupKeys {key : String} : (fields : Fields) →
    key ∈ fields.groupKeys → key ∈ fields.keys
  | .nil, h => h
  | .cons _ _ _ rest, h => List.mem_cons_of_mem _ (rest.mem_keys_of_mem_groupKeys h)
  | .embed group rest, h => by
    rcases List.mem_append.mp h with h | h
    · exact List.mem_append_left _ h
    · exact List.mem_append_right _ (rest.mem_keys_of_mem_groupKeys h)

/-! ## Members that are set aside -/

theorem Fields.decodeMember_of_notMem {key : String} (j : Json) : (fields : Fields) →
    key ∉ fields.keys → (slots : fields.Slots) → fields.decodeMember key j slots = none
  | .nil, _, _ => rfl
  | .cons k _ _ rest, h, (_, slots) => by
    rw [Fields.keys, List.mem_cons, not_or] at h
    rw [Fields.decodeMember, if_neg h.1, rest.decodeMember_of_notMem j h.2]
    rfl
  | .embed group rest, h, slots => by
    rw [Fields.keys, List.mem_append, not_or] at h
    exact rest.decodeMember_of_notMem j h.2 slots

/-- The members of a group are set aside. -/
theorem Fields.decodeMember_of_mem_groupKeys {key : String} (j : Json) : (fields : Fields) →
    fields.keys.Nodup → key ∈ fields.groupKeys → (slots : fields.Slots) →
    fields.decodeMember key j slots = none
  | .nil, _, h, _ => nomatch h
  | .cons k _ _ rest, hkeys, h, (_, slots) => by
    rw [Fields.keys, List.nodup_cons] at hkeys
    have hne : key ≠ k := by
      rintro rfl
      exact hkeys.1 (rest.mem_keys_of_mem_groupKeys h)
    rw [Fields.decodeMember, if_neg hne, rest.decodeMember_of_mem_groupKeys j hkeys.2 h]
    rfl
  | .embed group rest, hkeys, h, slots => by
    obtain ⟨-, hrest, hdisjoint⟩ := List.nodup_append'.mp hkeys
    rcases List.mem_append.mp h with h | h
    · exact rest.decodeMember_of_notMem j (fun hkey => hdisjoint h hkey) slots
    · exact rest.decodeMember_of_mem_groupKeys j hrest h slots

/-- Among what is set aside a group finds each of its keys as often as it is given. -/
theorem Fields.valuesOf_others {fields : Fields} (hkeys : fields.keys.Nodup)
    {ms others : List (String × Json)} {slots slots' : fields.Slots}
    (h : Fields.storeAll (fun key j => fields.decodeMember key j) ms slots = .ok (slots', others))
    {key : String} (hkey : key ∈ fields.groupKeys) : valuesOf key others = valuesOf key ms := by
  induction ms generalizing slots others with
  | nil => cases h; rfl
  | cons m ms ih =>
    obtain ⟨k, j⟩ := m
    rw [Fields.storeAll] at h
    cases hstore : fields.decodeMember k j slots with
    | none =>
      rw [hstore] at h
      obtain ⟨⟨slots₁, others₁⟩, hrest, heq⟩ := Json.ok_of_bind h
      cases heq
      by_cases hk : k = key
      · rw [valuesOf_cons_of_eq hk, valuesOf_cons_of_eq hk, ih hrest]
      · rw [valuesOf_cons_of_ne hk, valuesOf_cons_of_ne hk, ih hrest]
    | some r =>
      rw [hstore] at h
      obtain ⟨slots₁, hr, hrest⟩ := Json.ok_of_bind h
      have hk : k ≠ key := by
        rintro rfl
        rw [fields.decodeMember_of_mem_groupKeys j hkeys hkey slots] at hstore
        cases hstore
      rw [valuesOf_cons_of_ne hk, ih hrest]

/-! ## Fields that find their members -/

/-- Whether each of some fields finds its value.  `own` are the values of the members with a
key as the fields themselves see them, `aside` as the groups among the fields do. -/
def Fields.Finds (own aside : String → List Json) : (fields : Fields) → fields.Value → Prop
  | .nil, _ => True
  | .cons key presence shape rest, (v, vs) =>
    shape.TakesOne presence (own key) v ∧ rest.Finds own aside vs
  | .embed group rest, (v, vs) => group.Finds aside aside v ∧ rest.Finds own aside vs

/-- Fields look for nothing but their own keys. -/
theorem Fields.Finds.congr {own own' aside aside' : String → List Json} : {fields : Fields} →
    {v : fields.Value} → (∀ key ∈ fields.keys, own key = own' key) →
    (∀ key ∈ fields.keys, aside key = aside' key) → fields.Finds own aside v →
    fields.Finds own' aside' v
  | .nil, _, _, _, _ => trivial
  | .cons key _ _ rest, (v, vs), hown, haside, h => by
    refine ⟨?_, h.2.congr (fun k hk => hown k (List.mem_cons_of_mem _ hk))
      fun k hk => haside k (List.mem_cons_of_mem _ hk)⟩
    rw [← hown key List.mem_cons_self]
    exact h.1
  | .embed group rest, (v, vs), hown, haside, h =>
    ⟨h.1.congr (fun k hk => haside k (List.mem_append_left _ hk))
        fun k hk => haside k (List.mem_append_left _ hk),
      h.2.congr (fun k hk => hown k (List.mem_append_right _ hk))
        fun k hk => haside k (List.mem_append_right _ hk)⟩

/-- The fields of a record may look in one place and its groups in another. -/
theorem Fields.Finds.combine {own aside : String → List Json} : {fields : Fields} →
    {v : fields.Value} → fields.Finds own own v → fields.Finds aside aside v →
    fields.Finds own aside v
  | .nil, _, _, _ => trivial
  | .cons _ _ _ _, (_, _), h, h' => ⟨h.1, h.2.combine h'.2⟩
  | .embed _ _, (_, _), h, h' => ⟨h'.1, h.2.combine h'.2⟩

/-- Without groups, and with no key given to two fields, fields that find their members take
them. -/
theorem Fields.Finds.takes {aside : String → List Json} {fields : Fields} {v : fields.Value}
    (hs : fields.isGroupFree = true) (hkeys : fields.keys.Nodup) {ms : List (String × Json)}
    (h : fields.Finds (fun key => valuesOf key ms) aside v) : fields.Takes ms v := by
  cases fields with
  | nil => trivial
  | cons key presence shape rest =>
    obtain ⟨v, vs⟩ := v
    rw [Fields.isGroupFree, Bool.and_eq_true] at hs
    rw [Fields.keys, List.nodup_cons] at hkeys
    refine ⟨h.1, Fields.Finds.takes hs.2 hkeys.2 (h.2.congr (fun k hk => ?_) fun _ _ => rfl)⟩
    exact (valuesOf_withoutKey (ne_of_mem_of_not_mem hk hkeys.1)).symm
  | embed group rest => cases hs

/-! ## Records -/

/-- Fields that find their members fill their slots, and a tuple is made of the slots and of
members in which the groups find theirs. -/
theorem Fields.Finds.exists_slots {aside : String → List Json} : {fields : Fields} →
    {v : fields.Value} → fields.isShallow = true → fields.keys.Nodup →
    {ms : List (String × Json)} → fields.Finds (fun key => valuesOf key ms) aside v →
    ∃ slots, ms.foldlM fields.storeMember fields.noSlots = .ok slots ∧
      fields.missing? slots = none ∧
      ∀ others, (∀ key ∈ fields.groupKeys, valuesOf key others = aside key) →
        fields.build slots others = .ok v
  | .nil, _, _, _, ms, _ => ⟨(), foldlM_storeMember_nil ms, rfl, fun _ _ => rfl⟩
  | .cons key _ shape rest, (v, vs), hs, hkeys, ms, h => by
    rw [Fields.isShallow, Bool.and_eq_true] at hs
    rw [Fields.keys, List.nodup_cons] at hkeys
    obtain ⟨slot, hfill, hlack, hv⟩ := Shape.takesOne_iff.mp h.1
    have hrest : rest.Finds (fun k => valuesOf k (withoutKey key ms)) aside vs :=
      h.2.congr (fun k hk => (valuesOf_withoutKey (ne_of_mem_of_not_mem hk hkeys.1)).symm)
        fun _ _ => rfl
    obtain ⟨slots, hstore, hmissing, hbuild⟩ := hrest.exists_slots hs.2 hkeys.2
    refine ⟨(slot, slots), foldlM_storeMember_cons.mpr ⟨hfill, hstore⟩, ?_,
      fun others hothers => ?_⟩
    · rw [Fields.missing?, if_neg (by rw [hlack]; exact Bool.false_ne_true), hmissing]
    · rw [Fields.build, hv]
      dsimp only
      rw [hbuild others hothers]
      rfl
  | .embed group rest, (v, vs), hs, hkeys, ms, h => by
    rw [Fields.isShallow, Bool.and_eq_true] at hs
    obtain ⟨hgroup, hrest, -⟩ := List.nodup_append'.mp hkeys
    obtain ⟨slots, hstore, hmissing, hbuild⟩ := h.2.exists_slots hs.2 hrest
    refine ⟨slots, hstore, hmissing, fun others hothers => ?_⟩
    rw [Fields.groupKeys, List.forall_mem_append] at hothers
    -- A group makes of the members that are set aside what a record of its own would.
    have hfinds : group.Finds (fun key => valuesOf key others) aside v :=
      h.1.congr (fun k hk => (hothers.1 k hk).symm) fun _ _ => rfl
    have hdecode := (Shape.decode_object_iff hs.1 "" others v).mpr (hfinds.takes hs.1 hgroup)
    rw [Shape.decode_object hs.1, ← group.map_fst_storeAll] at hdecode
    rw [Fields.build, hbuild others hothers.2]
    generalize Fields.storeAll (fun key j => group.decodeMember key j) others group.noSlots = r
      at hdecode ⊢
    cases r with
    | error m => cases hdecode
    | ok p =>
      have hbind : Fields.unlessMissing (group.missing? p.1) (group.build p.1 []) = .ok v := hdecode
      show (do let v ← Fields.unlessMissing (group.missing? p.1) (group.build p.1 []); _) = _
      rw [Json.bind_of_ok hbind]
      rfl

/-- **An object is decoded as a record if every field finds its member.** -/
theorem Shape.decode_of_finds {fields : Fields} (hs : fields.isShallow = true)
    (hkeys : fields.keys.Nodup) (name : String) {ms : List (String × Json)} {v : fields.Value}
    (h : fields.Finds (fun key => valuesOf key ms) (fun key => valuesOf key ms) v) :
    (Shape.record name fields).decode (.object ms) = .ok v := by
  obtain ⟨slots, hstore, hmissing, hbuild⟩ := h.exists_slots hs hkeys
  rw [← fields.map_fst_storeAll] at hstore
  obtain ⟨⟨slots', others⟩, hall, heq⟩ := Json.ok_of_map hstore
  cases heq
  rw [Shape.decode, Json.bind_of_ok hall]
  dsimp only
  rw [hmissing, hbuild others fun key hkey => Fields.valuesOf_others hkeys hall hkey]
  rfl

/-! ## Reading a text -/

theorem Fields.readsMembers_of_isShallow (depth : Nat) : (fields : Fields) →
    fields.isShallow = true → fields.ReadsMembers depth
  | .nil, _ => .nil
  | .cons _ _ shape rest, h => by
    rw [Fields.isShallow, Bool.and_eq_true] at h
    exact .cons (shape.agrees_read h.1) (rest.readsMembers_of_isShallow depth h.2)
  | .embed _ rest, h => by
    rw [Fields.isShallow, Bool.and_eq_true] at h
    exact rest.readsMembers_of_isShallow depth h.2

/-- What a member makes of the slots of some fields and of the members that are set aside. -/
def Fields.setAside (fields : Fields) (state : fields.Slots × List (String × Json))
    (m : String × Json) : Except Mismatch (fields.Slots × List (String × Json)) :=
  match fields.decodeMember m.1 m.2 state.1 with
  | none => .ok (state.1, state.2 ++ [m])
  | some r => r.map fun slots => (slots, state.2)

theorem Fields.foldlM_setAside (fields : Fields) (ms : List (String × Json))
    (slots : fields.Slots) (others : List (String × Json)) :
    ms.foldlM fields.setAside (slots, others) =
      (Fields.storeAll (fun key j => fields.decodeMember key j) ms slots).map
        fun p => (p.1, others ++ p.2) := by
  induction ms generalizing slots others with
  | nil =>
    show Except.ok (slots, others) = Except.ok (slots, others ++ [])
    rw [List.append_nil]
  | cons m ms ih =>
    obtain ⟨key, j⟩ := m
    rw [List.foldlM_cons, Fields.storeAll, Fields.setAside]
    cases fields.decodeMember key j slots with
    | none =>
      show ms.foldlM fields.setAside (slots, others ++ [(key, j)]) = _
      rw [ih]
      dsimp only
      cases Fields.storeAll (fun key j => fields.decodeMember key j) ms slots with
      | error m => rfl
      | ok p =>
        show Except.ok (p.1, others ++ [(key, j)] ++ p.2) =
          Except.ok (p.1, others ++ (key, j) :: p.2)
        rw [List.append_assoc, List.singleton_append]
    | some r =>
      cases r with
      | error m => rfl
      | ok slots' => exact ih slots' others

/-- The slots and the members that are set aside, as a reader comes to them. -/
def Fields.sortedState (fields : Fields) (state : fields.Slots × List (String × Json)) :
    fields.Slots × List (String × Json) :=
  (fields.sortedSlots state.1, Json.sortedMembers state.2)

variable {fields : Fields} {depth : Nat}

/-- With an embedded group, a member that no field has is read and set aside. -/
theorem Fields.ReadsMembers.readInto_setAside (h : fields.ReadsMembers depth)
    (hgroup : fields.hasGroup = true) (key : String) (cs₁ cs₂ : Input) (j : Json) (rest : Input)
    (state : fields.Slots × List (String × Json)) (hcolon : expectColon cs₁ = .ok cs₂)
    (hvalue : readWritten depth cs₂ = .ok (j, rest)) :
    Agrees rest
      (Fields.readInto depth fields.hasGroup (fun key slots => fields.readMember key depth slots)
        key (fields.sortedState state) cs₁)
      ((fields.setAside state (key, j)).map fields.sortedState) := by
  obtain ⟨slots, others⟩ := state
  have hmember := h cs₁ cs₂ j rest key slots hcolon hvalue
  rw [Fields.readInto, Fields.setAside, hgroup, Fields.sortedState]
  dsimp only
  generalize fields.readMember key depth (fields.sortedSlots slots) = read?,
    fields.decodeMember key j slots = d? at hmember ⊢
  cases hmember with
  | none =>
    have hread : Json.readValue depth cs₂ = .ok (j.sorted, rest) := by
      rw [Json.readValue_eq_mapped, Json.mapped_apply, hvalue]
      rfl
    have hother : Fields.readOther depth true key (Json.sortedMembers others) cs₁ =
        .ok (Json.sortedMembers (others ++ [(key, j)]), rest) := by
      rw [Fields.readOther, Json.bind_of_ok hcolon, if_pos rfl, Json.bind_of_ok hread,
        Json.sortedMembers_append]
      rfl
    dsimp only
    rw [Json.bind_of_ok hother]
    exact .ok _
  | @some read d hagrees =>
    dsimp only
    rw [Json.map_map]
    exact hagrees.bind_ok fun _ => rfl

/-- With an embedded group, reading the members of an object agrees with storing them. -/
theorem Fields.ReadsMembers.agrees_setAside (h : fields.ReadsMembers depth)
    (hgroup : fields.hasGroup = true) {turns : Nat} {cs rest : Input} {ms : List (String × Json)}
    (hmembers : MembersStand (readWritten depth) turns true cs ms rest) :
    Agrees rest
      (readMembers (Fields.readInto depth fields.hasGroup
        fun key slots => fields.readMember key depth slots) turns true (fields.noSlots, []) cs)
      ((Fields.storeAll (fun key j => fields.decodeMember key j) ms fields.noSlots).map
        fields.sortedState) := by
  have hloop := @agrees_readMembers _ _ _ _ (fun key j state => fields.setAside state (key, j)) _
    (h.readInto_setAside hgroup) _ _ _ _ _ hmembers (fields.noSlots, [])
  have hstart : fields.sortedState (fields.noSlots, []) = (fields.noSlots, []) := by
    rw [Fields.sortedState, fields.sortedSlots_noSlots]
    rfl
  rw [hstart, fields.foldlM_setAside, Json.map_map] at hloop
  exact hloop

/-- **An object is read as a record if every field finds its member**, the fields of embedded
groups among members that were sorted.  The fields hold no JSON values. -/
theorem Shape.read_of_finds (hs : fields.isShallow = true) (hgroup : fields.hasGroup = true)
    (hsorted : ∀ slots, fields.sortedSlots slots = slots) (hkeys : fields.keys.Nodup)
    (name : String) {cs rest : Input} {ms : List (String × Json)} {v : fields.Value}
    (hread : readWritten depth cs = .ok (.object ms, rest))
    (h : fields.Finds (fun key => valuesOf key ms)
      (fun key => (valuesOf key ms).map Json.sorted) v) :
    (Shape.record name fields).read depth cs = .ok (v, rest) := by
  obtain ⟨slots, hstore, hmissing, hbuild⟩ := h.exists_slots hs hkeys
  rw [← fields.map_fst_storeAll] at hstore
  obtain ⟨⟨slots', others⟩, hall, heq⟩ := Json.ok_of_map hstore
  cases heq
  have hothers (key : String) (hkey : key ∈ fields.groupKeys) :
      valuesOf key (Json.sortedMembers others) = (valuesOf key ms).map Json.sorted := by
    rw [← Fields.valuesOf_others hkeys hall hkey, valuesOf_sortedMembers]
  rw [Shape.read]
  cases Json.valueStands_of_readWritten hread with
  | @object tail _ _ _ hcs hnested hmembers =>
    cases depth with
    | zero => cases hnested
    | succ depth =>
      cases hnested
      have hloop := (fields.readsMembers_of_isShallow depth hs).agrees_setAside hgroup hmembers
      rw [hall] at hloop
      have hobject : Json.readObject (Fields.readInto depth fields.hasGroup
          fun key slots => fields.readMember key depth slots) (fields.noSlots, []) tail =
          .ok ((slots', Json.sortedMembers others), rest) := by
        rw [Json.readObject, hloop.eq_ok, Fields.sortedState, hsorted]
      simp only [hcs, if_true]
      rw [Json.bind_of_ok hobject]
      dsimp only
      rw [hmissing, hbuild _ hothers]
      rfl

theorem Shape.ofText_of_finds (hs : fields.isShallow = true) (hgroup : fields.hasGroup = true)
    (hsorted : ∀ slots, fields.sortedSlots slots = slots) (hkeys : fields.keys.Nodup)
    (name : String) {text : String} {ms : List (String × Json)} {v : fields.Value}
    (hwritten : Json.writtenOfText text = .ok (.object ms))
    (h : fields.Finds (fun key => valuesOf key ms)
      (fun key => (valuesOf key ms).map Json.sorted) v) :
    (Shape.record name fields).ofText text = .ok v := by
  obtain ⟨rest, hread, hend⟩ := Json.exists_readWritten hwritten
  rw [Shape.ofText, Json.finish, Shape.read_of_finds hs hgroup hsorted hkeys name hread h]
  exact if_pos hend

end ExchangeClient

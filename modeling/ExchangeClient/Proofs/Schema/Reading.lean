import ExchangeClient.Proofs.Schema.Agreement
import ExchangeClient.Proofs.Schema.Members
import Mathlib.Data.Option.Defs

/-!
# Reading a text is converting its value

There are two ways from a text to a value of a shape: to read the text as a value of the shape
at once, and to read it as any JSON value and convert that.  `Shape.agrees_read` says that they
come to the same, for every shape without embedded groups and every text that has a value at
all, provided the conversion is given the value as it is written; `Shape.ofText_of_written`
says so of a whole text.

The proof goes down the shape and not down the text.  A member that no field has is the place
where the two part: the conversion has read it and the reader passes over it, and the two are
still at the same place behind it because passing over ends where reading does.
-/

namespace ExchangeClient

open Json (DecodeError Mismatch Input Reader readItems readMembers readWritten skipSpace
  expectColon expectWord readString readNumber ItemsStand MembersStand MemberStands ValueStands)

/-! ## Records from objects -/

/-- What a reader of a record knows of a member agrees with what the record makes of it. -/
def Fields.ReadsMembers (fields : Fields) (depth : Nat) : Prop :=
  ∀ (cs₁ cs₂ : Input) (j : Json) (rest : Input) (key : String) (slots : fields.Slots),
    expectColon cs₁ = .ok cs₂ → readWritten depth cs₂ = .ok (j, rest) →
    Option.Rel (fun read d => Agrees rest (read cs₁) (d.map fields.sortedSlots))
      (fields.readMember key depth (fields.sortedSlots slots)) (fields.decodeMember key j slots)

variable {fields : Fields} {depth : Nat}

theorem Fields.ReadsMembers.nil : Fields.nil.ReadsMembers depth :=
  fun _ _ _ _ _ _ _ _ => .none

/-- A field reads the member with its key, and the other fields read theirs. -/
theorem Fields.ReadsMembers.cons {k : String} {presence : Presence} {shape : Shape}
    {others : Fields}
    (hshape : ∀ {cs j rest}, readWritten depth cs = .ok (j, rest) →
      Agrees rest (shape.read depth cs) ((shape.decode j).map shape.sorted))
    (hothers : others.ReadsMembers depth) :
    (Fields.cons k presence shape others).ReadsMembers depth := by
  intro cs₁ cs₂ j rest key (slot, slots) hcolon h
  rw [Fields.sortedSlots, Fields.readMember, Fields.decodeMember]
  by_cases hkey : key = k
  · rw [if_pos hkey, if_pos hkey]
    refine .some ?_
    cases slot with
    | some v => exact .error _ _
    | none =>
      have hfill : Fields.readFill k none (shape.read depth) cs₁ =
          (shape.read depth cs₂ >>= fun p => .ok (some p.1, p.2)) :=
        Json.bind_of_ok hcolon _
      rw [Option.map_none]
      dsimp only
      rw [hfill, Json.map_bind, Json.map_map, Fields.fill, Json.map_map]
      exact (hshape h).bind_ok fun v => rfl
  · rw [if_neg hkey, if_neg hkey]
    have hrest := hothers cs₁ cs₂ j rest key slots hcolon h
    generalize others.readMember key depth (others.sortedSlots slots) = read?,
      others.decodeMember key j slots = d? at hrest ⊢
    cases hrest with
    | none => exact .none
    | @some read d hagrees =>
      refine .some ?_
      cases d <;> exact hagrees.map _

/-- A member that no field has is passed over. -/
theorem Fields.ReadsMembers.readInto (h : fields.ReadsMembers depth)
    (hs : fields.isGroupFree = true) (key : String) (cs₁ cs₂ : Input) (j : Json) (rest : Input)
    (slots : fields.Slots) (hcolon : expectColon cs₁ = .ok cs₂)
    (hvalue : readWritten depth cs₂ = .ok (j, rest)) :
    Agrees rest
      (Fields.readInto depth fields.hasGroup (fun key slots => fields.readMember key depth slots)
        key (fields.sortedSlots slots, []) cs₁)
      ((fields.storeMember slots (key, j)).map fun slots => (fields.sortedSlots slots, [])) := by
  have hmember := h cs₁ cs₂ j rest key slots hcolon hvalue
  rw [Fields.readInto, Fields.storeMember, fields.hasGroup_of_isGroupFree hs]
  dsimp only
  generalize fields.readMember key depth (fields.sortedSlots slots) = read?,
    fields.decodeMember key j slots = d? at hmember ⊢
  cases hmember with
  | none =>
    have hother : Fields.readOther depth false key [] cs₁ = .ok ([], rest) := by
      rw [Fields.readOther, Json.bind_of_ok hcolon]
      show (do return ([], ← Json.skipValue cs₂)) = _
      rw [Json.bind_of_ok (Json.skipValue_of_readWritten hvalue)]
      rfl
    rw [Json.bind_of_ok hother]
    exact .ok _
  | @some read d hagrees =>
    exact hagrees.bind_ok fun _ => rfl

/-- Without embedded groups, reading the object of a record agrees with decoding it. -/
theorem Fields.ReadsMembers.agrees (h : fields.ReadsMembers depth) (hs : fields.isGroupFree = true)
    (name : String) {turns : Nat} {cs rest : Input} {ms : List (String × Json)}
    (hmembers : MembersStand (readWritten depth) turns true cs ms rest) :
    Agrees rest
      (do
        let ((slots, others), cs) ← readMembers (Fields.readInto depth fields.hasGroup
          fun key slots => fields.readMember key depth slots) turns true (fields.noSlots, []) cs
        let v ← Schema.orMismatch
          (Fields.unlessMissing (fields.missing? slots) (fields.build slots others))
        return (v, cs))
      (((Shape.record name fields).decode (.object ms)).map fields.sorted) := by
  have hloop := agrees_readMembers (f := fun slots => (fields.sortedSlots slots, []))
    (h.readInto hs) hmembers fields.noSlots
  rw [fields.sortedSlots_noSlots] at hloop
  rw [Shape.decode_object hs, Json.map_bind]
  refine hloop.bind_map fun slots => ?_
  have hbuild : (Fields.unlessMissing (fields.missing? slots) (fields.build slots [])).map
      fields.sorted = Fields.unlessMissing (fields.missing? (fields.sortedSlots slots))
        (fields.build (fields.sortedSlots slots) []) := by
    rw [fields.missing?_sortedSlots, fields.build_sortedSlots hs]
    cases fields.missing? slots <;> rfl
  rw [hbuild]
  exact .of_orMismatch _

/-! ## Records from lists -/

theorem readWritten_skipSpace (depth : Nat) (cs : Input) :
    readWritten depth (skipSpace cs) = readWritten depth cs := by
  have hwith (nested : Option (Reader Json)) :
      Json.readWith Json.appendMember nested (skipSpace cs) =
        Json.readWith Json.appendMember nested cs := by
    rw [Json.readWith, Json.readWith, Json.skipSpace_skipSpace]
  cases depth with
  | zero => exact hwith none
  | succ depth => exact hwith (some (readWritten depth))

/-- What a list has next, where its items stand in a text. -/
theorem nextItem_of_itemsStand {turns : Nat} {first : Bool} {cs rest : Input} {xs : List Json}
    (h : ItemsStand (readWritten depth) turns first cs xs rest) :
    (xs = [] ∧ Schema.nextItem first cs = .ok (.closed (']' :: rest))) ∨
    ∃ x xs' cs₁ cs' turns', xs = x :: xs' ∧ Schema.nextItem first cs = .ok (.item cs₁) ∧
      readWritten depth cs₁ = .ok (x, cs') ∧
      ItemsStand (readWritten depth) turns' false cs' xs' rest := by
  cases h with
  | closed hcs =>
    refine .inl ⟨rfl, ?_⟩
    rw [Schema.nextItem]
    simp only [hcs]
    rfl
  | first hcs hc hx hxs =>
    refine .inr ⟨_, _, _, _, _, rfl, ?_, hx, hxs⟩
    rw [Schema.nextItem]
    simp only [hcs, if_neg hc]
    rfl
  | @next _ _ tail _ _ _ _ hcs hx hxs =>
    obtain ⟨d, tail', htail, hd⟩ := (Json.valueStands_of_readWritten hx).skipSpace_eq
    refine .inr ⟨_, _, d :: tail', _, _, rfl, ?_, ?_, hxs⟩
    · rw [Schema.nextItem]
      simp only [hcs, htail, if_neg hd]
      rfl
    · rw [← htail, readWritten_skipSpace]
      exact hx

theorem agrees_closeList {turns : Nat} {first : Bool} {cs rest : Input} {xs : List Json}
    (h : ItemsStand (readWritten depth) turns first cs xs rest) (label : String)
    (given index : Nat) :
    Agrees rest ((Schema.closeList cs).map fun cs => ((), cs))
      (Fields.nil.decodeItems label given index xs) := by
  cases h with
  | closed hcs =>
    rw [Schema.closeList]
    simp only [hcs]
    exact .ok ()
  | first hcs hc _ _ =>
    rw [Schema.closeList]
    simp only [hcs, if_neg hc]
    exact .error _ _
  | next hcs _ _ =>
    rw [Schema.closeList]
    simp only [hcs]
    exact .error _ _

theorem mapM_map_sorted (s : Shape) (js : List Json) :
    (js.mapM s.decode).map (List.map s.sorted) =
      js.mapM fun j => (s.decode j).map s.sorted := by
  induction js with
  | nil => rfl
  | cons j js ih =>
    rw [List.mapM_cons, List.mapM_cons, ← ih]
    cases s.decode j with
    | error m => rfl
    | ok v => cases js.mapM s.decode <;> rfl

/-! ## All shapes -/

/-- The optional value of a shape for which the two decoders agree. -/
theorem agrees_optional {inner : Shape} {depth : Nat} {cs rest : Input} {j : Json}
    (hinner : ∀ {cs : Input}, readWritten depth cs = .ok (j, rest) →
      Agrees rest (inner.read depth cs) ((inner.decode j).map inner.sorted))
    (h : readWritten depth cs = .ok (j, rest)) :
    Agrees rest ((Shape.optional inner).read depth cs)
      (((Shape.optional inner).decode j).map (Shape.optional inner).sorted) := by
  by_cases hj : j = .null
  · subst hj
    rw [Shape.read, Shape.decode]
    cases Json.valueStands_of_readWritten h with
    | null hcs hword =>
      simp only [hcs, hword]
      exact .ok none
  · have hread : (Shape.optional inner).read depth cs =
        (inner.read depth (skipSpace cs)).map fun p => (some p.1, p.2) := by
      rw [Shape.read]
      dsimp only
      split
      · next tail hcs => exact absurd ((Json.valueStands_of_readWritten h).eq_null hcs) hj
      · rfl
    have hdecode : ((Shape.optional inner).decode j).map (Shape.optional inner).sorted =
        ((inner.decode j).map inner.sorted).map some := by
      rw [Shape.decode_optional hj, Json.map_map, Json.map_map]
      rfl
    rw [hread, hdecode]
    exact (hinner (by rwa [readWritten_skipSpace])).map some

/-- Both decoders take nothing but arrays for lists. -/
theorem agrees_list {item : Shape} {depth : Nat} {cs rest : Input} {j : Json}
    (hitem : ∀ {depth : Nat} {cs rest : Input} {j : Json}, readWritten depth cs = .ok (j, rest) →
      Agrees rest (item.read depth cs) ((item.decode j).map item.sorted))
    (h : readWritten depth cs = .ok (j, rest)) :
    Agrees rest ((Shape.list item).read depth cs)
      (((Shape.list item).decode j).map (Shape.list item).sorted) := by
  rw [Shape.read]
  cases Json.valueStands_of_readWritten h with
  | array hcs hnested hitems =>
    cases depth with
    | zero => cases hnested
    | succ depth =>
      cases hnested
      simp only [hcs, Shape.decode]
      show Agrees rest _ (Except.map (List.map item.sorted) _)
      rw [mapM_map_sorted]
      exact agrees_readItems (fun _ _ _ => hitem) hitems
  | null hcs | true hcs | false hcs | object hcs | string hcs =>
    simp only [hcs]
    exact .error _ _
  | number hcs hc =>
    simp only [hcs]
    split
    · next hbracket => cases hbracket; cases hc
    · exact .error _ _

/-- Both decoders take nothing but objects, and arrays of the fields, for records. -/
theorem agrees_record {name : String} {fields : Fields} (hfree : fields.isGroupFree = true)
    (hmembers : ∀ depth, fields.ReadsMembers depth)
    (hitems : ∀ {depth turns : Nat} {cs rest : Input} {xs : List Json} (label : String)
      (given : Nat), ItemsStand (readWritten depth) turns true cs xs rest →
      Agrees rest (fields.readItems label 0 depth cs)
        ((fields.decodeItems label given 0 xs).map fields.sorted))
    {depth : Nat} {cs rest : Input} {j : Json} (h : readWritten depth cs = .ok (j, rest)) :
    Agrees rest ((Shape.record name fields).read depth cs)
      (((Shape.record name fields).decode j).map (Shape.record name fields).sorted) := by
  rw [Shape.read]
  cases Json.valueStands_of_readWritten h with
  | object hcs hnested hstand =>
    cases depth with
    | zero => cases hnested
    | succ depth =>
      cases hnested
      simp only [hcs]
      exact Fields.ReadsMembers.agrees (hmembers depth) hfree name hstand
  | @array _ _ items _ hcs hnested hstand =>
    cases depth with
    | zero => cases hnested
    | succ depth =>
      cases hnested
      have hgroup := fields.hasGroup_of_isGroupFree hfree
      have hdecode : (Shape.record name fields).decode (.array items) =
          fields.decodeItems (Schema.lengthLabel name fields.size) items.length 0 items := by
        rw [Shape.decode, hgroup]
        rfl
      rw [hdecode]
      simp only [hcs, hgroup]
      exact hitems _ _ hstand
  | null hcs | true hcs | false hcs | string hcs =>
    simp only [hcs]
    exact .error _ _
  | @number _ _ tail _ hcs hc =>
    have hbrace := Json.ne_of_startsNumber hc '{' rfl
    have hbracket := Json.ne_of_startsNumber hc '[' rfl
    simp only [hcs, if_neg hbrace, hbracket]
    exact .error _ _

mutual

/-- **The two decoders agree.**  Where a value stands in a text, reading it as a value of a
shape comes to what converting the value as it is written comes to, up to the order of members
in the JSON values that the result holds; and it ends where the value ends. -/
theorem Shape.agrees_read : (s : Shape) → s.isGroupFree = true → ∀ {depth cs j rest},
    readWritten depth cs = .ok (j, rest) →
      Agrees rest (s.read depth cs) ((s.decode j).map s.sorted)
  | .text, _, depth, cs, j, rest, h => (agrees_text h).map_id fun _ => rfl
  | .integer type, _, depth, cs, j, rest, h => (agrees_integer type h).map_id fun _ => rfl
  | .decimal, _, depth, cs, j, rest, h => by
    rw [Shape.read, Shape.decode]
    exact (agrees_decimal h).map_id fun _ => rfl
  | .quantity, _, depth, cs, j, rest, h => by
    rw [Shape.read, Shape.decode]
    exact (agrees_decimal h).map_id fun _ => rfl
  | .choice names, _, depth, cs, j, rest, h => by
    rw [Shape.read, Shape.decode]
    exact (agrees_choice names h).map_id fun _ => rfl
  | .any, _, depth, cs, j, rest, h => by
    rw [Shape.read, Shape.decode, Json.readValue_eq_mapped, Json.mapped_apply, h]
    exact .ok j.sorted
  | .optional inner, hs, depth, cs, j, rest, h =>
    agrees_optional (fun h => inner.agrees_read hs h) h
  | .list item, hs, depth, cs, j, rest, h => agrees_list (fun h => item.agrees_read hs h) h
  | .record _ fields, hs, depth, cs, j, rest, h =>
    agrees_record hs (fields.agrees_readMember hs)
      (fun label given h => fields.agrees_readItems hs label given 0 h) h

theorem Fields.agrees_readMember : (fields : Fields) → fields.isGroupFree = true →
    (depth : Nat) → fields.ReadsMembers depth
  | .nil, _, _ => .nil
  | .cons _ _ shape others, hs, depth => by
    rw [Fields.isGroupFree, Bool.and_eq_true] at hs
    exact .cons (fun h => shape.agrees_read hs.1 h) (others.agrees_readMember hs.2 depth)
  | .embed _ _, hs, _ => nomatch hs

theorem Fields.agrees_readItems : (fields : Fields) → fields.isGroupFree = true →
    ∀ {depth turns cs xs rest} (label : String) (given index : Nat),
      ItemsStand (readWritten depth) turns (index == 0) cs xs rest →
      Agrees rest (fields.readItems label index depth cs)
        ((fields.decodeItems label given index xs).map fields.sorted)
  | .nil, _, depth, turns, cs, xs, rest, label, given, index, h =>
    (agrees_closeList h label given index).map_id fun _ => rfl
  | .cons _ presence shape others, hs, depth, turns, cs, xs, rest, label, given, index, h => by
    rw [Fields.isGroupFree, Bool.and_eq_true] at hs
    rw [Fields.readItems]
    dsimp only
    rcases nextItem_of_itemsStand h with
      ⟨rfl, hclosed⟩ | ⟨x, xs', cs₁, cs', turns', rfl, hitem, hx, hxs⟩
    · rw [Json.bind_of_ok hclosed, Fields.decodeItems]
      dsimp only
      cases habsent : if presence.mayLackItem = true then shape.absent? else none with
      | none => exact .error _ _
      | some v =>
        have hv : shape.sorted v = v := by
          refine Shape.sorted_of_absent? ?_
          split at habsent
          · exact habsent
          · cases habsent
        have hrest := others.agrees_readItems hs.2 label given (index + 1)
          (.closed rfl : ItemsStand (readWritten depth) 1 _ (']' :: rest) [] rest)
        dsimp only
        rw [Json.map_map]
        refine hrest.bind_ok fun vs => ?_
        show _ = Except.ok ((shape.sorted v, others.sorted vs), rest)
        rw [hv]
        rfl
    · have hvalue := shape.agrees_read hs.1 hx
      have hrest := others.agrees_readItems hs.2 label given (index + 1) hxs
      rw [Json.bind_of_ok hitem, Fields.decodeItems, Json.map_bind]
      refine hvalue.bind_map fun v => ?_
      rw [Json.map_bind]
      exact hrest.bind_map fun vs => .ok _
  | .embed _ _, hs, _, _, _, _, _, _, _, _, _ => nomatch hs

end

/-- A text has a value of a shape exactly if the value that is written there can be converted. -/
theorem Shape.ofText_of_written (s : Shape) (hs : s.isGroupFree = true) {text : String} {j : Json}
    (h : Json.writtenOfText text = .ok j) :
    (∀ v, s.decode j = .ok v → s.ofText text = .ok (s.sorted v)) ∧
    ∀ m, s.decode j = .error m → ∃ e, s.ofText text = .error e := by
  obtain ⟨rest, hread, hend⟩ := Json.exists_readWritten h
  have hagrees := s.agrees_read hs hread
  rw [Shape.ofText, Json.finish]
  refine ⟨fun v hv => ?_, fun m hm => ?_⟩
  · rw [hv] at hagrees
    rw [hagrees.eq_ok]
    exact if_pos hend
  · rw [hm] at hagrees
    generalize s.read Json.maxDepth text.toList = r at hagrees
    cases hagrees with
    | error e _ => exact ⟨e, rfl⟩

end ExchangeClient

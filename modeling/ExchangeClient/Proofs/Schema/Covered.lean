import ExchangeClient.Proofs.Json.Grammar
import ExchangeClient.Proofs.Schema.Seen

/-!
# Only values are read

Whatever a reader of a plain shape reads is a value as `Source` has it, and a text that decodes is
the text of a `Document` (`Shape.exists_document`).  So what is said of documents is said of all
texts that decode.

A reader that keeps what it reads accepts no more words than one that passes over them, which
settles the words; the loops are followed to their closing brackets as the walk is in
`Proofs.Json.Grammar`, and the induction is on the shape.
-/

namespace ExchangeClient

open Json (Input Reader Source Space Frame Lists skipSpace expectColon readString readNumber
  readItems readMembers)

/-- Whether a reader reads nothing but values. -/
def ReadsOnlyValues {α : Type} (read : Reader α) : Prop :=
  ∀ (cs rest : Input) (v : α), read cs = .ok (v, rest) →
    ∃ t : Source, skipSpace cs = t.chars ++ rest

/-- Whether a reader reads nothing but a colon and a value behind it. -/
def ReadsOnlyBehindColon {α : Type} (read : Reader α) : Prop :=
  ∀ (cs rest : Input) (v : α), read cs = .ok (v, rest) →
    ∃ (cs₁ : Input) (t : Source), expectColon cs = .ok cs₁ ∧ skipSpace cs₁ = t.chars ++ rest

/-! ## Words -/

section

variable {cs rest : Input}

theorem exists_string {s : List Char} (h : readString cs = .ok (s, rest)) :
    ∃ t : Source, '"' :: cs = t.chars ++ rest := by
  obtain ⟨q, rfl⟩ := Json.exists_quoted (Json.skipString_of_readString h)
  exact ⟨.string q, rfl⟩

theorem exists_number {n : Json.Number} (h : readNumber cs = .ok (n, rest)) :
    ∃ t : Source, cs = t.chars ++ rest := by
  obtain ⟨n, rfl⟩ := Json.exists_numeral (Json.skipNumber_of_readNumber h)
  exact ⟨.number n, rfl⟩

end

theorem exists_key_of_readText {label : String} {cs rest : Input} {s : String}
    (h : Schema.readText label cs = .ok (s, rest)) :
    ∃ behind key, skipSpace cs = '"' :: behind ∧ readString behind = .ok (key, rest) := by
  rw [Schema.readText] at h
  split at h
  · next behind hcs =>
    obtain ⟨p, hp, heq⟩ := Json.ok_of_map h
    cases heq
    exact ⟨behind, p.1, hcs, hp⟩
  · cases h

theorem readsOnlyValues_text (label : String) : ReadsOnlyValues (Schema.readText label) := by
  intro cs rest s h
  obtain ⟨behind, key, hcs, hkey⟩ := exists_key_of_readText h
  rw [hcs]
  exact exists_string hkey

theorem readsOnlyValues_integer (type : IntegerType) :
    ReadsOnlyValues (Schema.readInteger type) := by
  intro cs rest v h
  rw [Schema.readInteger] at h
  split at h
  · cases h
  · next c tail hcs =>
    split at h
    · obtain ⟨p, hp, h⟩ := Json.ok_of_bind h
      obtain ⟨w, hw, heq⟩ := Json.ok_of_bind h
      cases heq
      rw [hcs]
      exact exists_number hp
    · cases h

theorem readsOnlyValues_decimal : ReadsOnlyValues Schema.readDecimal := by
  intro cs rest v h
  rw [Schema.readDecimal] at h
  split at h
  · cases h
  · next c tail hcs =>
    split at h
    · obtain ⟨p, hp, h⟩ := Json.ok_of_bind h
      obtain ⟨w, hw, heq⟩ := Json.ok_of_bind h
      cases heq
      rw [hcs]
      exact exists_number hp
    · split at h
      · next hc =>
        obtain ⟨p, hp, h⟩ := Json.ok_of_bind h
        obtain ⟨w, hw, heq⟩ := Json.ok_of_bind h
        cases heq
        rw [hcs, hc]
        exact exists_string hp
      · cases h

theorem readsOnlyValues_unit : ReadsOnlyValues Schema.readUnit := by
  intro cs rest v h
  rw [Schema.readUnit] at h
  split at h
  · next tail hcs =>
    obtain ⟨behind, hbehind, heq⟩ := Json.ok_of_map h
    cases heq
    rw [hcs, Json.eq_append_of_expectWord hbehind]
    exact ⟨.null, rfl⟩
  · cases h

/-! ## Loops -/

section

variable {α σ : Type} {cs rest : Input}

/-- A value that a reader reads is a word of a list. -/
theorem ReadsOnlyValues.exists_item {read : Reader α} (h : ReadsOnlyValues read)
    {front tail : Input} {v : α} (hfront : skipSpace front = skipSpace cs)
    (hread : read cs = .ok (v, tail)) :
    ∃ w, front = w ++ tail ∧ ∀ after : Space, Frame.list.Word (w ++ after.val) := by
  obtain ⟨t, ht⟩ := h cs tail v hread
  exact Frame.exists_word hfront rfl ht

/-- A loop over items reads nothing but the items of a list. -/
theorem ReadsOnlyValues.lists {read : Reader α} (h : ReadsOnlyValues read) {turns : Nat}
    {first : Bool} {vs : List α} (hread : readItems read turns first cs = .ok (vs, rest)) :
    Lists Frame.list.Word ']' first cs rest := by
  induction turns generalizing first cs vs with
  | zero => cases hread
  | succ turns ih =>
    rw [readItems] at hread
    split at hread
    · cases hread
    · next c tail hcs =>
      split_ifs at hread with hclosing hfirst hcomma
      · cases hread
        rw [hclosing] at hcs
        exact .closed hcs
      · obtain ⟨p, hitem, hread⟩ := Json.ok_of_bind hread
        obtain ⟨q, hitems, heq⟩ := Json.ok_of_bind hread
        cases heq
        have hfront : skipSpace cs = skipSpace (c :: tail) := by
          rw [← hcs, Json.skipSpace_skipSpace]
        obtain ⟨w, rfl, hw⟩ := h.exists_item hfront hitem
        rw [hfirst]
        exact .cons hw (ih hitems)
      · obtain ⟨p, hitem, hread⟩ := Json.ok_of_bind hread
        obtain ⟨q, hitems, heq⟩ := Json.ok_of_bind hread
        cases heq
        obtain ⟨w, rfl, hw⟩ := h.exists_item rfl hitem
        rw [Bool.not_eq_true] at hfirst
        rw [hcomma] at hcs
        rw [hfirst]
        exact .comma hcs hw (ih hitems)

/-- A key, a colon and a value are a word of an object. -/
theorem exists_word_of_key {front cs₁ cs₂ tail : Input} {key : List Char} {t : Source}
    (hfront : skipSpace front = '"' :: cs) (hkey : readString cs = .ok (key, cs₁))
    (hcolon : expectColon cs₁ = .ok cs₂) (ht : skipSpace cs₂ = t.chars ++ tail) :
    ∃ w, front = w ++ tail ∧ ∀ after : Space, Frame.object.Word (w ++ after.val) := by
  have hspace : skipSpace ('"' :: cs) = '"' :: cs := rfl
  have hlead : Frame.object.lead ('"' :: cs) = .ok cs₂ := by
    rw [Frame.lead, Json.skipKey, hspace]
    dsimp only
    rw [if_pos rfl, Json.bind_of_ok (Json.skipString_of_readString hkey)]
    exact hcolon
  exact Frame.exists_word (hfront.trans hspace.symm) hlead ht

theorem exists_member {member : String → σ → Reader σ}
    (h : ∀ key state, ReadsOnlyBehindColon (member key state)) {members : σ → Reader σ}
    {state : σ} {front : Input} {out : σ × Input} (hfront : skipSpace front = '"' :: cs)
    (hread : Json.readMember member members state cs = .ok out) :
    ∃ w tail state', front = w ++ tail ∧ (∀ after : Space, Frame.object.Word (w ++ after.val)) ∧
      members state' tail = .ok out := by
  obtain ⟨p, hkey, hread⟩ := Json.ok_of_bind hread
  obtain ⟨q, hmember, hread⟩ := Json.ok_of_bind hread
  obtain ⟨cs₁, t, hcolon, ht⟩ := h _ _ _ _ _ hmember
  obtain ⟨w, hw, hword⟩ := exists_word_of_key hfront hkey hcolon ht
  exact ⟨w, q.2, q.1, hw, hword, hread⟩

/-- A loop over members reads nothing but the members of an object. -/
theorem lists_of_readMembers {member : String → σ → Reader σ}
    (h : ∀ key state, ReadsOnlyBehindColon (member key state)) {turns : Nat} {first : Bool}
    {state state' : σ} (hread : readMembers member turns first state cs = .ok (state', rest)) :
    Lists Frame.object.Word '}' first cs rest := by
  induction turns generalizing first cs state with
  | zero => cases hread
  | succ turns ih =>
    rw [readMembers] at hread
    split at hread
    · cases hread
    · next c tail hcs =>
      split_ifs at hread with hclosing hfirst hquote hcomma
      · cases hread
        rw [hclosing] at hcs
        exact .closed hcs
      · rw [hquote] at hcs
        obtain ⟨w, behind, state₁, rfl, hw, hmembers⟩ := exists_member h hcs hread
        rw [hfirst]
        exact .cons hw (ih hmembers)
      · split at hread
        · cases hread
        · next q tail' htail =>
          split at hread
          · next hquote =>
            rw [hquote] at htail
            rw [hcomma] at hcs
            obtain ⟨w, behind, state₁, rfl, hw, hmembers⟩ := exists_member h htail hread
            rw [Bool.not_eq_true] at hfirst
            rw [hfirst]
            exact .comma hcs hw (ih hmembers)
          · cases hread

end

/-! ## Choices -/

theorem readsOnlyValues_choice (names : List String) (depth : Nat) :
    ReadsOnlyValues (Schema.readChoice names depth) := by
  intro cs rest v h
  rw [Schema.readChoice] at h
  split at h
  · cases h
  · next c tail hcs =>
    split_ifs at h with hquote hbrace hdepth
    · obtain ⟨p, hp, h⟩ := Json.ok_of_bind h
      obtain ⟨w, hw, heq⟩ := Json.ok_of_bind h
      cases heq
      rw [hcs, hquote]
      exact exists_string hp
    · obtain ⟨p, hname, h⟩ := Json.ok_of_bind h
      obtain ⟨behind, key, hbehind, hkey⟩ := exists_key_of_readText hname
      obtain ⟨i, -, h⟩ := Json.ok_of_bind h
      obtain ⟨cs₂, hcolon, h⟩ := Json.ok_of_bind h
      obtain ⟨q, hunit, h⟩ := Json.ok_of_bind h
      obtain ⟨t, ht⟩ := readsOnlyValues_unit cs₂ q.2 () hunit
      obtain ⟨w, hw, hword⟩ := exists_word_of_key hbehind hkey hcolon ht
      dsimp only at h
      split at h
      · cases h
      · next d tail' hclosed =>
        split at h
        · next hd =>
          cases h
          rw [hd] at hclosed
          have hlists : Lists Frame.object.Word '}' true tail rest := by
            rw [hw]
            exact .cons hword (.closed hclosed)
          rw [hcs, hbrace]
          exact hlists.exists_object
        · cases h

/-! ## Records -/

section

variable {depth : Nat} {cs rest : Input}

/-- A member of a record is a colon and a value, whether a field has its key or not. -/
theorem readsOnlyBehindColon_readInto {σ : Type} {find : String → σ → Option (Reader σ)}
    (h : ∀ key state read, find key state = some read → ReadsOnlyBehindColon read) (key : String)
    (state : σ × List (String × Json)) :
    ReadsOnlyBehindColon (Fields.readInto depth false find key state) := by
  intro cs rest v hread
  rw [Fields.readInto] at hread
  split at hread
  · next read hfind =>
    obtain ⟨p, hp, heq⟩ := Json.ok_of_bind hread
    cases heq
    exact h key state.1 read hfind cs p.2 p.1 hp
  · obtain ⟨p, hother, heq⟩ := Json.ok_of_bind hread
    cases heq
    obtain ⟨cs₁, hcolon, hother⟩ := Json.ok_of_bind hother
    rw [if_neg Bool.false_ne_true] at hother
    obtain ⟨behind, hskip, heq⟩ := Json.ok_of_bind hother
    cases heq
    obtain ⟨t, ht⟩ := Json.exists_source_of_skipValue hskip
    exact ⟨cs₁, t, hcolon, ht⟩

/-- What is next in a list of fields is its bracket, or an item behind a comma unless it is the
first. -/
theorem cases_of_nextItem {first : Bool} {next : Schema.NextItem}
    (h : Schema.nextItem first cs = .ok next) :
    (∃ tail, skipSpace cs = ']' :: tail ∧ next = .closed (']' :: tail)) ∨
      (first = true ∧ next = .item (skipSpace cs)) ∨
      (first = false ∧ ∃ tail, skipSpace cs = ',' :: tail ∧ next = .item (skipSpace tail)) := by
  rw [Schema.nextItem] at h
  split at h
  · cases h
  · next c tail hcs =>
    split_ifs at h with hclosing hfirst hcomma
    · cases h
      rw [hclosing] at hcs ⊢
      exact .inl ⟨tail, hcs, rfl⟩
    · cases h
      exact .inr (.inl ⟨hfirst, by rw [hcs]⟩)
    · split at h
      · cases h
      · next d behind hbehind =>
        split at h
        · cases h
        · cases h
          rw [hcomma] at hcs
          exact .inr (.inr ⟨Bool.eq_false_iff.mpr hfirst, tail, hcs, by rw [hbehind]⟩)

/-- Where the list of the fields is at its end, nothing is left to read but the bracket. -/
theorem Fields.eq_of_readItems_closed : (fields : Fields) → (label : String) →
    (index depth : Nat) → {cs rest : Input} → {v : fields.Value} →
    fields.readItems label index depth (']' :: cs) = .ok (v, rest) → rest = cs
  | .nil, _, _, _, _, _, _, h => by
    rw [Fields.readItems] at h
    obtain ⟨behind, hclose, heq⟩ := Json.ok_of_map h
    cases heq
    cases hclose
    rfl
  | .cons _ _ _ others, label, index, depth, cs, rest, v, h => by
    rw [Fields.readItems] at h
    have hnext : Schema.nextItem (index == 0) (']' :: cs) = .ok (.closed (']' :: cs)) := rfl
    dsimp only at h
    rw [Json.bind_of_ok hnext] at h
    dsimp only at h
    split at h
    · cases h
    · obtain ⟨p, hothers, heq⟩ := Json.ok_of_bind h
      cases heq
      exact others.eq_of_readItems_closed label (index + 1) depth hothers
  | .embed _ _, _, _, _, _, _, _, h => by cases h

end

mutual

/-- **Only values are read.** -/
theorem Shape.readsOnlyValues : (s : Shape) → s.isPlain = true → (depth : Nat) →
    ReadsOnlyValues (s.read depth)
  | .text, _, _ => readsOnlyValues_text "a string"
  | .integer type, _, _ => readsOnlyValues_integer type
  | .decimal, _, _ => by
    rw [Shape.read]
    exact readsOnlyValues_decimal
  | .quantity, _, _ => by
    rw [Shape.read]
    exact readsOnlyValues_decimal
  | .choice names, _, depth => by
    rw [Shape.read]
    exact readsOnlyValues_choice names depth
  | .optional inner, hs, depth => by
    intro cs rest v h
    rw [Shape.read] at h
    dsimp only at h
    split at h
    · next tail hcs =>
      obtain ⟨behind, hbehind, heq⟩ := Json.ok_of_map h
      cases heq
      rw [hcs, Json.eq_append_of_expectWord hbehind]
      exact ⟨.null, rfl⟩
    · obtain ⟨p, hp, heq⟩ := Json.ok_of_map h
      cases heq
      obtain ⟨t, ht⟩ := inner.readsOnlyValues hs depth _ _ _ hp
      rw [Json.skipSpace_skipSpace] at ht
      exact ⟨t, ht⟩
  | .list item, hs, depth => by
    intro cs rest v h
    rw [Shape.read] at h
    dsimp only at h
    split at h
    · next tail hcs =>
      cases depth with
      | zero => cases h
      | succ depth =>
        rw [hcs]
        exact ((item.readsOnlyValues hs depth).lists h).exists_array
    · cases h
  | .record name fields, hs, depth => by
    intro cs rest v h
    have hgroup := fields.hasGroup_of_isGroupFree (fields.isGroupFree_of_isPlain hs)
    rw [Shape.read] at h
    dsimp only at h
    split at h
    · cases h
    · next c tail hcs =>
      rw [hgroup] at h
      split at h
      · next hc =>
        cases depth with
        | zero => cases h
        | succ depth =>
          obtain ⟨p, hobject, h⟩ := Json.ok_of_bind h
          obtain ⟨w, -, heq⟩ := Json.ok_of_bind h
          cases heq
          rw [hcs, hc]
          exact (lists_of_readMembers (fun key state =>
            readsOnlyBehindColon_readInto (fun key slots read hread =>
              fields.readsOnlyBehindColon hs depth key slots read hread) key state)
            hobject).exists_object
      · split at h
        · next hc =>
          cases depth with
          | zero => cases h
          | succ depth =>
            have hbracket : c = '[' := by simpa using hc
            rw [hcs, hbracket]
            exact (fields.lists_of_readItems hs (Schema.lengthLabel name fields.size) 0
              h).exists_array
        · cases h

theorem Fields.readsOnlyBehindColon : (fields : Fields) → fields.isPlain = true → (depth : Nat) →
    (key : String) → (slots : fields.Slots) → (read : Reader fields.Slots) →
    fields.readMember key depth slots = some read → ReadsOnlyBehindColon read
  | .nil, _, _, _, _, _, h => by cases h
  | .cons k _ shape others, hs, depth, key, (slot, slots), read, h => by
    rw [Fields.isPlain, Bool.and_eq_true] at hs
    rw [Fields.readMember] at h
    intro cs rest v hread
    split at h
    · cases h
      obtain ⟨p, hfill, heq⟩ := Json.ok_of_map hread
      cases heq
      cases slot with
      | some v => cases hfill
      | none =>
        rw [Fields.readFill] at hfill
        obtain ⟨cs₁, hcolon, hfill⟩ := Json.ok_of_bind hfill
        obtain ⟨q, hvalue, heq⟩ := Json.ok_of_bind hfill
        cases heq
        obtain ⟨t, ht⟩ := shape.readsOnlyValues hs.1 depth _ _ _ hvalue
        exact ⟨cs₁, t, hcolon, ht⟩
    · obtain ⟨readOther, hother, rfl⟩ := Option.map_eq_some_iff.mp h
      obtain ⟨p, hp, heq⟩ := Json.ok_of_map hread
      cases heq
      exact others.readsOnlyBehindColon hs.2 depth key slots readOther hother _ _ _ hp
  | .embed _ _, hs, _, _, _, _, _ => by cases hs

theorem Fields.lists_of_readItems : (fields : Fields) → fields.isPlain = true →
    (label : String) → (index : Nat) → {depth : Nat} → {cs rest : Input} → {v : fields.Value} →
    fields.readItems label index depth cs = .ok (v, rest) →
    Lists Frame.list.Word ']' (index == 0) cs rest
  | .nil, _, _, _, _, cs, rest, _, h => by
    obtain ⟨behind, hclose, heq⟩ := Json.ok_of_map h
    cases heq
    rw [Schema.closeList] at hclose
    split at hclose
    · cases hclose
    · next c tail hcs =>
      split at hclose
      · next hc =>
        cases hclose
        rw [hc] at hcs
        exact .closed hcs
      · cases hclose
  | .cons _ presence shape others, hs, label, index, depth, cs, rest, v, h => by
    rw [Fields.isPlain, Bool.and_eq_true] at hs
    rw [Fields.readItems] at h
    obtain ⟨next, hnext, h⟩ := Json.ok_of_bind h
    obtain ⟨tail, hcs, rfl⟩ | ⟨hfirst, rfl⟩ | ⟨hfirst, tail, hcs, rfl⟩ := cases_of_nextItem hnext
    · dsimp only at h
      split at h
      · cases h
      · obtain ⟨p, hothers, heq⟩ := Json.ok_of_bind h
        cases heq
        rw [others.eq_of_readItems_closed label (index + 1) depth hothers]
        exact .closed hcs
    · obtain ⟨p, hvalue, h⟩ := Json.ok_of_bind h
      obtain ⟨q, hothers, heq⟩ := Json.ok_of_bind h
      cases heq
      obtain ⟨w, rfl, hw⟩ := (shape.readsOnlyValues hs.1 depth).exists_item
        (Json.skipSpace_skipSpace cs).symm hvalue
      rw [hfirst]
      exact .cons hw (others.lists_of_readItems hs.2 label (index + 1) hothers)
    · obtain ⟨p, hvalue, h⟩ := Json.ok_of_bind h
      obtain ⟨q, hothers, heq⟩ := Json.ok_of_bind h
      cases heq
      obtain ⟨w, rfl, hw⟩ := (shape.readsOnlyValues hs.1 depth).exists_item
        (Json.skipSpace_skipSpace tail).symm hvalue
      rw [hfirst]
      exact .comma hcs hw (others.lists_of_readItems hs.2 label (index + 1) hothers)
  | .embed _ _, hs, _, _, _, _, _, _, _ => by cases hs

end

/-- **What decodes is the text of a document.** -/
theorem Shape.exists_document {s : Shape} (hs : s.isPlain = true) {text : String} {v : s.Value}
    (h : s.ofText text = .ok v) : ∃ doc : Json.Document, doc.text = text := by
  obtain ⟨p, hread, hfinish⟩ := Json.ok_of_bind h
  dsimp only at hfinish
  split at hfinish
  · next hend =>
    rw [List.isEmpty_iff] at hend
    obtain ⟨t, ht⟩ := s.readsOnlyValues hs Json.maxDepth _ _ _ hread
    obtain ⟨before, hbefore⟩ := Json.exists_space text.toList
    obtain ⟨after, hafter⟩ := Json.exists_space p.2
    rw [hend, List.append_nil] at hafter
    refine ⟨⟨before, t, after⟩, ?_⟩
    rw [Json.Document.text, Json.Padded.chars, ← hafter, ← ht, ← hbefore, String.ofList_toList]
  · cases hfinish

end ExchangeClient

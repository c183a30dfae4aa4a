import ExchangeClient.Proofs.Json.Passing
import ExchangeClient.Proofs.Schema.Members
import ExchangeClient.Proofs.Schema.Reading

/-!
# What a shape sees of a text

A reader of a shape looks at a part of a text only: behind a key that no field has it passes over
whatever is there.  `Shape.seen` is the part that it looks at, as a JSON value.  Readers of words
and of choices are settled here: reading a word comes to what converting that value comes to.

What is seen of a word that cannot be read is `Json.unreadable`, which no shape takes that is
`isPlain`: such a shape has no embedded group, for which unknown members are kept, and does not
ask for just any value.
-/

namespace ExchangeClient

open Json (DecodeError Mismatch Input Source Padded Member Space Quoted EndsNumber listed skipSpace
  expectColon readString readNumber)

/-! ## Plain shapes -/

mutual

/-- Whether a shape has no embedded group and does not ask for any value. -/
def Shape.isPlain : Shape → Bool
  | .optional inner => inner.isPlain
  | .list item => item.isPlain
  | .record _ fields => fields.isPlain
  | .text | .integer _ | .decimal | .quantity | .choice _ => true
  | .any => false

/-- Whether some fields hold no embedded group, and their shapes are plain. -/
def Fields.isPlain : Fields → Bool
  | .nil => true
  | .cons _ _ shape rest => shape.isPlain && rest.isPlain
  | .embed _ _ => false

end

mutual

theorem Shape.isGroupFree_of_isPlain : (s : Shape) → s.isPlain = true → s.isGroupFree = true
  | .optional inner, h => inner.isGroupFree_of_isPlain h
  | .list item, h => item.isGroupFree_of_isPlain h
  | .record _ fields, h => fields.isGroupFree_of_isPlain h
  | .text, _ | .integer _, _ | .decimal, _ | .quantity, _ | .choice _, _ => rfl
  | .any, h => nomatch h

theorem Fields.isGroupFree_of_isPlain : (fields : Fields) → fields.isPlain = true →
    fields.isGroupFree = true
  | .nil, _ => rfl
  | .cons _ _ shape rest, h => by
    rw [Fields.isPlain, Bool.and_eq_true] at h
    rw [Fields.isGroupFree, shape.isGroupFree_of_isPlain h.1, rest.isGroupFree_of_isPlain h.2]
    rfl
  | .embed _ _, h => nomatch h

end

/-! ## What is seen -/

/-- What stands for everything that cannot be read.  No plain shape takes it. -/
def Json.unreadable : Json := .bool true

/-- What is seen of a value from outside. -/
def Json.Source.seen : Source → Json
  | .null => .null
  | .bool b => .bool b
  | .string q =>
    match q.text? with
    | some s => .string s
    | none => Json.unreadable
  | .number n =>
    match n.read with
    | .ok v => .number v
    | .error _ => Json.unreadable
  | .array _ _ => .array []
  | .object _ _ => .object []

/-- What is seen of a member, if its key can be read. -/
def Json.Member.seen (see : String → Source → Json) (m : Member Source) : Option (String × Json) :=
  m.key.text?.map fun key => (key, see key m.value.value)

/-- What is seen of the members of an object, if every key can be read. -/
def Json.seenMembers (see : String → Source → Json) (members : List (Member Source)) : Json :=
  match members.mapM (Member.seen see) with
  | some seen => .object seen
  | none => Json.unreadable

/-- What a choice of names sees: the name, or an object with the name as a key. -/
def Json.Source.seenByChoice (depth : Nat) : Source → Json
  | .object members _ =>
    match depth with
    | 0 => Json.unreadable
    | _ + 1 => Json.seenMembers (fun _ t => t.seen) members
  | t => t.seen

mutual

/-- What a shape sees of a value, if `depth` containers may still be opened. -/
def Shape.seen : (s : Shape) → (depth : Nat) → Source → Json
  | .choice _, depth, t => t.seenByChoice depth
  | .optional inner, depth, t => inner.seen depth t
  | .list item, depth, .array items _ =>
    match depth with
    | 0 => Json.unreadable
    | depth + 1 => .array (items.map fun x => item.seen depth x.value)
  | .record _ fields, depth, .object members _ =>
    match depth with
    | 0 => Json.unreadable
    | depth + 1 => Json.seenMembers (fun key t => fields.seenMember depth key t) members
  | .record _ fields, depth, .array items _ =>
    match depth with
    | 0 => Json.unreadable
    | depth + 1 => .array (fields.seenItems depth items)
  | _, _, t => t.seen

/-- What is seen of the value of a member: what its field sees, and nothing if it has none. -/
def Fields.seenMember : (fields : Fields) → (depth : Nat) → (key : String) → Source → Json
  | .nil, _, _, _ => .null
  | .cons k _ shape rest, depth, key, t =>
    if key = k then shape.seen depth t else rest.seenMember depth key t
  | .embed _ rest, depth, key, t => rest.seenMember depth key t

/-- What is seen of the items of a list of fields. -/
def Fields.seenItems : (fields : Fields) → (depth : Nat) → List (Padded Source) → List Json
  | .cons _ _ shape rest, depth, x :: items =>
    shape.seen depth x.value :: rest.seenItems depth items
  | _, _, items => items.map fun _ => .null

end

/-! ## Words -/

/-- Whatever comes to the same values agrees with the same reader. -/
theorem Agrees.congr {α : Type} {rest : Input} {r : Except DecodeError (α × Input)}
    {d d' : Except Mismatch α} (h : Agrees rest r d) (hd : ∀ v, d = .ok v ↔ d' = .ok v) :
    Agrees rest r d' := by
  cases h with
  | ok v =>
    rw [(hd v).mp rfl]
    exact .ok v
  | error e m =>
    cases d' with
    | ok v => cases (hd v).mpr rfl
    | error m' => exact .error e m'

section

variable {depth : Nat} {cs rest : Input} {t : Source}

theorem agrees_text_seen (label : String) (hcs : skipSpace cs = t.chars ++ rest) :
    Agrees rest (Schema.readText label cs) (Shape.text.decode t.seen) := by
  rw [Schema.readText, hcs]
  cases t with
  | string q =>
    show Agrees rest ((readString (q.chars ++ rest)).map _) _
    rw [Json.readString_chars, Source.seen, Quoted.text?]
    cases Json.Glyph.decode q.glyphs with
    | none => exact .error _ _
    | some s => exact .ok _
  | null | array | object => exact .error _ _
  | bool b => cases b <;> exact .error _ _
  | number n =>
    obtain ⟨c, tail, htail, hc⟩ := n.exists_cons
    have hfail : Agrees (α := String) rest (.error (Schema.unexpected label (n.chars ++ rest)))
        (Shape.text.decode (Source.number n).seen) := by
      rw [Source.seen]
      cases n.read <;> exact .error _ _
    rw [Source.chars]
    rw [htail, List.cons_append] at hfail ⊢
    split
    · next hquote => cases hquote; cases hc
    · exact hfail

/-- A number is read as what is seen of it. -/
theorem agrees_number_seen {α : Type} (n : Json.Numeral) (hrest : EndsNumber rest)
    (convert : Json → Except Mismatch α) (ofNumber : Json.Number → Except Mismatch α)
    (hnumber : ∀ v, convert (.number v) = ofNumber v)
    (hfail : ∃ m, convert Json.unreadable = .error m) :
    Agrees rest
      (do
        let (v, cs) ← readNumber (n.chars ++ rest)
        return (← Schema.orMismatch (ofNumber v), cs))
      (convert (Source.number n).seen) := by
  rw [Json.readNumber_chars n hrest, Source.seen]
  cases n.read with
  | ok v =>
    dsimp only
    rw [hnumber]
    exact .of_orMismatch _
  | error e =>
    obtain ⟨m, hm⟩ := hfail
    dsimp only
    rw [hm]
    exact .error e m

theorem agrees_integer_seen (type : IntegerType) (hcs : skipSpace cs = t.chars ++ rest)
    (hrest : EndsNumber rest) :
    Agrees rest (Schema.readInteger type cs) ((Shape.integer type).decode t.seen) := by
  rw [Schema.readInteger, hcs]
  cases t with
  | number n =>
    obtain ⟨c, tail, htail, hc⟩ := n.exists_cons
    have hread := agrees_number_seen n hrest (Shape.integer type).decode
      (Schema.integerOfNumber type) (fun _ => rfl) ⟨_, rfl⟩
    rw [Source.chars]
    rw [htail, List.cons_append] at hread ⊢
    dsimp only
    rw [if_pos hc]
    exact hread
  | null | array | object => exact .error _ _
  | bool b => cases b <;> exact .error _ _
  | string q =>
    rw [Source.seen]
    cases q.text? <;> exact .error _ _

theorem agrees_decimal_seen (hcs : skipSpace cs = t.chars ++ rest) (hrest : EndsNumber rest) :
    Agrees rest (Schema.readDecimal cs) (Schema.decimalOfJson t.seen) := by
  rw [Schema.readDecimal, hcs]
  cases t with
  | number n =>
    obtain ⟨c, tail, htail, hc⟩ := n.exists_cons
    have hread := agrees_number_seen n hrest Schema.decimalOfJson Schema.decimalOfNumber
      (fun _ => rfl) ⟨_, rfl⟩
    rw [Source.chars]
    rw [htail, List.cons_append] at hread ⊢
    dsimp only
    rw [if_pos hc]
    exact hread
  | string q =>
    show Agrees rest (readString (q.chars ++ rest) >>= _) _
    rw [Json.readString_chars, Source.seen, Quoted.text?]
    cases Json.Glyph.decode q.glyphs with
    | none => exact .error _ _
    | some s => exact .of_orMismatch _
  | null | array | object => exact .error _ _
  | bool b => cases b <;> exact .error _ _

theorem agrees_unit_seen (hcs : skipSpace cs = t.chars ++ rest) :
    Agrees rest (Schema.readUnit cs) (Schema.unitOfJson t.seen) := by
  rw [Schema.readUnit, hcs]
  cases t with
  | null => exact .ok ()
  | array | object => exact .error _ _
  | bool b => cases b <;> exact .error _ _
  | string q =>
    rw [Source.seen]
    cases q.text? <;> exact .error _ _
  | number n =>
    obtain ⟨c, tail, htail, hc⟩ := n.exists_cons
    have hfail : Agrees (α := Unit) rest (.error (Schema.unexpected "unit" (n.chars ++ rest)))
        (Schema.unitOfJson (Source.number n).seen) := by
      rw [Source.seen]
      cases n.read <;> exact .error _ _
    rw [Source.chars]
    rw [htail, List.cons_append] at hfail ⊢
    split
    · next hn => cases hn; cases hc
    · exact hfail

/-- A key is read as what it stands for, and the value of its member follows. -/
theorem readString_member (m : Member Source) (rest : Input) :
    readString (m.tail ++ rest) = Json.stringOutcome (Json.Glyph.decode m.key.glyphs)
      (m.beforeColon.val ++ ':' :: (m.value.chars ++ rest)) := by
  rw [m.tail_append, Json.readString_chars]

theorem seenMembers_cons_of_none {see : String → Source → Json} {m : Member Source}
    {members : List (Member Source)} (h : m.key.text? = none) :
    Json.seenMembers see (m :: members) = Json.unreadable := by
  rw [Json.seenMembers, List.mapM_cons, Member.seen, h]
  rfl

/-- An object of several members is no choice. -/
theorem choiceOfJson_seenMembers (names : List String) (see : String → Source → Json)
    (m m' : Member Source) (members : List (Member Source)) :
    ∃ e, Schema.choiceOfJson names (Json.seenMembers see (m :: m' :: members)) = .error e := by
  rw [Json.seenMembers, List.mapM_cons, List.mapM_cons]
  cases m.seen see with
  | none => exact ⟨_, rfl⟩
  | some p =>
    cases m'.seen see with
    | none => exact ⟨_, rfl⟩
    | some p' =>
      cases members.mapM (Member.seen see) with
      | none => exact ⟨_, rfl⟩
      | some seen => exact ⟨_, rfl⟩

/-- The value of a choice that is written as an object: nothing, and the object ends. -/
theorem agrees_onlyUnit_seen {α : Type} (v : α) {rest' : Input}
    (hcs : skipSpace cs = t.chars ++ rest') (hend : skipSpace rest' = '}' :: rest) :
    Agrees rest
      (do
        let ((), cs) ← Schema.readUnit cs
        match skipSpace cs with
        | [] => throw .truncated
        | c :: rest => if c = '}' then return (v, rest) else throw .malformed)
      (do
        Schema.unitOfJson t.seen
        return v) := by
  refine (agrees_unit_seen hcs).bind fun _ => ?_
  dsimp only
  rw [hend]
  exact .ok v

/-- An object with another member behind it writes no choice. -/
theorem agrees_otherUnit_seen {α : Type} (v : α) (e : Mismatch) {rest' : Input}
    (hcs : skipSpace cs = t.chars ++ rest') (hcomma : ∃ tail, skipSpace rest' = ',' :: tail) :
    Agrees rest
      (do
        let ((), cs) ← Schema.readUnit cs
        match skipSpace cs with
        | [] => throw .truncated
        | c :: rest => if c = '}' then return (v, rest) else throw .malformed)
      (.error e) := by
  obtain ⟨tail, hcomma⟩ := hcomma
  have hunit := agrees_unit_seen hcs
  generalize Schema.readUnit cs = unit, Schema.unitOfJson t.seen = unit' at hunit
  cases hunit with
  | ok _ =>
    rw [Json.bind_of_ok rfl]
    dsimp only
    rw [hcomma]
    exact .error _ _
  | error e' m => exact .error _ _

/-- The object form of a choice has one member, whose key is the name and whose value is null. -/
theorem agrees_choiceObject_seen (names : List String) (members : List (Member Source))
    (space : Space) (rest : Input) :
    Agrees rest
      (do
        let (s, cs) ← Schema.readText "variant identifier"
          (listed true (members.map Member.chars) ++ (space.val ++ '}' :: rest))
        let i ← Schema.orMismatch (Schema.variant names s)
        let ((), cs) ← Schema.readUnit (← expectColon cs)
        match skipSpace cs with
        | [] => throw .truncated
        | c :: rest => if c = '}' then return (i, rest) else throw .malformed)
      (Schema.choiceOfJson names (Json.seenMembers (fun _ t => t.seen) members)) := by
  have hclosed : skipSpace (space.val ++ '}' :: rest) = '}' :: rest :=
    Json.skipSpace_space_cons space (by decide) rest
  cases members with
  | nil =>
    rw [Schema.readText, List.map_nil, listed, List.nil_append, hclosed]
    exact .error _ _
  | cons m members =>
    rw [List.map_cons, listed, List.append_assoc]
    generalize htail : listed false (members.map Member.chars) ++ (space.val ++ '}' :: rest) = tail
    have hkey := readString_member m tail
    have htext : Schema.readText "variant identifier" (m.chars ++ tail) =
        (readString (m.tail ++ tail)).map fun p => (String.ofList p.1, p.2) := by
      rw [Schema.readText, m.skipSpace_append]
      rfl
    rw [htext, hkey]
    cases hs : Json.Glyph.decode m.key.glyphs with
    | none =>
      rw [seenMembers_cons_of_none (by rw [Quoted.text?, hs]; rfl)]
      exact .error _ _
    | some s =>
      have hcs := m.value.skipSpace_append tail
      show Agrees rest (do
        let i ← Schema.orMismatch (Schema.variant names (String.ofList s))
        let ((), cs) ← Schema.readUnit
          (← expectColon (m.beforeColon.val ++ ':' :: (m.value.chars ++ tail)))
        match skipSpace cs with
        | [] => throw .truncated
        | c :: rest => if c = '}' then return (i, rest) else throw .malformed) _
      rw [Json.expectColon_space]
      cases members with
      | nil =>
        have hseen : Json.seenMembers (fun _ t => t.seen) [m] =
            .object [(String.ofList s, m.value.value.seen)] := by
          rw [Json.seenMembers, List.mapM_cons, Member.seen, Quoted.text?, hs]
          rfl
        rw [hseen, Schema.choiceOfJson]
        cases Schema.variant names (String.ofList s) with
        | error e => exact .error _ _
        | ok i =>
          refine agrees_onlyUnit_seen i hcs ?_
          rw [Json.skipSpace_space, ← htail]
          exact hclosed
      | cons m' members =>
        obtain ⟨e, he⟩ := choiceOfJson_seenMembers names (fun _ t => t.seen) m m' members
        rw [he]
        cases Schema.variant names (String.ofList s) with
        | error e => exact .error _ _
        | ok i =>
          refine agrees_otherUnit_seen i e hcs ?_
          rw [Json.skipSpace_space, ← htail]
          exact ⟨_, Json.skipSpace_cons (by decide) _⟩

theorem agrees_choice_seen (names : List String) (hcs : skipSpace cs = t.chars ++ rest) :
    Agrees rest (Schema.readChoice names depth cs)
      (Schema.choiceOfJson names (t.seenByChoice depth)) := by
  rw [Schema.readChoice, hcs]
  cases t with
  | string q =>
    show Agrees rest (readString (q.chars ++ rest) >>= _) _
    rw [Json.readString_chars, Source.seenByChoice, Source.seen, Quoted.text?]
    · cases Json.Glyph.decode q.glyphs with
      | none => exact .error _ _
      | some s => exact .of_orMismatch _
    · simp
  | null | array => exact .error _ _
  | bool b => cases b <;> exact .error _ _
  | number n =>
    obtain ⟨c, tail, htail, hc⟩ := n.exists_cons
    have hquote := Json.ne_of_startsNumber hc '"' rfl
    have hbrace := Json.ne_of_startsNumber hc '{' rfl
    have hfail : Agrees (α := Fin names.length) rest (.error .malformed)
        (Schema.choiceOfJson names ((Source.number n).seenByChoice depth)) := by
      rw [Source.seenByChoice, Source.seen]
      · cases n.read <;> exact .error _ _
      · simp
    rw [Source.chars, htail, List.cons_append]
    dsimp only
    rw [if_neg hquote, if_neg hbrace]
    exact hfail
  | object members space =>
    cases depth with
    | zero => exact .error _ _
    | succ depth =>
      rw [Json.Source.chars_object, List.cons_append, List.append_assoc, List.append_assoc]
      exact agrees_choiceObject_seen names members space rest

end

end ExchangeClient

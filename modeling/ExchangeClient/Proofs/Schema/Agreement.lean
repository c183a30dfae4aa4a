import ExchangeClient.Proofs.Json.Standing
import ExchangeClient.Schema.Read

/-!
# When reading and converting agree

A reader of typed values and a conversion of JSON values agree on an input if they come to
the same value there and the reader stops where the value ends, or if both fail.  They need
not fail for the same reason: the reader meets a fault where it stands and the conversion
after the whole text has been read.

`Agrees` is kept by what goes on from one value to the next, `Agrees.bind_map`, and by the
loops over items and members, `agrees_readItems` and `agrees_readMembers`.  The simple values
are settled here too; each is a look at what stands in the text.
-/

namespace ExchangeClient

open Json (DecodeError Mismatch Input Reader readItems readMember readMembers readWritten
  skipSpace expectColon expectWord readString readNumber ItemsStand MembersStand MemberStands
  ValueStands)

/-- What a reader has come to, and what a conversion has come to.  Both have the same value
and the reader stands at `rest`, or both have failed. -/
inductive Agrees {α : Type} (rest : Input) :
    Except DecodeError (α × Input) → Except Mismatch α → Prop
  | ok (v : α) : Agrees rest (.ok (v, rest)) (.ok v)
  | error (e : DecodeError) (m : Mismatch) : Agrees rest (.error e) (.error m)

namespace Agrees

variable {α β : Type} {rest rest' : Input} {r : Except DecodeError (α × Input)}
  {d : Except Mismatch α}

theorem map (h : Agrees rest r d) (f : α → β) :
    Agrees rest (r.map fun p => (f p.1, p.2)) (d.map f) := by
  cases h with
  | ok v => exact .ok (f v)
  | error e m => exact .error e m

theorem map_id (h : Agrees rest r d) {f : α → α} (hf : ∀ v, f v = v) :
    Agrees rest r (d.map f) := by
  cases h with
  | ok v =>
    rw [Except.map, hf]
    exact .ok v
  | error e m => exact .error e m

/-- Where the conversion comes to a value, so does the reader. -/
theorem eq_ok {v : α} (h : Agrees rest r (.ok v)) : r = .ok (v, rest) := by
  cases h with
  | ok v => rfl

/-- What goes on from agreement to agreement agrees. -/
theorem bind (h : Agrees rest r d) {k : α × Input → Except DecodeError (β × Input)}
    {k' : α → Except Mismatch β} (hk : ∀ v, Agrees rest' (k (v, rest)) (k' v)) :
    Agrees rest' (r >>= k) (d >>= k') := by
  cases h with
  | ok v => exact hk v
  | error e m => exact .error e m

/-- As `bind`, where the values that agree are made of others. -/
theorem bind_map {τ : Type} {f : τ → α} {d : Except Mismatch τ} (h : Agrees rest r (d.map f))
    {k : α × Input → Except DecodeError (β × Input)} {k' : τ → Except Mismatch β}
    (hk : ∀ t, Agrees rest' (k (f t, rest)) (k' t)) : Agrees rest' (r >>= k) (d >>= k') := by
  cases d with
  | ok t =>
    cases h with
    | ok v => exact hk t
  | error m =>
    cases h with
    | error e m => exact .error e m

theorem bind_ok {τ : Type} {f : τ → α} {g : τ → β} {d : Except Mismatch τ}
    (h : Agrees rest r (d.map f)) {k : α × Input → Except DecodeError (β × Input)}
    (hk : ∀ t, k (f t, rest) = .ok (g t, rest)) : Agrees rest (r >>= k) (d.map g) := by
  cases d with
  | ok t =>
    cases h with
    | ok v =>
      show Agrees rest (k (f t, rest)) _
      rw [hk]
      exact .ok (g t)
  | error m =>
    cases h with
    | error e m => exact .error e m

theorem of_orMismatch (d : Except Mismatch α) :
    Agrees rest (do return (← Schema.orMismatch d, rest)) d := by
  cases d with
  | ok v => exact .ok v
  | error m => exact .error (.mismatch m) m

end Agrees

/-! ## Loops -/

section

variable {α β : Type} {item : Reader α} {typed : Reader β} {convert : α → Except Mismatch β}

/-- A loop over items agrees with the conversion of the items if it does so for each. -/
theorem agrees_readItems
    (hitem : ∀ cs x rest, item cs = .ok (x, rest) → Agrees rest (typed cs) (convert x))
    {turns : Nat} {first : Bool} {cs rest : Input} {xs : List α}
    (h : ItemsStand item turns first cs xs rest) :
    Agrees rest (readItems typed turns first cs) (xs.mapM convert) := by
  induction h with
  | closed hcs =>
    simp only [readItems, hcs]
    exact .ok []
  | first hcs hc hx hxs ih =>
    simp only [readItems, hcs, if_neg hc, List.mapM_cons]
    exact (hitem _ _ _ hx).bind fun v => ih.bind fun vs => .ok (v :: vs)
  | next hcs hx hxs ih =>
    simp only [readItems, hcs, List.mapM_cons]
    exact (hitem _ _ _ hx).bind fun v => ih.bind fun vs => .ok (v :: vs)

end

section

variable {σ τ : Type} {item : Reader Json} {member : String → σ → Reader σ}
  {store : String → Json → τ → Except Mismatch τ} {f : τ → σ}

/-- A loop over members that carries on a state agrees with the storing of the members if it
does so for each. -/
theorem agrees_readMembers
    (hmember : ∀ key cs₁ cs₂ j rest t, expectColon cs₁ = .ok cs₂ → item cs₂ = .ok (j, rest) →
      Agrees rest (member key (f t) cs₁) ((store key j t).map f))
    {turns : Nat} {first : Bool} {cs rest : Input} {ms : List (String × Json)}
    (h : MembersStand item turns first cs ms rest) (t : τ) :
    Agrees rest (readMembers member turns first (f t) cs)
      ((ms.foldlM (fun t m => store m.1 m.2 t) t).map f) := by
  have hturn {turns : Nat} {tail cs' rest : Input} {m : String × Json} {ms : List (String × Json)}
      (hm : MemberStands item tail m cs')
      (ih : ∀ t, Agrees rest (readMembers member turns false (f t) cs')
        ((ms.foldlM (fun t m => store m.1 m.2 t) t).map f)) (t : τ) :
      Agrees rest
        (readMember member (readMembers member turns false) (f t) tail)
        (((m :: ms).foldlM (fun t m => store m.1 m.2 t) t).map f) := by
    cases hm with
    | intro hkey hcolon hvalue =>
      rename_i key cs₁ cs₂ j
      have hmap (t : τ) :
          (((String.ofList key, j) :: ms).foldlM (fun t m => store m.1 m.2 t) t).map f =
            store (String.ofList key) j t >>= fun t =>
              (ms.foldlM (fun t m => store m.1 m.2 t) t).map f := by
        rw [List.foldlM_cons]
        cases store (String.ofList key) j t <;> rfl
      rw [readMember, hkey, hmap]
      exact (hmember (String.ofList key) cs₁ cs₂ j cs' t hcolon hvalue).bind_map ih
  induction h generalizing t with
  | closed hcs =>
    simp only [readMembers, hcs]
    exact .ok (f t)
  | first hcs hm hms ih =>
    simp only [readMembers, hcs]
    exact hturn hm ih t
  | next hcs hquote hm hms ih =>
    simp only [readMembers, hcs, hquote]
    exact hturn hm ih t

end

/-! ## Simple values -/

section

variable {depth : Nat} {cs rest : Input} {j : Json}

theorem agrees_text (h : readWritten depth cs = .ok (j, rest)) :
    Agrees rest (Shape.text.read depth cs) (Shape.text.decode j) := by
  rw [Shape.read]
  cases Json.valueStands_of_readWritten h with
  | string hcs hstring =>
    rw [Schema.readText]
    simp only [hcs, hstring]
    exact .ok _
  | null hcs | true hcs | false hcs | array hcs | object hcs =>
    rw [Schema.readText]
    simp only [hcs]
    exact .error _ _
  | number hcs hc =>
    rw [Schema.readText]
    simp only [hcs]
    split
    · next hquote => cases hquote; cases hc
    · exact .error _ _

theorem agrees_integer (type : IntegerType) (h : readWritten depth cs = .ok (j, rest)) :
    Agrees rest ((Shape.integer type).read depth cs) ((Shape.integer type).decode j) := by
  rw [Shape.read, Schema.readInteger]
  cases Json.valueStands_of_readWritten h with
  | number hcs hc hnumber =>
    simp only [hcs, hc, hnumber]
    exact .of_orMismatch _
  | null hcs | true hcs | false hcs | array hcs | object hcs | string hcs =>
    simp only [hcs]
    exact .error _ _

theorem agrees_decimal (h : readWritten depth cs = .ok (j, rest)) :
    Agrees rest (Schema.readDecimal cs) (Schema.decimalOfJson j) := by
  rw [Schema.readDecimal]
  cases Json.valueStands_of_readWritten h with
  | number hcs hc hnumber =>
    simp only [hcs, hc, hnumber]
    exact .of_orMismatch _
  | string hcs hstring =>
    simp only [hcs, hstring]
    exact .of_orMismatch _
  | null hcs | true hcs | false hcs | array hcs | object hcs =>
    simp only [hcs]
    exact .error _ _

theorem agrees_unit (h : readWritten depth cs = .ok (j, rest)) :
    Agrees rest (Schema.readUnit cs) (Schema.unitOfJson j) := by
  rw [Schema.readUnit]
  cases Json.valueStands_of_readWritten h with
  | null hcs hword =>
    simp only [hcs, hword]
    exact .ok ()
  | true hcs | false hcs | array hcs | object hcs | string hcs =>
    simp only [hcs]
    exact .error _ _
  | number hcs hc =>
    simp only [hcs]
    split
    · next hn => cases hn; cases hc
    · exact .error _ _

theorem readText_of_quote {label : String} {cs tail s : List Char}
    (hquote : skipSpace cs = '"' :: tail) (hstring : readString tail = .ok (s, rest)) :
    Schema.readText label cs = .ok (String.ofList s, rest) := by
  rw [Schema.readText]
  simp only [hquote, hstring]
  rfl

/-- The object form of a choice has one member, whose key is the name and whose value is null. -/
theorem agrees_choiceObject (names : List String) {turns : Nat} {ms : List (String × Json)}
    (h : MembersStand (readWritten depth) turns true cs ms rest) :
    Agrees rest
      (do
        let (s, cs) ← Schema.readText "variant identifier" cs
        let i ← Schema.orMismatch (Schema.variant names s)
        let ((), cs) ← Schema.readUnit (← expectColon cs)
        match skipSpace cs with
        | [] => throw .truncated
        | c :: rest => if c = '}' then return (i, rest) else throw .malformed)
      (Schema.choiceOfJson names (.object ms)) := by
  cases h with
  | closed hclosed =>
    rw [Schema.readText]
    simp only [hclosed]
    exact .error _ _
  | first hquote hm hms =>
    cases hm with
    | @intro name cs₁ cs₂ value _ hkey hcolon hvalue =>
      rw [Json.bind_of_ok (readText_of_quote hquote hkey)]
      dsimp only
      have hunit := agrees_unit hvalue
      cases hvariant : Schema.variant names (String.ofList name) with
      | error m =>
        rcases hms.ended with ⟨rfl, _⟩ | ⟨hne, _⟩
        · rw [Schema.choiceOfJson, Json.bind_of_error hvariant]
          exact .error _ _
        · obtain ⟨m', ms', rfl⟩ := List.exists_cons_of_ne_nil hne
          exact .error _ _
      | ok i =>
        rw [Json.bind_of_ok (x := Schema.orMismatch _) rfl, Json.bind_of_ok hcolon]
        rcases hms.ended with ⟨rfl, hbrace⟩ | ⟨hne, _, hcomma⟩
        · rw [Schema.choiceOfJson, Json.bind_of_ok hvariant]
          refine hunit.bind fun _ => ?_
          simp only [hbrace]
          exact .ok i
        · obtain ⟨m', ms', rfl⟩ := List.exists_cons_of_ne_nil hne
          generalize Schema.readUnit cs₂ = unit, Schema.unitOfJson value = unit' at hunit
          cases hunit with
          | ok _ =>
            rw [Json.bind_of_ok rfl]
            simp only [hcomma]
            exact .error _ _
          | error e m => exact .error _ _

theorem agrees_choice (names : List String) (h : readWritten depth cs = .ok (j, rest)) :
    Agrees rest (Schema.readChoice names depth cs) (Schema.choiceOfJson names j) := by
  rw [Schema.readChoice]
  cases Json.valueStands_of_readWritten h with
  | string hcs hstring =>
    simp only [hcs, hstring]
    exact .of_orMismatch _
  | null hcs | true hcs | false hcs | array hcs =>
    simp only [hcs]
    exact .error _ _
  | number hcs hc =>
    have hquote := Json.ne_of_startsNumber hc '"' rfl
    have hbrace := Json.ne_of_startsNumber hc '{' rfl
    simp only [hcs, if_neg hquote, if_neg hbrace]
    exact .error _ _
  | object hcs hnested hmembers =>
    cases depth with
    | zero => cases hnested
    | succ depth =>
      cases hnested
      simp only [hcs]
      exact agrees_choiceObject names hmembers

end

end ExchangeClient

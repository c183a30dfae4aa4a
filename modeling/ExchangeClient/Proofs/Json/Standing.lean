import ExchangeClient.Proofs.Json.Words
import ExchangeClient.Proofs.Json.Written

/-!
# How a value stands in a text

`ItemsStand`, `MembersStand` and `ValueStands` say what the reader of values as they are
written has met, word by word.  They carry the bound on the turns of a loop, so whatever
another reader does with the same input can be proved by induction along them.

The first such reader is the one that passes over a value.  It keeps its own list of open
containers and counts its steps over the whole value, while reading goes down into each
container with a count of its own.  The proof gives every value a number of steps that is
less than twice the number of its characters; a container adds one step for each value in it,
which the comma or the brackets pay for.  Hence `skipValue_of_readWritten`: where a value
can be read, passing over it ends at the same place.
-/

namespace ExchangeClient
namespace Json

section

variable {α : Type} (item : Reader α)

/-- How the items of a list stand before its closing bracket. -/
inductive ItemsStand : Nat → Bool → Input → List α → Input → Prop
  | closed {turns first cs rest} (h : skipSpace cs = ']' :: rest) :
    ItemsStand (turns + 1) first cs [] rest
  | first {turns cs c tail x cs' xs rest} (h : skipSpace cs = c :: tail) (hc : c ≠ ']')
    (hitem : item (c :: tail) = .ok (x, cs')) (hitems : ItemsStand turns false cs' xs rest) :
    ItemsStand (turns + 1) true cs (x :: xs) rest
  | next {turns cs tail x cs' xs rest} (h : skipSpace cs = ',' :: tail)
    (hitem : item tail = .ok (x, cs')) (hitems : ItemsStand turns false cs' xs rest) :
    ItemsStand (turns + 1) false cs (x :: xs) rest

/-- How a member stands behind the opening quote of its key. -/
inductive MemberStands : Input → String × α → Input → Prop
  | intro {cs name cs₁ cs₂ value rest} (hkey : readString cs = .ok (name, cs₁))
    (hcolon : expectColon cs₁ = .ok cs₂) (hvalue : item cs₂ = .ok (value, rest)) :
    MemberStands cs (String.ofList name, value) rest

/-- How the members of an object stand before its closing brace. -/
inductive MembersStand : Nat → Bool → Input → List (String × α) → Input → Prop
  | closed {turns first cs rest} (h : skipSpace cs = '}' :: rest) :
    MembersStand (turns + 1) first cs [] rest
  | first {turns cs tail m cs' ms rest} (h : skipSpace cs = '"' :: tail)
    (hmember : MemberStands item tail m cs') (hmembers : MembersStand turns false cs' ms rest) :
    MembersStand (turns + 1) true cs (m :: ms) rest
  | next {turns cs tail tail' m cs' ms rest} (h : skipSpace cs = ',' :: tail)
    (hquote : skipSpace tail = '"' :: tail') (hmember : MemberStands item tail' m cs')
    (hmembers : MembersStand turns false cs' ms rest) :
    MembersStand (turns + 1) false cs (m :: ms) rest

end

variable {item : Reader Json}

/-- Behind a member an object ends, or a comma goes before the next. -/
theorem MembersStand.ended {α : Type} {item : Reader α} {turns : Nat} {cs rest : Input}
    {ms : List (String × α)} (h : MembersStand item turns false cs ms rest) :
    (ms = [] ∧ skipSpace cs = '}' :: rest) ∨ (ms ≠ [] ∧ ∃ tail, skipSpace cs = ',' :: tail) := by
  cases h with
  | closed hcs => exact .inl ⟨rfl, hcs⟩
  | next hcs => exact .inr ⟨List.cons_ne_nil _ _, _, hcs⟩

theorem itemsStand_of_readItems {α : Type} {item : Reader α} {turns : Nat} {first : Bool}
    {cs rest : Input} {xs : List α} (h : readItems item turns first cs = .ok (xs, rest)) :
    ItemsStand item turns first cs xs rest := by
  induction turns generalizing first cs xs with
  | zero => cases h
  | succ turns ih =>
    unfold readItems at h
    split at h
    · cases h
    · next c tail hcs =>
      split at h
      · next hc =>
        subst hc
        cases h
        exact .closed hcs
      · next hc =>
        split at h
        · next hfirst =>
          subst hfirst
          obtain ⟨⟨x, cs'⟩, hitem, h⟩ := ok_of_bind h
          obtain ⟨⟨xs', rest'⟩, hitems, h⟩ := ok_of_bind h
          cases h
          exact .first hcs hc hitem (ih hitems)
        · next hfirst =>
          rw [Bool.not_eq_true] at hfirst
          subst hfirst
          split at h
          · next hcomma =>
            subst hcomma
            obtain ⟨⟨x, cs'⟩, hitem, h⟩ := ok_of_bind h
            obtain ⟨⟨xs', rest'⟩, hitems, h⟩ := ok_of_bind h
            cases h
            exact .next hcs hitem (ih hitems)
          · cases h

/-- What has been read into an object when its loop ends is a member more than before, for
each member that stands there. -/
theorem membersStand_of_readMembers {turns : Nat} {first : Bool} {cs rest : Input}
    {sofar members : List (String × Json)}
    (h : readMembers (readInto appendMember item) turns first sofar cs = .ok (members, rest)) :
    ∃ ms, members = sofar ++ ms ∧ MembersStand item turns first cs ms rest := by
  induction turns generalizing first cs sofar with
  | zero => cases h
  | succ turns ih =>
    have hturn {tail : Input}
        (h : readMember (readInto appendMember item)
          (readMembers (readInto appendMember item) turns false) sofar tail = .ok (members, rest)) :
        ∃ m cs' ms, members = sofar ++ m :: ms ∧ MemberStands item tail m cs' ∧
          MembersStand item turns false cs' ms rest := by
      obtain ⟨⟨name, cs₁⟩, hkey, h⟩ := ok_of_bind h
      obtain ⟨⟨state, cs₃⟩, hmember, h⟩ := ok_of_bind h
      obtain ⟨cs₂, hcolon, hmember⟩ := ok_of_bind hmember
      obtain ⟨⟨value, cs₃'⟩, hvalue, hmember⟩ := ok_of_bind hmember
      cases hmember
      obtain ⟨ms, hms, hmembers⟩ := ih h
      refine ⟨(String.ofList name, value), cs₃, ms, ?_, .intro hkey hcolon hvalue, hmembers⟩
      rw [hms, appendMember, List.append_assoc, List.singleton_append]
    unfold readMembers at h
    split at h
    · cases h
    · next c tail hcs =>
      split at h
      · next hc =>
        subst hc
        cases h
        exact ⟨[], (List.append_nil _).symm, .closed hcs⟩
      · split at h
        · next hfirst =>
          subst hfirst
          split at h
          · next hquote =>
            subst hquote
            obtain ⟨m, cs', ms, hms, hmember, hmembers⟩ := hturn h
            exact ⟨m :: ms, hms, .first hcs hmember hmembers⟩
          · cases h
        · next hfirst =>
          rw [Bool.not_eq_true] at hfirst
          subst hfirst
          split at h
          · next hcomma =>
            subst hcomma
            split at h
            · cases h
            · next q tail' hq =>
              split at h
              · next hquote =>
                subst hquote
                obtain ⟨m, cs', ms, hms, hmember, hmembers⟩ := hturn h
                exact ⟨m :: ms, hms, .next hcs hq hmember hmembers⟩
              · cases h
          · cases h

/-- A character that starts a number is none of the others that start a value. -/
theorem ne_of_startsNumber {c : Char} (hc : (c = '-' || c.isDigit) = true) (d : Char)
    (hd : (d = '-' || d.isDigit) = false) : c ≠ d := by
  rintro rfl
  rw [hd] at hc
  cases hc

/-- How a value stands at the head of the input.  `nested` reads the values inside it. -/
inductive ValueStands (nested : Option (Reader Json)) : Input → Json → Input → Prop
  | null {cs tail rest} (h : skipSpace cs = 'n' :: tail)
    (hword : expectWord ['u', 'l', 'l'] tail = .ok rest) : ValueStands nested cs .null rest
  | true {cs tail rest} (h : skipSpace cs = 't' :: tail)
    (hword : expectWord ['r', 'u', 'e'] tail = .ok rest) : ValueStands nested cs (.bool true) rest
  | false {cs tail rest} (h : skipSpace cs = 'f' :: tail)
    (hword : expectWord ['a', 'l', 's', 'e'] tail = .ok rest) :
    ValueStands nested cs (.bool false) rest
  | string {cs tail s rest} (h : skipSpace cs = '"' :: tail)
    (hstring : readString tail = .ok (s, rest)) :
    ValueStands nested cs (.string (String.ofList s)) rest
  | number {cs c tail n rest} (h : skipSpace cs = c :: tail)
    (hc : (c = '-' || c.isDigit) = Bool.true) (hnumber : readNumber (c :: tail) = .ok (n, rest)) :
    ValueStands nested cs (.number n) rest
  | array {cs tail item xs rest} (h : skipSpace cs = '[' :: tail) (hnested : nested = some item)
    (hitems : ItemsStand item (tail.length + 1) Bool.true tail xs rest) :
    ValueStands nested cs (.array xs) rest
  | object {cs tail item ms rest} (h : skipSpace cs = '{' :: tail) (hnested : nested = some item)
    (hmembers : MembersStand item (tail.length + 1) Bool.true tail ms rest) :
    ValueStands nested cs (.object ms) rest

/-- A value starts with a character that does not end a list. -/
theorem ValueStands.skipSpace_eq {nested : Option (Reader Json)} {cs rest : Input} {j : Json}
    (h : ValueStands nested cs j rest) : ∃ c tail, skipSpace cs = c :: tail ∧ c ≠ ']' := by
  cases h with
  | null hcs | true hcs | false hcs | string hcs | array hcs | object hcs =>
    exact ⟨_, _, hcs, by decide⟩
  | number hcs hc => exact ⟨_, _, hcs, ne_of_startsNumber hc ']' rfl⟩

/-- Only null starts with its letter. -/
theorem ValueStands.eq_null {nested : Option (Reader Json)} {cs tail rest : Input} {j : Json}
    (h : ValueStands nested cs j rest) (hn : skipSpace cs = 'n' :: tail) : j = .null := by
  cases h with
  | null => rfl
  | true hcs | false hcs | string hcs | array hcs | object hcs =>
    rw [hn] at hcs
    cases hcs
  | number hcs hc =>
    rw [hn] at hcs
    cases hcs
    cases hc

theorem valueStands_of_readWith {nested : Option (Reader Json)} {cs rest : Input} {j : Json}
    (h : readWith appendMember nested cs = .ok (j, rest)) : ValueStands nested cs j rest := by
  unfold readWith at h
  split at h
  · cases h
  · next c tail hcs =>
    split at h
    · next hc =>
      subst hc
      obtain ⟨rest', hword, h⟩ := ok_of_map h
      cases h
      exact .null hcs hword
    split at h
    · next hc =>
      subst hc
      obtain ⟨rest', hword, h⟩ := ok_of_map h
      cases h
      exact .true hcs hword
    split at h
    · next hc =>
      subst hc
      obtain ⟨rest', hword, h⟩ := ok_of_map h
      cases h
      exact .false hcs hword
    split at h
    · next hc =>
      subst hc
      obtain ⟨⟨s, rest'⟩, hstring, h⟩ := ok_of_map h
      cases h
      exact .string hcs hstring
    split at h
    · next hc =>
      obtain ⟨⟨n, rest'⟩, hnumber, h⟩ := ok_of_map h
      cases h
      exact .number hcs hc hnumber
    split at h
    · next hc =>
      subst hc
      cases nested with
      | none => cases h
      | some item =>
        obtain ⟨⟨xs, rest'⟩, hitems, h⟩ := ok_of_map h
        cases h
        exact .array hcs rfl (itemsStand_of_readItems hitems)
    split at h
    · next hc =>
      subst hc
      cases nested with
      | none => cases h
      | some item =>
        obtain ⟨⟨ms, rest'⟩, hmembers, h⟩ := ok_of_map h
        cases h
        obtain ⟨ms', hms, hmembers⟩ := membersStand_of_readMembers hmembers
        rw [hms, List.nil_append]
        exact .object hcs rfl hmembers
    · cases h

/-- What a text writes stands at its head, with nothing but space behind. -/
theorem exists_readWritten {text : String} {j : Json} (h : writtenOfText text = .ok j) :
    ∃ rest, readWritten maxDepth text.toList = .ok (j, rest) ∧
      (skipSpace rest).isEmpty = true := by
  obtain ⟨⟨j', rest⟩, hread, h⟩ := ok_of_bind h
  dsimp only at h
  split at h
  · next hend =>
    cases h
    exact ⟨rest, hread, hend⟩
  · cases h

/-- The reader of the values inside a value, of which `depth` may be open at once. -/
def nestedReader : Nat → Option (Reader Json)
  | 0 => none
  | depth + 1 => some (readWritten depth)

theorem valueStands_of_readWritten {depth : Nat} {cs rest : Input} {j : Json}
    (h : readWritten depth cs = .ok (j, rest)) : ValueStands (nestedReader depth) cs j rest := by
  cases depth with
  | zero => exact valueStands_of_readWith h
  | succ depth => exact valueStands_of_readWith h

theorem skipSpace_skipSpace (cs : Input) : skipSpace (skipSpace cs) = skipSpace cs := by
  have hidem : ∀ l : List Char, (l.dropWhile isSpace).dropWhile isSpace = l.dropWhile isSpace := by
    intro l
    induction l with
    | nil => rfl
    | cons c l ih =>
      by_cases hc : isSpace c = true
      · rw [List.dropWhile_cons_of_pos hc, ih]
      · rw [List.dropWhile_cons_of_neg hc, List.dropWhile_cons_of_neg hc]
  exact hidem cs

/-! ## Passing over what is written -/

/-- Where a walk over a container goes on. -/
def SkipPoint.inside (first : Bool) : SkipPoint :=
  if first then .entered else .ended

theorem skipSteps_closing {frame : Frame} {cs rest : Input}
    (h : skipSpace cs = frame.closing :: rest) (steps : Nat) (first : Bool) (frames : List Frame) :
    skipSteps (steps + 1) (.inside first) (frame :: frames) cs =
      skipSteps steps .ended frames rest := by
  cases frame <;> cases first <;> simp [SkipPoint.inside, skipSteps, h, Frame.closing]

theorem skipSteps_entered (frame : Frame) {c : Char} {cs tail cs' : Input}
    (h : skipSpace cs = c :: tail) (hc : c ≠ frame.closing)
    (hlead : frame.lead (c :: tail) = .ok cs') (steps : Nat) (frames : List Frame) :
    skipSteps (steps + 1) .entered (frame :: frames) cs =
      skipSteps steps .value (frame :: frames) cs' := by
  simp only [skipSteps, h, if_neg hc, hlead]
  rfl

theorem skipSteps_comma (frame : Frame) {cs tail cs' : Input} (h : skipSpace cs = ',' :: tail)
    (hlead : frame.lead tail = .ok cs') (steps : Nat) (frames : List Frame) :
    skipSteps (steps + 1) .ended (frame :: frames) cs =
      skipSteps steps .value (frame :: frames) cs' := by
  simp only [skipSteps, h, hlead]
  rfl

/-- A reader whose values are passed over within twice the characters that they take. -/
def IsSkipped (item : Reader Json) : Prop :=
  ∀ cs j rest, item cs = .ok (j, rest) → ∃ k, k + 2 * rest.length < 2 * cs.length ∧
    ∀ steps frames, skipSteps (k + steps) .value frames cs = skipSteps steps .ended frames rest

theorem skip_itemsStand (hitem : IsSkipped item) {turns : Nat} {first : Bool}
    {cs rest : Input} {xs : List Json} (h : ItemsStand item turns first cs xs rest) :
    ∃ k, k + 2 * rest.length ≤ 2 * cs.length ∧ ∀ steps frames,
      skipSteps (k + steps) (.inside first) (.list :: frames) cs =
        skipSteps steps .ended frames rest := by
  induction h with
  | @closed turns first cs rest hcs =>
    have hlength := length_skipSpace_le cs
    rw [hcs, List.length_cons] at hlength
    refine ⟨1, by omega, fun steps frames => ?_⟩
    rw [Nat.add_comm]
    exact skipSteps_closing hcs steps first frames
  | @first turns cs c tail x cs' xs rest hcs hc hx hxs ih =>
    have hlength := length_skipSpace_le cs
    rw [hcs] at hlength
    obtain ⟨k₁, hk₁, hvalue⟩ := hitem _ _ _ hx
    obtain ⟨k₂, hk₂, hitems⟩ := ih
    refine ⟨k₁ + k₂ + 1, by omega, fun steps frames => ?_⟩
    have hsteps : k₁ + k₂ + 1 + steps = k₁ + (k₂ + steps) + 1 := by omega
    calc skipSteps (k₁ + k₂ + 1 + steps) .entered (.list :: frames) cs
      _ = skipSteps (k₁ + (k₂ + steps)) .value (.list :: frames) (c :: tail) := by
        rw [hsteps]
        exact skipSteps_entered .list hcs hc rfl _ frames
      _ = skipSteps (k₂ + steps) .ended (.list :: frames) cs' := hvalue _ _
      _ = skipSteps steps .ended frames rest := hitems steps frames
  | @next turns cs tail x cs' xs rest hcs hx hxs ih =>
    have hlength := length_skipSpace_le cs
    rw [hcs, List.length_cons] at hlength
    obtain ⟨k₁, hk₁, hvalue⟩ := hitem _ _ _ hx
    obtain ⟨k₂, hk₂, hitems⟩ := ih
    refine ⟨k₁ + k₂ + 1, by omega, fun steps frames => ?_⟩
    have hsteps : k₁ + k₂ + 1 + steps = k₁ + (k₂ + steps) + 1 := by omega
    calc skipSteps (k₁ + k₂ + 1 + steps) .ended (.list :: frames) cs
      _ = skipSteps (k₁ + (k₂ + steps)) .value (.list :: frames) tail := by
        rw [hsteps]
        exact skipSteps_comma .list hcs rfl _ frames
      _ = skipSteps (k₂ + steps) .ended (.list :: frames) cs' := hvalue _ _
      _ = skipSteps steps .ended frames rest := hitems steps frames

/-- A member is passed over in two parts, the key with its colon at once and then the value. -/
theorem skip_memberStands (hitem : IsSkipped item) {cs cs' : Input} {m : String × Json}
    (h : MemberStands item cs m cs') :
    ∃ k cs₂, (∀ lead, skipSpace lead = '"' :: cs → Frame.object.lead lead = .ok cs₂) ∧
      k + 2 * cs'.length < 2 * cs.length ∧
      ∀ steps frames,
        skipSteps (k + steps) .value frames cs₂ = skipSteps steps .ended frames cs' := by
  cases h with
  | @intro name cs₁ cs₂ value _ hkey hcolon hvalue =>
    have hskip := skipString_of_readString hkey
    have hlength₁ := length_lt_of_skipString hskip
    have hlength₂ := length_lt_of_expectColon hcolon
    obtain ⟨k, hk, hwalk⟩ := hitem _ _ _ hvalue
    refine ⟨k, cs₂, fun lead hlead => ?_, by omega, hwalk⟩
    rw [Frame.lead, skipKey, hlead]
    dsimp only
    rw [if_pos rfl, hskip]
    exact hcolon

theorem skip_membersStand (hitem : IsSkipped item) {turns : Nat} {first : Bool}
    {cs rest : Input} {ms : List (String × Json)} (h : MembersStand item turns first cs ms rest) :
    ∃ k, k + 2 * rest.length ≤ 2 * cs.length ∧ ∀ steps frames,
      skipSteps (k + steps) (.inside first) (.object :: frames) cs =
        skipSteps steps .ended frames rest := by
  induction h with
  | @closed turns first cs rest hcs =>
    have hlength := length_skipSpace_le cs
    rw [hcs, List.length_cons] at hlength
    refine ⟨1, by omega, fun steps frames => ?_⟩
    rw [Nat.add_comm]
    exact skipSteps_closing hcs steps first frames
  | @first turns cs tail m cs' ms rest hcs hm hms ih =>
    have hlength := length_skipSpace_le cs
    rw [hcs, List.length_cons] at hlength
    obtain ⟨k₁, cs₂, hlead, hk₁, hvalue⟩ := skip_memberStands hitem hm
    obtain ⟨k₂, hk₂, hmembers⟩ := ih
    refine ⟨k₁ + k₂ + 1, by omega, fun steps frames => ?_⟩
    have hsteps : k₁ + k₂ + 1 + steps = k₁ + (k₂ + steps) + 1 := by omega
    calc skipSteps (k₁ + k₂ + 1 + steps) .entered (.object :: frames) cs
      _ = skipSteps (k₁ + (k₂ + steps)) .value (.object :: frames) cs₂ := by
        rw [hsteps]
        exact skipSteps_entered .object hcs (by decide) (hlead _ rfl) _ frames
      _ = skipSteps (k₂ + steps) .ended (.object :: frames) cs' := hvalue _ _
      _ = skipSteps steps .ended frames rest := hmembers steps frames
  | @next turns cs tail tail' m cs' ms rest hcs hquote hm hms ih =>
    have hlength := length_skipSpace_le cs
    rw [hcs, List.length_cons] at hlength
    have hlength' := length_skipSpace_le tail
    rw [hquote, List.length_cons] at hlength'
    obtain ⟨k₁, cs₂, hlead, hk₁, hvalue⟩ := skip_memberStands hitem hm
    obtain ⟨k₂, hk₂, hmembers⟩ := ih
    refine ⟨k₁ + k₂ + 1, by omega, fun steps frames => ?_⟩
    have hsteps : k₁ + k₂ + 1 + steps = k₁ + (k₂ + steps) + 1 := by omega
    calc skipSteps (k₁ + k₂ + 1 + steps) .ended (.object :: frames) cs
      _ = skipSteps (k₁ + (k₂ + steps)) .value (.object :: frames) cs₂ := by
        rw [hsteps]
        exact skipSteps_comma .object hcs (hlead _ hquote) _ frames
      _ = skipSteps (k₂ + steps) .ended (.object :: frames) cs' := hvalue _ _
      _ = skipSteps steps .ended frames rest := hmembers steps frames

/-- A value that stands in a text is passed over if the values inside it are. -/
theorem isSkipped_readWith (nested : Option (Reader Json))
    (hnested : ∀ item, nested = some item → IsSkipped item) :
    IsSkipped (readWith appendMember nested) := by
  intro cs j rest h
  have hlength := length_skipSpace_le cs
  cases valueStands_of_readWith h with
  | null hcs hword | true hcs hword | false hcs hword =>
    have hle := length_le_of_expectWord hword
    rw [hcs, List.length_cons] at hlength
    refine ⟨1, by omega, fun steps frames => ?_⟩
    rw [Nat.add_comm]
    simp only [skipSteps, hcs, hword]
    rfl
  | string hcs hstring =>
    have hskip := skipString_of_readString hstring
    have hlt := length_lt_of_skipString hskip
    rw [hcs, List.length_cons] at hlength
    refine ⟨1, by omega, fun steps frames => ?_⟩
    rw [Nat.add_comm]
    simp only [skipSteps, hcs, hskip]
    rfl
  | @number c tail n _ hcs hc hnumber =>
    have hskip := skipNumber_of_readNumber hnumber
    have hlt := length_lt_of_skipNumber hskip
    rw [hcs] at hlength
    refine ⟨1, by omega, fun steps frames => ?_⟩
    have hne := ne_of_startsNumber hc
    rw [Nat.add_comm]
    simp only [skipSteps, hcs, if_neg (hne 'n' rfl), if_neg (hne 't' rfl), if_neg (hne 'f' rfl),
      if_neg (hne '"' rfl), if_pos hc, hskip]
    rfl
  | @array tail item xs _ hcs hnest hitems =>
    obtain ⟨k, hk, hwalk⟩ := skip_itemsStand (hnested item hnest) hitems
    rw [hcs, List.length_cons] at hlength
    refine ⟨k + 1, by omega, fun steps frames => ?_⟩
    rw [Nat.add_right_comm, ← hwalk steps frames]
    simp only [skipSteps, hcs]
    rfl
  | @object tail item ms _ hcs hnest hmembers =>
    obtain ⟨k, hk, hwalk⟩ := skip_membersStand (hnested item hnest) hmembers
    rw [hcs, List.length_cons] at hlength
    refine ⟨k + 1, by omega, fun steps frames => ?_⟩
    rw [Nat.add_right_comm, ← hwalk steps frames]
    simp only [skipSteps, hcs]
    rfl

theorem isSkipped_readWritten (depth : Nat) : IsSkipped (readWritten depth) := by
  induction depth with
  | zero => exact isSkipped_readWith none fun _ hitem => nomatch hitem
  | succ depth ih =>
    refine isSkipped_readWith (some (readWritten depth)) fun item hitem => ?_
    cases hitem
    exact ih

/-- Where a value can be read, passing over it ends at the same place. -/
theorem skipValue_of_readWritten {depth : Nat} {cs rest : Input} {j : Json}
    (h : readWritten depth cs = .ok (j, rest)) : skipValue cs = .ok rest := by
  obtain ⟨k, hk, hwalk⟩ := isSkipped_readWritten depth cs j rest h
  have hsteps : 2 * cs.length + 2 = k + (2 * cs.length - k + 1 + 1) := by omega
  rw [skipValue, hsteps, hwalk]
  rfl

end Json
end ExchangeClient

import ExchangeClient.Json.Lexer

/-!
# Words that can be read can be passed over

The readers of strings and numbers come in two kinds, one that keeps what it reads and one
that passes over it, and the second accepts more.  Where the first succeeds the second does,
and both end at the same place: `skipString_of_readString` and `skipNumber_of_readNumber`.
The grammars differ in the escapes.  A pair of escapes that writes one character is read at
once and passed over in halves, so the proof for strings follows the reader's cases and uses
one equation of the other reader twice there.

Whatever is passed over gets shorter, which bounds a walk over a whole value.
-/

namespace ExchangeClient
namespace Json

/-! ## Steps that succeed -/

/-- Two steps succeed if the first does and the second does with its outcome. -/
theorem ok_of_bind {ε α β : Type} {x : Except ε α} {f : α → Except ε β} {b : β}
    (h : x >>= f = .ok b) : ∃ a, x = .ok a ∧ f a = .ok b := by
  cases x with
  | error e => cases h
  | ok a => exact ⟨a, rfl, h⟩

theorem bind_of_ok {ε α β : Type} {x : Except ε α} {a : α} (h : x = .ok a)
    (f : α → Except ε β) : x >>= f = f a := by
  rw [h]
  rfl

theorem bind_of_error {ε α β : Type} {x : Except ε α} {e : ε} (h : x = .error e)
    (f : α → Except ε β) : x >>= f = .error e := by
  rw [h]
  rfl

theorem map_bind {ε α β γ : Type} (x : Except ε α) (f : α → Except ε β) (g : β → γ) :
    (x >>= f).map g = x >>= fun a => (f a).map g := by
  cases x <;> rfl

theorem map_map {ε α β γ : Type} (x : Except ε α) (f : α → β) (g : β → γ) :
    (x.map f).map g = x.map fun a => g (f a) := by
  cases x <;> rfl

theorem ok_of_map {ε α β : Type} {x : Except ε α} {f : α → β} {b : β}
    (h : x.map f = .ok b) : ∃ a, x = .ok a ∧ f a = b := by
  cases x with
  | error e => cases h
  | ok a => exact ⟨a, rfl, Except.ok.inj h⟩

/-! ## Strings -/

theorem ok_of_prepend {c : Char} {r : Except DecodeError (List Char × Input)} {s : List Char}
    {rest : Input} (h : prepend c r = .ok (s, rest)) : ∃ s', r = .ok (s', rest) := by
  cases r with
  | error e => cases h
  | ok p =>
    cases h
    exact ⟨p.1, rfl⟩

theorem skipString_escape {h₁ h₂ h₃ h₄ : Char} {n : Nat} (h : hexFour? h₁ h₂ h₃ h₄ = some n)
    (rest : Input) :
    skipString ('\\' :: 'u' :: h₁ :: h₂ :: h₃ :: h₄ :: rest) = skipString rest := by
  simp [skipString, h]

/-- A string that can be read can be passed over.  An escaped pair is passed over in halves. -/
theorem skipString_of_readString {cs s : List Char} {rest : Input}
    (h : readString cs = .ok (s, rest)) : skipString cs = .ok rest := by
  fun_induction readString cs generalizing s with
  | case2 tail =>
    cases h
    rw [skipString.eq_def]
    exact if_pos rfl
  | case6 h₁ h₂ h₃ h₄ tail n hn htrailing hleading hquote ih =>
    obtain ⟨s', h'⟩ := ok_of_prepend h
    rw [skipString_escape hn, ih h']
  | case12 h₁ h₂ h₃ h₄ n hn htrailing hleading b hb u hu l₁ l₂ l₃ l₄ tail m hm hpair hquote ih =>
    obtain ⟨s', h'⟩ := ok_of_prepend h
    obtain rfl := Decidable.not_not.mp hb
    obtain rfl := Decidable.not_not.mp hu
    rw [skipString_escape hn, skipString_escape hm, ih h']
  | case17 e tail he ch hch hquote ih =>
    obtain ⟨s', h'⟩ := ok_of_prepend h
    rw [skipString.eq_def]
    simp [he, hch, ih h']
  | case19 c tail hquote hescape hcontrol ih =>
    obtain ⟨s', h'⟩ := ok_of_prepend h
    rw [skipString.eq_def]
    simp [hquote, hescape, hcontrol, ih h']
  | _ => cases h

theorem length_lt_of_skipString {cs rest : Input} (h : skipString cs = .ok rest) :
    rest.length < cs.length := by
  fun_induction skipString cs with
  | case2 tail =>
    cases h
    exact Nat.lt_succ_self _
  | case4 _ _ _ _ tail _ _ ih | case7 _ tail _ _ _ ih | case10 _ tail _ _ _ ih =>
    have htail := ih h
    simp only [List.length_cons]
    omega
  | _ => cases h

/-! ## Numbers -/

theorem skipDigits_of_readDigits {negative : Bool} {cs rest : Input} {e : Int}
    (h : readDigits negative cs = .ok (e, rest)) : skipDigits cs = .ok rest := by
  unfold readDigits at h
  dsimp only at h
  split at h
  · cases h
  · next hsome =>
    cases h
    exact if_neg hsome

/-- An exponent that can be read can be passed over. -/
theorem skipExponent_of_readExponent {c : Char} (hmark : isExponentMark c = true)
    {cs rest : Input} {e : Int} (h : readExponent cs = .ok (e, rest)) :
    skipExponent (c :: cs) = .ok rest := by
  unfold skipExponent
  dsimp only
  rw [if_pos hmark]
  unfold readExponent at h
  split at h
  · exact skipDigits_of_readDigits h
  · exact skipDigits_of_readDigits h
  · next hplus hminus =>
    split
    · exact absurd rfl (hplus _)
    · exact absurd rfl (hminus _)
    · exact skipDigits_of_readDigits h

theorem skipExponent_of_readScaled {negative : Bool} {significand : Nat} {exponent : Int}
    {cs rest : Input} {n : Number}
    (h : readScaled negative significand exponent cs = .ok (n, rest)) :
    skipExponent cs = .ok rest := by
  unfold readScaled at h
  split at h
  · obtain ⟨_, _, hn⟩ := ok_of_map h
    cases hn
    rfl
  · next c tail =>
    split at h
    · next hmark =>
      obtain ⟨⟨e, rest'⟩, hexponent, h⟩ := ok_of_bind h
      obtain ⟨_, _, hn⟩ := ok_of_bind h
      cases hn
      exact skipExponent_of_readExponent hmark hexponent
    · next hmark =>
      obtain ⟨_, _, hn⟩ := ok_of_map h
      cases hn
      exact if_neg hmark

theorem skipFraction_of_readFraction {negative : Bool} {significand dropped : Nat}
    {cs rest : Input} {n : Number}
    (h : readFraction negative significand dropped cs = .ok (n, rest)) :
    skipFraction cs = .ok rest := by
  unfold readFraction at h
  split at h
  · next tail =>
    dsimp only at h
    split at h
    · cases h
    · next hsome =>
      have hdigits : skipDigits tail = .ok (tail.dropWhile Char.isDigit) := if_neg hsome
      rw [skipFraction, hdigits]
      exact skipExponent_of_readScaled h
  · next hpoint =>
    have hskip : skipFraction cs = skipExponent cs := by
      unfold skipFraction
      split
      · next tail => exact absurd rfl (hpoint tail)
      · rfl
    rw [hskip]
    split at h
    · next hwhole =>
      cases h
      rw [Bool.and_eq_true, Bool.not_eq_true'] at hwhole
      cases cs with
      | nil => rfl
      | cons c tail => exact if_neg (by simpa using hwhole.2)
    · exact skipExponent_of_readScaled h

theorem skipUnsigned_of_readUnsigned {negative : Bool} {cs rest : Input} {n : Number}
    (h : readUnsigned negative cs = .ok (n, rest)) : skipUnsigned cs = .ok rest := by
  unfold readUnsigned at h
  unfold skipUnsigned
  split at h
  · cases h
  · cases h
  · exact skipFraction_of_readFraction h

theorem skipNumber_of_readNumber {cs rest : Input} {n : Number}
    (h : readNumber cs = .ok (n, rest)) : skipNumber cs = .ok rest := by
  unfold readNumber at h
  unfold skipNumber
  split at h <;> exact skipUnsigned_of_readUnsigned h

theorem length_dropWhile_lt {p : Char → Bool} {cs : Input} (h : cs.takeWhile p ≠ []) :
    (cs.dropWhile p).length < cs.length := by
  have hlength : (cs.takeWhile p).length + (cs.dropWhile p).length = cs.length := by
    rw [← List.length_append, List.takeWhile_append_dropWhile]
  have hpos : 0 < (cs.takeWhile p).length := List.length_pos_iff.mpr h
  omega

theorem length_lt_of_skipDigits {cs rest : Input} (h : skipDigits cs = .ok rest) :
    rest.length < cs.length := by
  unfold skipDigits at h
  split at h
  · cases h
  · next hsome =>
    cases h
    exact length_dropWhile_lt (by rwa [List.isEmpty_iff] at hsome)

theorem length_le_of_skipExponent {cs rest : Input} (h : skipExponent cs = .ok rest) :
    rest.length ≤ cs.length := by
  unfold skipExponent at h
  split at h
  · cases h
    exact Nat.le_refl _
  · next c tail =>
    split at h
    · split at h
      all_goals
        have hlt := length_lt_of_skipDigits h
        simp only [List.length_cons]
        omega
    · cases h
      exact Nat.le_refl _

theorem length_le_of_skipFraction {cs rest : Input} (h : skipFraction cs = .ok rest) :
    rest.length ≤ cs.length := by
  unfold skipFraction at h
  split at h
  · next tail =>
    obtain ⟨rest', hdigits, hexponent⟩ := ok_of_bind h
    have hlt := length_lt_of_skipDigits hdigits
    have hle := length_le_of_skipExponent hexponent
    rw [List.length_cons]
    omega
  · exact length_le_of_skipExponent h

theorem length_lt_of_skipUnsigned {cs rest : Input} (h : skipUnsigned cs = .ok rest) :
    rest.length < cs.length := by
  unfold skipUnsigned at h
  split at h
  · cases h
  · cases h
  · next hsome _ =>
    exact Nat.lt_of_le_of_lt (length_le_of_skipFraction h) (length_dropWhile_lt hsome)

theorem length_lt_of_skipNumber {cs rest : Input} (h : skipNumber cs = .ok rest) :
    rest.length < cs.length := by
  unfold skipNumber at h
  split at h
  · exact Nat.lt_succ_of_lt (length_lt_of_skipUnsigned h)
  · exact length_lt_of_skipUnsigned h

/-! ## Space, fixed words and colons -/

theorem length_skipSpace_le (cs : Input) : (skipSpace cs).length ≤ cs.length :=
  (List.dropWhile_sublist _).length_le

theorem length_le_of_expectWord {word cs rest : List Char} (h : expectWord word cs = .ok rest) :
    rest.length ≤ cs.length := by
  induction word generalizing cs with
  | nil =>
    cases h
    exact Nat.le_refl _
  | cons w ws ih =>
    cases cs with
    | nil => cases h
    | cons c cs =>
      rw [expectWord] at h
      split at h
      · exact Nat.le_succ_of_le (ih h)
      · cases h

theorem length_lt_of_expectColon {cs rest : Input} (h : expectColon cs = .ok rest) :
    rest.length < cs.length := by
  have hle := length_skipSpace_le cs
  unfold expectColon at h
  split at h
  · cases h
  · next c tail hcs =>
    split at h
    · cases h
      rw [hcs, List.length_cons] at hle
      omega
    · cases h

end Json
end ExchangeClient

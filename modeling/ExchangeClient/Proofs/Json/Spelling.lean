import ExchangeClient.Proofs.Json.Printing
import ExchangeClient.Proofs.Json.Source

/-!
# The words of a text are read and passed over

Each word of a `Source` is met by two readers, one that passes over it and one that makes
something of it.  Passing over a word always ends behind it, `skipString_chars` and
`skipNumber_chars`.  Reading it ends there too, unless the word stands for nothing:
`readString_chars` fails where half of a surrogate pair stands alone, and `readNumber_chars`
where the number is too large for a double.

A number ends only where the text goes on with something else, so what follows it is asked to
be no part of a number.
-/

namespace ExchangeClient
namespace Json

variable {rest : Input}

/-! ## Space -/

theorem skipSpace_space (s : Space) (cs : Input) : skipSpace (s.val ++ cs) = skipSpace cs :=
  List.dropWhile_append_of_pos (List.all_eq_true.mp s.property)

theorem skipSpace_space_cons (s : Space) {c : Char} (h : isSpace c = false) (cs : Input) :
    skipSpace (s.val ++ c :: cs) = c :: cs := by
  rw [skipSpace_space, skipSpace_cons h]

theorem expectColon_space (s : Space) (cs : Input) :
    expectColon (s.val ++ ':' :: cs) = .ok cs := by
  rw [expectColon, skipSpace_space_cons s (by decide)]
  rfl

/-- Space goes on with no number. -/
theorem EndsNumber.space (h : EndsNumber rest) (s : Space) : EndsNumber (s.val ++ rest) := by
  obtain ⟨cs, hs⟩ := s
  cases cs with
  | nil => exact h
  | cons c cs =>
    rw [List.all_cons, Bool.and_eq_true] at hs
    have hc : ((c = ' ' ∨ c = '\n') ∨ c = '\t') ∨ c = '\r' := by
      simpa [isSpace] using hs.1
    rintro d ⟨⟩
    rcases hc with ((rfl | rfl) | rfl) | rfl <;> decide

/-! ## Strings -/

theorem skipString_glyphs (gs : List Glyph) (rest : Input) :
    skipString (gs.flatMap Glyph.chars ++ '"' :: rest) = .ok rest := by
  induction gs with
  | nil =>
    rw [skipString.eq_def]
    rfl
  | cons g gs ih =>
    rw [List.flatMap_cons, List.append_assoc]
    cases g with
    | plain c h =>
      rw [Glyph.chars, List.singleton_append, skipString.eq_def]
      simp only [if_neg h.1, if_neg h.2.1, if_neg h.2.2, ih]
    | letter e h =>
      have hu : e ≠ 'u' := by
        rintro rfl
        cases h
      rw [Glyph.chars, skipString.eq_def]
      simp only [List.cons_append, List.nil_append, if_neg (show '\\' ≠ '"' by decide), if_neg hu,
        h, if_true, ih]
    | code h₁ h₂ h₃ h₄ h =>
      obtain ⟨n, hn⟩ := Option.isSome_iff_exists.mp h
      exact (skipString_escape hn _).trans ih

/-- A string is passed over, whatever it stands for. -/
theorem skipString_chars (q : Quoted) (rest : Input) : skipString (q.chars ++ rest) = .ok rest := by
  rw [Quoted.chars, List.append_assoc]
  exact skipString_glyphs q.glyphs rest

/-- The outcome of reading a string that stands for `s?`. -/
def stringOutcome (s? : Option (List Char)) (rest : Input) :
    Except DecodeError (List Char × Input) :=
  match s? with
  | some s => .ok (s, rest)
  | none => .error .malformed

theorem prepend_stringOutcome (c : Char) (s? : Option (List Char)) (rest : Input) :
    prepend c (stringOutcome s? rest) = stringOutcome (s?.map (c :: ·)) rest := by
  cases s? <;> rfl

section

variable {h₁ h₂ h₃ h₄ : Char} {n : Nat} (h : hexFour? h₁ h₂ h₃ h₄ = some n)

include h

/-- The second half of a pair does not stand first. -/
theorem readString_trailing (hn : isTrailing n = true) (rest : Input) :
    readString ('\\' :: 'u' :: h₁ :: h₂ :: h₃ :: h₄ :: rest) = .error .malformed := by
  rw [readString.eq_def]
  simp only [if_neg (show '\\' ≠ '"' by decide), h, hn, if_true]

/-- A number that is no half of a pair stands for its character. -/
theorem readString_unpaired (hn : isTrailing n = false) (hn' : isLeading n = false)
    (rest : Input) :
    readString ('\\' :: 'u' :: h₁ :: h₂ :: h₃ :: h₄ :: rest) =
      prepend (Char.ofNat n) (readString rest) := by
  rw [readString.eq_def]
  simp only [if_neg (show '\\' ≠ '"' by decide), h, hn, hn', if_true]
  rfl

/-- Behind the first half of a pair another number has to follow. -/
theorem readString_half (hn : isTrailing n = false) (hn' : isLeading n = true) {c : Char}
    {tail : Input} (hc : c = '\\' → ∃ e tail', tail = e :: tail' ∧ e ≠ 'u') :
    readString ('\\' :: 'u' :: h₁ :: h₂ :: h₃ :: h₄ :: c :: tail) = .error .malformed := by
  rw [readString.eq_def]
  by_cases hescape : c = '\\'
  · obtain ⟨e, tail', rfl, he⟩ := hc hescape
    simp only [if_neg (show '\\' ≠ '"' by decide), h, hn, hn', hescape, if_true]
    rw [if_neg (by decide), if_neg (by decide), if_neg (by decide), if_pos he]
  · simp only [if_neg (show '\\' ≠ '"' by decide), h, hn, hn', if_true]
    rw [if_neg (by decide), if_neg (by decide), if_pos hescape]

/-- And it has to be the number of a second half. -/
theorem readString_pair (hn : isTrailing n = false) (hn' : isLeading n = true)
    {l₁ l₂ l₃ l₄ : Char} {m : Nat} (hm : hexFour? l₁ l₂ l₃ l₄ = some m) (rest : Input) :
    readString
        ('\\' :: 'u' :: h₁ :: h₂ :: h₃ :: h₄ :: '\\' :: 'u' :: l₁ :: l₂ :: l₃ :: l₄ :: rest) =
      if isTrailing m then prepend (pairChar n m) (readString rest) else .error .malformed := by
  rw [readString.eq_def]
  simp only [if_neg (show '\\' ≠ '"' by decide), h, hn, hn', hm, if_true]
  rfl

end

theorem readString_glyphs (gs : List Glyph) (rest : Input) :
    readString (gs.flatMap Glyph.chars ++ '"' :: rest) =
      stringOutcome (Glyph.decode gs) rest := by
  fun_induction Glyph.decode gs with
  | case1 => exact readString.eq_def _
  | case2 c h gs ih =>
    rw [← prepend_stringOutcome, ← ih, List.flatMap_cons, Glyph.chars, List.singleton_append,
      List.cons_append, readString.eq_def]
    simp only [if_neg h.1, if_neg h.2.1, if_neg h.2.2]
  | case3 e h gs ih =>
    have hu : e ≠ 'u' := by
      rintro rfl
      cases h
    rw [← prepend_stringOutcome, ← ih, List.flatMap_cons, Glyph.chars]
    exact readString_letter hu (Option.some_get h).symm _
  | case4 h₁ h₂ h₃ h₄ h gs n htrailing =>
    exact readString_trailing (Option.some_get h).symm htrailing _
  | case5 h₁ h₂ h₃ h₄ h gs n htrailing hleading ih =>
    rw [← prepend_stringOutcome, ← ih]
    exact readString_unpaired (Option.some_get h).symm (Bool.not_eq_true _ ▸ htrailing)
      (Bool.not_eq_true' _ ▸ hleading) _
  | case6 h₁ h₂ h₃ h₄ h n htrailing hleading l₁ l₂ l₃ l₄ hl gs m hm ih =>
    rw [← prepend_stringOutcome, ← ih]
    refine (readString_pair (Option.some_get h).symm (Bool.not_eq_true _ ▸ htrailing)
      (by simpa using hleading) (Option.some_get hl).symm _).trans ?_
    exact if_pos hm
  | case7 h₁ h₂ h₃ h₄ h n htrailing hleading l₁ l₂ l₃ l₄ hl gs m hm =>
    refine (readString_pair (Option.some_get h).symm (Bool.not_eq_true _ ▸ htrailing)
      (by simpa using hleading) (Option.some_get hl).symm _).trans ?_
    exact if_neg hm
  | case8 h₁ h₂ h₃ h₄ h gs n htrailing hleading hnot =>
    have hhalf {c : Char} {tail : Input}
        (hc : c = '\\' → ∃ e tail', tail = e :: tail' ∧ e ≠ 'u') :=
      readString_half (Option.some_get h).symm (Bool.not_eq_true _ ▸ htrailing)
        (by simpa using hleading) hc
    rcases gs with _ | ⟨⟨c, hc⟩ | ⟨e, he⟩ | ⟨l₁, l₂, l₃, l₄, hl⟩, gs⟩
    · exact hhalf fun heq => absurd heq (by decide)
    · exact hhalf fun heq => absurd heq hc.2.1
    · refine hhalf fun _ => ⟨e, _, rfl, ?_⟩
      rintro rfl
      cases he
    · exact absurd rfl (hnot l₁ l₂ l₃ l₄ hl gs)

/-- **A string is read as what it stands for**, and not at all where half of a surrogate pair
stands alone. -/
theorem readString_chars (q : Quoted) (rest : Input) :
    readString (q.chars ++ rest) = stringOutcome (Glyph.decode q.glyphs) rest := by
  rw [Quoted.chars, List.append_assoc]
  exact readString_glyphs q.glyphs rest

/-! ## Numbers -/

/-- The power of ten that an exponent stands for. -/
def Exponent.value (e : Exponent) : Int :=
  let n : Nat := e.digits.chars.foldl (fun n d => 10 * n + (d.toNat - 48)) 0
  match e.sign with
  | .minus => -(n : Int)
  | .none | .plus => (n : Int)

/-- The number with a significand and a power of ten to which the exponent is added. -/
def Numeral.scaled (n : Numeral) (significand : Nat) (exponent : Int) : Except DecodeError Number :=
  match n.exponent with
  | some e => scaledNumber n.negative significand (exponent + e.value)
  | none => scaledNumber n.negative significand exponent

/-- The number that is spelt, unless it is too large for a double. -/
def Numeral.read (n : Numeral) : Except DecodeError Number :=
  let (significand, dropped) := gather 0 n.whole.chars
  match n.fraction with
  | some digits =>
    let (significand, unused) := gather significand digits.chars
    n.scaled significand ((dropped : Int) - (digits.chars.length - unused : Nat))
  | none =>
    if dropped = 0 && n.exponent.isNone then .ok (wholeNumber n.negative significand)
    else n.scaled significand dropped

section

variable (digits : Digits)

theorem Digits.forall_isDigit : ∀ c ∈ digits.chars, c.isDigit = true :=
  List.all_eq_true.mp digits.isDigit

theorem Digits.takeWhile_append (h : EndsDigits rest) :
    (digits.chars ++ rest).takeWhile Char.isDigit = digits.chars :=
  takeWhile_isDigit digits.forall_isDigit h

theorem Digits.dropWhile_append (h : EndsDigits rest) :
    (digits.chars ++ rest).dropWhile Char.isDigit = rest :=
  dropWhile_isDigit digits.forall_isDigit h

theorem Digits.isEmpty_takeWhile (h : EndsDigits rest) :
    ((digits.chars ++ rest).takeWhile Char.isDigit).isEmpty = false := by
  rw [digits.takeWhile_append h, List.isEmpty_eq_false_iff]
  exact digits.ne_nil

theorem skipDigits_append (h : EndsDigits rest) : skipDigits (digits.chars ++ rest) = .ok rest := by
  rw [skipDigits, digits.isEmpty_takeWhile h, digits.dropWhile_append h]
  rfl

theorem Digits.exists_cons : ∃ c cs, digits.chars = c :: cs ∧ c.isDigit = true := by
  obtain ⟨c, cs, hcs⟩ := List.exists_cons_of_ne_nil digits.ne_nil
  exact ⟨c, cs, hcs, digits.forall_isDigit c (hcs ▸ List.mem_cons_self)⟩

theorem Digits.readDigits_append (negative : Bool) (h : EndsDigits rest) :
    readDigits negative (digits.chars ++ rest) =
      let n : Nat := digits.chars.foldl (fun n d => 10 * n + (d.toNat - 48)) 0
      .ok (if negative then -(n : Int) else (n : Int), rest) := by
  rw [readDigits, digits.isEmpty_takeWhile h, digits.takeWhile_append h, digits.dropWhile_append h]
  rfl

end

namespace Exponent

variable (e : Exponent)

theorem readExponent_append (h : EndsDigits rest) :
    readExponent (e.sign.chars ++ (e.digits.chars ++ rest)) = .ok (e.value, rest) := by
  rw [value]
  cases e.sign with
  | none =>
    obtain ⟨c, cs, hcs, hc⟩ := e.digits.exists_cons
    rw [Sign.chars, List.nil_append, readExponent.eq_3, e.digits.readDigits_append false h]
    · rfl
    · rintro tail heq
      rw [hcs] at heq
      cases heq
      cases hc
    · rintro tail heq
      rw [hcs] at heq
      cases heq
      cases hc
  | plus => exact e.digits.readDigits_append false h
  | minus => exact e.digits.readDigits_append true h

theorem skipExponent_append (h : EndsDigits rest) : skipExponent (e.chars ++ rest) = .ok rest := by
  rw [chars, List.cons_append, List.append_assoc]
  exact skipExponent_of_readExponent e.isMark (e.readExponent_append h)

end Exponent

namespace Numeral

variable (n : Numeral)

theorem readScaled_append (significand : Nat) (exponent : Int) (h : EndsNumber rest) :
    readScaled n.negative significand exponent (n.exponentChars ++ rest) =
      (n.scaled significand exponent).map fun v => (v, rest) := by
  rw [exponentChars, scaled]
  cases n.exponent with
  | none =>
    rw [List.nil_append]
    cases rest with
    | nil => rfl
    | cons c tail =>
      rw [readScaled, if_neg (by simp [(h c rfl).2.2])]
  | some e =>
    dsimp only
    rw [Exponent.chars, List.cons_append, List.append_assoc, readScaled, if_pos e.isMark,
      bind_of_ok (e.readExponent_append h.endsDigits)]
    dsimp only
    cases scaledNumber n.negative significand (exponent + e.value) <;> rfl

theorem skipExponent_append (h : EndsNumber rest) :
    skipExponent (n.exponentChars ++ rest) = .ok rest := by
  rw [exponentChars]
  cases n.exponent with
  | none =>
    cases rest with
    | nil => rfl
    | cons c tail => exact if_neg (by simp [(h c rfl).2.2])
  | some e => exact e.skipExponent_append h.endsDigits

theorem endsDigits_exponentChars (h : EndsNumber rest) : EndsDigits (n.exponentChars ++ rest) := by
  rw [exponentChars]
  cases n.exponent with
  | none => exact h.endsDigits
  | some e =>
    have hmark : e.mark = 'e' ∨ e.mark = 'E' := by simpa [isExponentMark] using e.isMark
    rintro c ⟨⟩
    rcases hmark with hmark | hmark <;> rw [hmark] <;> decide

theorem endsDigits_tail (h : EndsNumber rest) : EndsDigits (n.tail ++ rest) := by
  rw [tail]
  cases n.fraction with
  | none => exact n.endsDigits_exponentChars h
  | some digits =>
    rintro c ⟨⟩
    decide

theorem any_head?_exponentChars (h : EndsNumber rest) :
    (n.exponentChars ++ rest).head?.any isExponentMark = n.exponent.isSome := by
  rw [exponentChars]
  cases n.exponent with
  | none =>
    cases rest with
    | nil => rfl
    | cons c tail => exact (h c rfl).2.2
  | some e => exact e.isMark

/-- No point stands before an exponent. -/
theorem exponentChars_append_ne (h : EndsNumber rest) (tail : Input) :
    n.exponentChars ++ rest ≠ '.' :: tail := by
  rw [exponentChars]
  cases n.exponent with
  | none =>
    rintro rfl
    exact (h '.' rfl).2.1 rfl
  | some e =>
    intro heq
    have hmark := e.isMark
    rw [(List.cons.inj heq).1] at hmark
    cases hmark

theorem readFraction_append (significand dropped : Nat) (h : EndsNumber rest) :
    readFraction n.negative significand dropped (n.tail ++ rest) =
      Except.map (fun v => (v, rest)) (match n.fraction with
        | some digits =>
          let (significand, unused) := gather significand digits.chars
          n.scaled significand ((dropped : Int) - (digits.chars.length - unused : Nat))
        | none =>
          if dropped = 0 && n.exponent.isNone then .ok (wholeNumber n.negative significand)
          else n.scaled significand dropped) := by
  rw [tail]
  cases n.fraction with
  | some digits =>
    have hend := n.endsDigits_exponentChars h
    dsimp only
    rw [List.cons_append, List.append_assoc, readFraction, digits.isEmpty_takeWhile hend,
      digits.takeWhile_append hend, digits.dropWhile_append hend]
    exact n.readScaled_append _ _ h
  | none =>
    dsimp only
    rw [readFraction.eq_2 _ _ _ _ (n.exponentChars_append_ne h), n.any_head?_exponentChars h]
    cases hexponent : n.exponent with
    | some e =>
      rw [Option.isSome_some, Option.isNone_some, Bool.not_true, Bool.and_false]
      exact n.readScaled_append _ _ h
    | none =>
      rw [Option.isSome_none, Option.isNone_none, Bool.not_false, Bool.and_true]
      split
      · rw [exponentChars, hexponent]
        rfl
      · exact n.readScaled_append _ _ h

theorem skipFraction_append (h : EndsNumber rest) : skipFraction (n.tail ++ rest) = .ok rest := by
  rw [tail]
  cases n.fraction with
  | some digits =>
    have hdigits := skipDigits_append digits (n.endsDigits_exponentChars h)
    dsimp only
    rw [List.cons_append, List.append_assoc, skipFraction, bind_of_ok hdigits]
    exact n.skipExponent_append h
  | none =>
    rw [skipFraction.eq_2 _ (n.exponentChars_append_ne h)]
    exact n.skipExponent_append h

theorem readUnsigned_append (h : EndsNumber rest) :
    readUnsigned n.negative (n.unsigned ++ rest) = n.read.map fun v => (v, rest) := by
  have hend := n.endsDigits_tail h
  rw [unsigned, List.append_assoc, readUnsigned, n.whole.takeWhile_append hend,
    n.whole.dropWhile_append hend]
  split
  · next hnil => exact absurd hnil n.whole.ne_nil
  · next c cs hzero => exact absurd hzero (n.noLeadingZero c cs)
  · exact n.readFraction_append _ _ h

theorem skipUnsigned_append (h : EndsNumber rest) :
    skipUnsigned (n.unsigned ++ rest) = .ok rest := by
  have hend := n.endsDigits_tail h
  rw [unsigned, List.append_assoc, skipUnsigned, n.whole.takeWhile_append hend,
    n.whole.dropWhile_append hend]
  split
  · next hnil => exact absurd hnil n.whole.ne_nil
  · next c cs hzero => exact absurd hzero (n.noLeadingZero c cs)
  · exact n.skipFraction_append h

/-- What is left of a number without its sign starts with a digit. -/
theorem unsigned_append_ne (rest tail : Input) : n.unsigned ++ rest ≠ '-' :: tail := by
  obtain ⟨c, cs, hcs, hc⟩ := n.whole.exists_cons
  rw [unsigned, hcs]
  rintro heq
  cases heq
  cases hc

end Numeral

/-- **A number is read as what it stands for**, and not at all if it is too large. -/
theorem readNumber_chars (n : Numeral) (h : EndsNumber rest) :
    readNumber (n.chars ++ rest) = n.read.map fun v => (v, rest) := by
  rw [← n.readUnsigned_append h, Numeral.chars]
  cases n.negative with
  | true => rfl
  | false => exact readNumber.eq_2 _ (n.unsigned_append_ne rest)

/-- A number is passed over, however large it is. -/
theorem skipNumber_chars (n : Numeral) (h : EndsNumber rest) :
    skipNumber (n.chars ++ rest) = .ok rest := by
  rw [← n.skipUnsigned_append h, Numeral.chars]
  cases n.negative with
  | true => rfl
  | false => exact skipNumber.eq_2 _ (n.unsigned_append_ne rest)

/-- A number starts with its sign or with a digit. -/
theorem Numeral.exists_cons (n : Numeral) :
    ∃ c cs, n.chars = c :: cs ∧ (c = '-' || c.isDigit) = true := by
  rw [Numeral.chars]
  cases n.negative with
  | true => exact ⟨'-', n.unsigned, rfl, rfl⟩
  | false =>
    obtain ⟨c, cs, hcs, hc⟩ := n.whole.exists_cons
    refine ⟨c, cs ++ n.tail, ?_, by rw [hc, Bool.or_true]⟩
    rw [Numeral.unsigned, hcs]
    rfl

end Json
end ExchangeClient

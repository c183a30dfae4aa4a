import ExchangeClient.Decimal.Text

/-!
# Decimals read back

A decimal is written with the places that it has, so it is read back with the same mantissa and
the same scale, up to the greatest mantissa and the smallest place.  Only the sign of a zero is
lost: a zero that is written in full has none, `ofText?_toText_iff`.

What has to be seen is that no digit meets one of the two bounds on the way.  The digits before
a place spell a smaller number than all of them, and all of them spell the mantissa.
-/

namespace ExchangeClient
namespace Decimal

/-! ## Digits -/

theorem le_ofDigitChars (cs : List Char) (m : Nat) : m ≤ Nat.ofDigitChars 10 cs m := by
  rw [Nat.ofDigitChars_eq_ofDigitChars_zero]
  exact Nat.le_add_right_of_le (Nat.le_mul_of_pos_left m (Nat.pow_pos (by decide)))

theorem ofDigitChars_le_append (cs ds : List Char) (m : Nat) :
    Nat.ofDigitChars 10 cs m ≤ Nat.ofDigitChars 10 (cs ++ ds) m := by
  rw [Nat.ofDigitChars_append]
  exact le_ofDigitChars ds _

theorem isDigit_of_mem_paddedDigits {mantissa scale : Nat} {c : Char}
    (h : c ∈ paddedDigits mantissa scale) : c.isDigit = true := by
  rcases List.mem_append.mp h with h | h
  · rw [List.eq_of_mem_replicate h]
    rfl
  · exact Nat.isDigit_of_mem_toDigits (by decide) (by decide) h

theorem ofDigitChars_paddedDigits (mantissa scale : Nat) :
    Nat.ofDigitChars 10 (paddedDigits mantissa scale) 0 = mantissa := by
  rw [paddedDigits, Nat.ofDigitChars_append, Nat.ofDigitChars_replicate_zero, Nat.mul_zero,
    Nat.ofDigitChars_ten_toDigits]

theorem lt_length_paddedDigits (mantissa scale : Nat) :
    scale < (paddedDigits mantissa scale).length := by
  rw [paddedDigits, List.length_append, List.length_replicate]
  omega

/-! ## Reading digits -/

/-- Digits that stay within bounds are gathered one and all. -/
theorem readDigits_append {negative point : Bool} {cs : List Char}
    (hdigits : ∀ c ∈ cs, c.isDigit = true) (rest : List Char) {mantissa scale : Nat}
    (started : Bool) (hmantissa : Nat.ofDigitChars 10 cs mantissa < mantissaBound)
    (hscale : point = true → scale + cs.length ≤ maxScale) :
    readDigits negative mantissa scale point started (cs ++ rest) =
      readDigits negative (Nat.ofDigitChars 10 cs mantissa)
        (if point then scale + cs.length else scale) point (started || !cs.isEmpty) rest := by
  induction cs generalizing mantissa scale started with
  | nil => simp
  | cons c cs ih =>
    obtain ⟨hc, hcs⟩ := List.forall_mem_cons.mp hdigits
    have hnext : Nat.ofDigitChars 10 (c :: cs) mantissa =
        Nat.ofDigitChars 10 cs (mantissa * 10 + digitValue c) := by
      rw [Nat.ofDigitChars_cons, Nat.mul_comm]
      rfl
    rw [hnext] at hmantissa ⊢
    have hfits : ¬ mantissaBound ≤ mantissa * 10 + digitValue c :=
      Nat.not_le.mpr (Nat.lt_of_le_of_lt (le_ofDigitChars cs _) hmantissa)
    have hroom : ¬ (point && (scale == maxScale ||
        decide (mantissaBound ≤ mantissa * 10 + digitValue c))) = true := by
      simp only [hfits, decide_false, Bool.or_false, Bool.and_eq_true, beq_iff_eq, not_and]
      intro hpoint hmax
      have := hscale hpoint
      rw [hmax, List.length_cons] at this
      omega
    rw [List.cons_append, readDigits, if_pos hc, if_neg hroom, if_neg hfits, ih hcs true hmantissa]
    · cases point <;> simp [Nat.add_assoc, Nat.add_comm 1]
    · intro hpoint
      have := hscale hpoint
      rw [List.length_cons] at this
      rw [if_pos hpoint]
      omega

/-- Digits before the point. -/
theorem readDigits_whole (negative : Bool) {whole : List Char}
    (hdigits : ∀ c ∈ whole, c.isDigit = true) (hwhole : whole ≠ []) (rest : List Char)
    (hmantissa : Nat.ofDigitChars 10 whole 0 < mantissaBound) :
    readDigits negative 0 0 false false (whole ++ rest) =
      readDigits negative (Nat.ofDigitChars 10 whole 0) 0 false true rest := by
  have hgather := @readDigits_append negative false whole hdigits rest 0 0 false hmantissa nofun
  rwa [List.isEmpty_eq_false_iff.mpr hwhole] at hgather

/-- Digits before the point and behind it. -/
theorem readDigits_point (negative : Bool) {whole places : List Char}
    (hdigits : ∀ c ∈ whole ++ places, c.isDigit = true) (hwhole : whole ≠ [])
    (hmantissa : Nat.ofDigitChars 10 (whole ++ places) 0 < mantissaBound)
    (hscale : places.length ≤ maxScale) :
    readDigits negative 0 0 false false (whole ++ '.' :: places) =
      ofDigits? negative (Nat.ofDigitChars 10 (whole ++ places) 0) places.length := by
  rw [List.forall_mem_append] at hdigits
  rw [readDigits_whole negative hdigits.1 hwhole _
    (Nat.lt_of_le_of_lt (ofDigitChars_le_append whole places 0) hmantissa)]
  rw [Nat.ofDigitChars_append] at hmantissa ⊢
  have hgather := @readDigits_append negative true places hdigits.2 [] _ 0 true hmantissa
    (fun _ => by rwa [Nat.zero_add])
  rw [List.append_nil, if_pos rfl, Nat.zero_add] at hgather
  exact hgather

/-- A number that starts with a digit has no sign. -/
theorem ofFixed?_of_isDigit {c : Char} (h : c.isDigit = true) (cs : List Char) :
    ofFixed? (c :: cs) = readDigits false 0 0 false false (c :: cs) := by
  rw [ofFixed?]
  · rintro rest heq
    cases heq
    cases h
  · rintro rest heq
    cases heq
    cases h

/-! ## What is written -/

/-- What a decimal is written as behind its sign. -/
def unsignedChars (d : Decimal) : List Char :=
  (paddedDigits d.mantissa d.scale).take ((paddedDigits d.mantissa d.scale).length - d.scale) ++
    if d.scale = 0 then []
    else '.' :: (paddedDigits d.mantissa d.scale).drop
      ((paddedDigits d.mantissa d.scale).length - d.scale)

theorem toChars_eq (d : Decimal) :
    d.toChars = (if d.negative then ['-'] else []) ++ d.unsignedChars :=
  List.append_assoc _ _ _

/-- Before the point stands a digit. -/
theorem take_paddedDigits_ne_nil (mantissa scale : Nat) :
    (paddedDigits mantissa scale).take ((paddedDigits mantissa scale).length - scale) ≠ [] := by
  have hlength := lt_length_paddedDigits mantissa scale
  rw [ne_eq, ← List.length_eq_zero_iff, List.length_take]
  omega

theorem exists_unsignedChars_eq (d : Decimal) :
    ∃ c cs, c.isDigit = true ∧ d.unsignedChars = c :: cs := by
  obtain ⟨c, cs, hwhole⟩ := List.exists_cons_of_ne_nil (take_paddedDigits_ne_nil d.mantissa d.scale)
  refine ⟨c, _, ?_, by rw [unsignedChars, hwhole, List.cons_append]⟩
  exact isDigit_of_mem_paddedDigits (List.mem_of_mem_take (hwhole ▸ List.mem_cons_self))

theorem readDigits_unsignedChars (negative : Bool) (d : Decimal) :
    readDigits negative 0 0 false false d.unsignedChars =
      ofDigits? negative d.mantissa d.scale := by
  have hdigits := @isDigit_of_mem_paddedDigits d.mantissa d.scale
  have hwhole := take_paddedDigits_ne_nil d.mantissa d.scale
  have hvalue := ofDigitChars_paddedDigits d.mantissa d.scale
  have hlength := lt_length_paddedDigits d.mantissa d.scale
  rw [unsignedChars]
  generalize paddedDigits d.mantissa d.scale = digits at *
  by_cases hscale : d.scale = 0
  · rw [hscale, Nat.sub_zero, List.take_length] at hwhole ⊢
    rw [if_pos rfl, readDigits_whole negative (fun c hc => hdigits hc) hwhole []
      (hvalue ▸ d.mantissa_lt), hvalue]
    rfl
  · have hparts := List.take_append_drop (digits.length - d.scale) digits
    have hplaces : (digits.drop (digits.length - d.scale)).length = d.scale := by
      rw [List.length_drop]
      omega
    rw [if_neg hscale, readDigits_point negative (fun c hc => hdigits (hparts ▸ hc)) hwhole
      (by rw [hparts, hvalue]; exact d.mantissa_lt) (by rw [hplaces]; exact d.scale_le), hparts,
      hvalue, hplaces]

/-! ## Whole texts -/

theorem ofFixed?_toChars (d : Decimal) :
    ofFixed? d.toChars = ofDigits? d.negative d.mantissa d.scale := by
  rw [toChars_eq]
  cases hsign : d.negative with
  | true => exact readDigits_unsignedChars true d
  | false =>
    obtain ⟨c, cs, hc, heq⟩ := d.exists_unsignedChars_eq
    rw [if_neg Bool.false_ne_true, List.nil_append, heq, ofFixed?_of_isDigit hc, ← heq]
    exact readDigits_unsignedChars false d

/-- Whether a decimal is a zero with a sign. -/
def isSignedZero (d : Decimal) : Bool :=
  d.negative && d.mantissa == 0

/-- **A decimal is read back with its mantissa and its scale**, and it is the same altogether
unless it is a zero with a sign. -/
theorem ofText?_toText_iff (d : Decimal) :
    ofText? d.toText = some d ↔ d.isSignedZero = false := by
  have hdigits : ofDigits? d.negative d.mantissa d.scale =
      some ⟨d.negative && d.mantissa != 0, d.mantissa, d.scale, d.mantissa_lt, d.scale_le⟩ := by
    rw [ofDigits?, ofParts?, dif_pos ⟨d.mantissa_lt, d.scale_le⟩]
  rw [ofText?, toText, String.toList_ofList, ofChars?, ofFixed?_toChars, hdigits, Option.some_or,
    Option.some.injEq]
  obtain ⟨negative, mantissa, scale, hm, hs⟩ := d
  simp [isSignedZero]

end Decimal
end ExchangeClient

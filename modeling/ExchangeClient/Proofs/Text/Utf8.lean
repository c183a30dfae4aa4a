import ExchangeClient.Text.Utf8
import Mathlib.Tactic.Common

/-!
# Text that was written is read back

The bytes of a text are read back as the text (`decodeLossy_encode`): nothing in them is
ill-formed.  A reading looks at the head of the bytes with `scan`, so what has to be seen is that
the bytes of one character are scanned as that character, whatever follows them (`exists_scan`).
There are four widths, and the lead byte says which.  The narrow tests for the second byte are met
because a character of some width could not have been written in fewer bytes, is no surrogate, and
is not past the last plane.

The strict reading reads nothing else (`decode_eq_ok_iff`): what is scanned as a character are the
bytes of that character, because the same tests leave only one way to write it.
-/

namespace ExchangeClient
namespace Text
namespace Utf8

variable {lead b c d : UInt8} {rest : List UInt8} {v : Nat}

/-! ## One character -/

theorem isContinuation_iff : isContinuation b = true ↔ 0x80 ≤ b.toNat ∧ b.toNat ≤ 0xBF := by
  simp [isContinuation, UInt8.le_iff_toNat_le]

/-- A second byte continues a sequence; behind four of the lead bytes it is narrower. -/
theorem isSecond_iff : isSecond lead b = true ↔
    (0x80 ≤ b.toNat ∧ b.toNat ≤ 0xBF) ∧
      (lead.toNat = 0xE0 → 0xA0 ≤ b.toNat) ∧ (lead.toNat = 0xED → b.toNat ≤ 0x9F) ∧
      (lead.toNat = 0xF0 → 0x90 ≤ b.toNat) ∧ (lead.toNat = 0xF4 → b.toNat ≤ 0x8F) := by
  have hb : b.toNat < 256 := b.toNat_lt
  simp only [isSecond, beq_iff_eq, ← UInt8.toNat_inj, UInt8.reduceToNat]
  split
  · simp only [Bool.and_eq_true, decide_eq_true_eq, UInt8.le_iff_toNat_le, UInt8.reduceToNat]
    omega
  · split
    · simp only [Bool.and_eq_true, decide_eq_true_eq, UInt8.le_iff_toNat_le, UInt8.reduceToNat]
      omega
    · split
      · simp only [Bool.and_eq_true, decide_eq_true_eq, UInt8.le_iff_toNat_le, UInt8.reduceToNat]
        omega
      · split
        · simp only [Bool.and_eq_true, decide_eq_true_eq, UInt8.le_iff_toNat_le,
            UInt8.reduceToNat]
          omega
        · rw [isContinuation_iff]
          omega

/-- A byte is the number that it is made of. -/
theorem toNat_byte {n : Nat} (h : n < 256) : (UInt8.ofNat n).toNat = n :=
  UInt8.toNat_ofNat_of_lt' h

theorem scan_one (h : v ≤ 0x7F) : scan (UInt8.ofNat v) rest = .char (Char.ofNat v) 1 := by
  have hlead : (UInt8.ofNat v).toNat = v := toNat_byte (by omega)
  have hlt : UInt8.ofNat v < 0x80 := by
    rw [UInt8.lt_iff_toNat_lt, hlead]
    exact Nat.lt_succ_of_le h
  rw [scan.eq_def, if_pos hlt, hlead]

theorem scan_two (h : 0x7F < v) (h' : v ≤ 0x7FF) :
    scan (UInt8.ofNat (v / 64 % 32 + 192)) (UInt8.ofNat (v % 64 + 128) :: rest) =
      .char (Char.ofNat v) 2 := by
  have hlead : (UInt8.ofNat (v / 64 % 32 + 192)).toNat = v / 64 % 32 + 192 :=
    toNat_byte (by omega)
  have hsecond : (UInt8.ofNat (v % 64 + 128)).toNat = v % 64 + 128 := toNat_byte (by omega)
  have hvalue : (v / 64 % 32 + 192) % 32 * 64 + (v % 64 + 128) % 64 = v := by omega
  simp only [scan, isContinuation_iff, Bool.and_eq_true, decide_eq_true_eq, UInt8.lt_iff_toNat_lt,
    UInt8.le_iff_toNat_le, UInt8.reduceToNat, low, hlead, hsecond, hvalue]
  rw [if_neg (by omega), if_pos (by omega), if_pos (by omega)]

theorem scan_three (h : 0x7FF < v) (h' : v ≤ 0xFFFF) (hchar : v < 0xD800 ∨ 0xDFFF < v) :
    scan (UInt8.ofNat (v / 4096 % 16 + 224))
      (UInt8.ofNat (v / 64 % 64 + 128) :: UInt8.ofNat (v % 64 + 128) :: rest) =
      .char (Char.ofNat v) 3 := by
  have hlead : (UInt8.ofNat (v / 4096 % 16 + 224)).toNat = v / 4096 % 16 + 224 :=
    toNat_byte (by omega)
  have hsecond : (UInt8.ofNat (v / 64 % 64 + 128)).toNat = v / 64 % 64 + 128 :=
    toNat_byte (by omega)
  have hthird : (UInt8.ofNat (v % 64 + 128)).toNat = v % 64 + 128 := toNat_byte (by omega)
  have hvalue : (v / 4096 % 16 + 224) % 16 * 4096 + (v / 64 % 64 + 128) % 64 * 64 +
      (v % 64 + 128) % 64 = v := by omega
  simp only [scan, isSecond_iff, isContinuation_iff, Bool.and_eq_true, decide_eq_true_eq,
    UInt8.lt_iff_toNat_lt, UInt8.le_iff_toNat_le, UInt8.reduceToNat, low, hlead, hsecond, hthird,
    hvalue]
  rw [if_neg (by omega), if_neg (by omega), if_pos (by omega), if_pos (by omega),
    if_pos (by omega)]

theorem scan_four (h : 0xFFFF < v) (hchar : v < 0x110000) :
    scan (UInt8.ofNat (v / 262144 % 8 + 240))
      (UInt8.ofNat (v / 4096 % 64 + 128) :: UInt8.ofNat (v / 64 % 64 + 128) ::
        UInt8.ofNat (v % 64 + 128) :: rest) =
      .char (Char.ofNat v) 4 := by
  have hlead : (UInt8.ofNat (v / 262144 % 8 + 240)).toNat = v / 262144 % 8 + 240 :=
    toNat_byte (by omega)
  have hsecond : (UInt8.ofNat (v / 4096 % 64 + 128)).toNat = v / 4096 % 64 + 128 :=
    toNat_byte (by omega)
  have hthird : (UInt8.ofNat (v / 64 % 64 + 128)).toNat = v / 64 % 64 + 128 :=
    toNat_byte (by omega)
  have hfourth : (UInt8.ofNat (v % 64 + 128)).toNat = v % 64 + 128 := toNat_byte (by omega)
  have hvalue : (v / 262144 % 8 + 240) % 8 * 262144 + (v / 4096 % 64 + 128) % 64 * 4096 +
      (v / 64 % 64 + 128) % 64 * 64 + (v % 64 + 128) % 64 = v := by omega
  simp only [scan, isSecond_iff, isContinuation_iff, Bool.and_eq_true, decide_eq_true_eq,
    UInt8.lt_iff_toNat_lt, UInt8.le_iff_toNat_le, UInt8.reduceToNat, low, hlead, hsecond, hthird,
    hfourth, hvalue]
  rw [if_neg (by omega), if_neg (by omega), if_neg (by omega), if_pos (by omega),
    if_pos (by omega), if_pos (by omega), if_pos (by omega)]

/-- **The bytes of a character are scanned as the character**, whatever follows them. -/
theorem exists_scan (c : Char) : ∃ lead tail, String.utf8EncodeChar c = lead :: tail ∧
    ∀ rest, scan lead (tail ++ rest) = .char c (tail.length + 1) := by
  have hc : Char.ofNat c.val.toNat = c := Char.ofNat_toNat c
  have hvalid : c.val.toNat < 0xD800 ∨ 0xDFFF < c.val.toNat ∧ c.val.toNat < 0x110000 := c.valid
  unfold String.utf8EncodeChar
  generalize c.val.toNat = v at hc hvalid
  dsimp only
  by_cases hone : v ≤ 0x7F
  · rw [if_pos hone]
    exact ⟨_, _, rfl, fun rest => hc ▸ scan_one hone⟩
  rw [if_neg hone]
  by_cases htwo : v ≤ 0x7FF
  · rw [if_pos htwo]
    exact ⟨_, _, rfl, fun rest => hc ▸ scan_two (by omega) htwo⟩
  rw [if_neg htwo]
  by_cases hthree : v ≤ 0xFFFF
  · rw [if_pos hthree]
    exact ⟨_, _, rfl, fun rest => hc ▸ scan_three (by omega) hthree (by omega)⟩
  · rw [if_neg hthree]
    exact ⟨_, _, rfl, fun rest => hc ▸ scan_four (by omega) (by omega)⟩

/-! ## Texts -/

/-- **The bytes of a text are read as the text.** -/
theorem decodeLossy_encode (cs : List Char) : decodeLossy (encode cs) = cs := by
  induction cs with
  | nil => rw [encode_nil, decodeLossy]
  | cons c cs ih =>
    obtain ⟨lead, tail, hbytes, hscan⟩ := exists_scan c
    rw [encode_cons, hbytes, List.cons_append, decodeLossy, hscan]
    dsimp only
    rw [Nat.add_sub_cancel, List.drop_left, ih]

/-! ## What is read was written -/

theorem toNat_val_ofNat (h : v < 0xD800 ∨ 0xDFFF < v ∧ v < 0x110000) :
    (Char.ofNat v).val.toNat = v := by
  rw [Char.ofNat, dif_pos (show v.isValidChar from h)]
  rfl

/-- A byte is found again by its number. -/
theorem ofNat_eq_of_toNat {n : Nat} (h : b.toNat = n) : UInt8.ofNat n = b := by
  rw [← h, UInt8.ofNat_toNat]

theorem encodeChar_one (h : v ≤ 0x7F) : String.utf8EncodeChar (Char.ofNat v) = [UInt8.ofNat v] := by
  unfold String.utf8EncodeChar
  rw [toNat_val_ofNat (by omega)]
  exact if_pos h

theorem encodeChar_two (h : 0x7F < v) (h' : v ≤ 0x7FF) :
    String.utf8EncodeChar (Char.ofNat v) =
      [UInt8.ofNat (v / 64 % 32 + 192), UInt8.ofNat (v % 64 + 128)] := by
  unfold String.utf8EncodeChar
  rw [toNat_val_ofNat (by omega)]
  dsimp only
  rw [if_neg (by omega), if_pos h']

theorem encodeChar_three (h : 0x7FF < v) (h' : v ≤ 0xFFFF) (hchar : v < 0xD800 ∨ 0xDFFF < v) :
    String.utf8EncodeChar (Char.ofNat v) =
      [UInt8.ofNat (v / 4096 % 16 + 224), UInt8.ofNat (v / 64 % 64 + 128),
        UInt8.ofNat (v % 64 + 128)] := by
  unfold String.utf8EncodeChar
  rw [toNat_val_ofNat (by omega)]
  dsimp only
  rw [if_neg (by omega), if_neg (by omega), if_pos h']

theorem encodeChar_four (h : 0xFFFF < v) (hchar : v < 0x110000) :
    String.utf8EncodeChar (Char.ofNat v) =
      [UInt8.ofNat (v / 262144 % 8 + 240), UInt8.ofNat (v / 4096 % 64 + 128),
        UInt8.ofNat (v / 64 % 64 + 128), UInt8.ofNat (v % 64 + 128)] := by
  unfold String.utf8EncodeChar
  rw [toNat_val_ofNat (by omega)]
  dsimp only
  rw [if_neg (by omega), if_neg (by omega), if_neg (by omega)]

/-- The bytes that are scanned as two bytes of a character are the character. -/
theorem encodeChar_pair (hlead : 0xC2 ≤ lead.toNat ∧ lead.toNat ≤ 0xDF)
    (hb : isContinuation b = true) :
    String.utf8EncodeChar (Char.ofNat (lead.toNat % 32 * 64 + low b)) = [lead, b] := by
  rw [isContinuation_iff] at hb
  unfold low
  rw [encodeChar_two (by omega) (by omega), ofNat_eq_of_toNat (b := lead) (by omega),
    ofNat_eq_of_toNat (b := b) (by omega)]

theorem encodeChar_triple (hlead : 0xE0 ≤ lead.toNat ∧ lead.toNat ≤ 0xEF)
    (hb : isSecond lead b = true) (hc : isContinuation c = true) :
    String.utf8EncodeChar (Char.ofNat (lead.toNat % 16 * 4096 + low b * 64 + low c)) =
      [lead, b, c] := by
  rw [isSecond_iff] at hb
  rw [isContinuation_iff] at hc
  unfold low
  rw [encodeChar_three (by omega) (by omega) (by omega),
    ofNat_eq_of_toNat (b := lead) (by omega), ofNat_eq_of_toNat (b := b) (by omega),
    ofNat_eq_of_toNat (b := c) (by omega)]

theorem encodeChar_quadruple (hlead : 0xF0 ≤ lead.toNat ∧ lead.toNat ≤ 0xF4)
    (hb : isSecond lead b = true) (hc : isContinuation c = true)
    (hd : isContinuation d = true) :
    String.utf8EncodeChar (Char.ofNat
      (lead.toNat % 8 * 262144 + low b * 4096 + low c * 64 + low d)) = [lead, b, c, d] := by
  rw [isSecond_iff] at hb
  rw [isContinuation_iff] at hc hd
  unfold low
  rw [encodeChar_four (by omega) (by omega), ofNat_eq_of_toNat (b := lead) (by omega),
    ofNat_eq_of_toNat (b := b) (by omega), ofNat_eq_of_toNat (b := c) (by omega),
    ofNat_eq_of_toNat (b := d) (by omega)]

/-- **What is scanned as a character is the bytes of that character**, and what follows them. -/
theorem encodeChar_of_scan {c : Char} {w : Nat} (h : scan lead rest = .char c w) :
    String.utf8EncodeChar c ++ rest.drop (w - 1) = lead :: rest := by
  have hrange {low high : UInt8} (hlead : (low ≤ lead && lead ≤ high) = true) :
      low.toNat ≤ lead.toNat ∧ lead.toNat ≤ high.toNat := by
    simpa [UInt8.le_iff_toNat_le] using hlead
  revert h
  -- Only the four cases in which all bytes of a character are there scan one.
  fun_cases scan lead rest
  all_goals intro h; cases h
  case case1 hone =>
    have hone : lead.toNat < 0x80 := UInt8.lt_iff_toNat_lt.mp hone
    rw [encodeChar_one (by omega), ofNat_eq_of_toNat rfl]
    rfl
  case case3 _ htwo _ _ hb =>
    rw [encodeChar_pair (hrange htwo) hb]
    rfl
  case case7 _ _ hthree _ hb _ _ hc =>
    rw [encodeChar_triple (hrange hthree) hb hc]
    rfl
  case case13 _ _ _ hfour _ hb _ hc _ _ hd =>
    rw [encodeChar_quadruple (hrange hfour) hb hc hd]
    rfl

theorem decodeFrom_encode (index : Nat) (cs : List Char) :
    decodeFrom index (encode cs) = .ok cs := by
  induction cs generalizing index with
  | nil => rw [encode_nil, decodeFrom]
  | cons c cs ih =>
    obtain ⟨lead, tail, hbytes, hscan⟩ := exists_scan c
    rw [encode_cons, hbytes, List.cons_append, decodeFrom, hscan]
    dsimp only
    rw [Nat.add_sub_cancel, List.drop_left, ih]
    rfl

theorem eq_encode_of_decodeFrom {index : Nat} {bytes : List UInt8} {cs : List Char}
    (h : decodeFrom index bytes = .ok cs) : bytes = encode cs := by
  fun_induction decodeFrom index bytes generalizing cs with
  | case1 =>
    cases h
    rfl
  | case2 index lead rest c w hscan ih =>
    cases htail : decodeFrom (index + w) (rest.drop (w - 1)) with
    | error e =>
      rw [htail] at h
      cases h
    | ok tail =>
      rw [htail] at h
      cases h
      rw [encode_cons, ← ih htail, encodeChar_of_scan hscan]
  | case3 => cases h
  | case4 => cases h

/-- **Strict reading accepts exactly what writing produces.** -/
theorem decode_eq_ok_iff {bytes : List UInt8} {cs : List Char} :
    decode bytes = .ok cs ↔ bytes = encode cs := by
  constructor
  · exact eq_encode_of_decodeFrom
  · rintro rfl
    exact decodeFrom_encode 0 cs

end Utf8
end Text
end ExchangeClient

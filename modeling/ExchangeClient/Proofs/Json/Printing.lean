import ExchangeClient.Json.Printer
import ExchangeClient.Proofs.Decimal.Written
import ExchangeClient.Proofs.Json.Standing

/-!
# Values read back

A value is written without space and read back as it is: its strings with every character,
whole numbers of sixty-four bits, and its members in their order, `writtenOfText_toText`.
Doubles are left out.  What is written of them are the shortest digits that identify them, and
that is a matter of rounding.

A number is the one thing that has no end of its own.  It ends where the text goes on with
something that cannot belong to it, `EndsNumber`; inside a value that is a comma or a bracket.
-/

namespace ExchangeClient
namespace Json

/-! ## Strings -/

theorem readString_letter {e ch : Char} (he : e ≠ 'u') (h : escaped? e = some ch) (rest : Input) :
    readString ('\\' :: e :: rest) = prepend ch (readString rest) := by
  rw [readString.eq_def]
  simp only [if_neg (show '\\' ≠ '"' by decide), if_neg he, h, if_true]

/-- A control character is read from its number. -/
theorem readString_control {c : Char} (h : c.toNat < 0x20) (rest : Input) :
    readString ('\\' :: 'u' :: '0' :: '0' :: Text.hexDigit (c.toNat / 16) ::
      Text.hexDigit (c.toNat % 16) :: rest) = prepend c (readString rest) := by
  have hfour : hexFour? '0' '0' (Text.hexDigit (c.toNat / 16)) (Text.hexDigit (c.toNat % 16)) =
      some c.toNat := by
    have hzero : Text.hexValue? '0' = some 0 := by decide
    have hvalue : 4096 * 0 + 256 * 0 + 16 * (c.toNat / 16) + c.toNat % 16 = c.toNat := by omega
    simp only [hexFour?, hzero, Text.hexValue?_hexDigit (show c.toNat / 16 < 16 by omega),
      Text.hexValue?_hexDigit (show c.toNat % 16 < 16 by omega), Option.bind_eq_bind,
      Option.bind_some, Option.pure_def, hvalue]
  have htrailing : isTrailing c.toNat = false := by
    simp only [isTrailing, Bool.and_eq_false_iff, decide_eq_false_iff_not]
    omega
  have hleading : isLeading c.toNat = false := by
    simp only [isLeading, Bool.and_eq_false_iff, decide_eq_false_iff_not]
    omega
  rw [readString, if_neg (by decide), if_pos rfl]
  simp only [hfour, htrailing, hleading, Char.ofNat_toNat]
  rfl

/-- **A character is read back** from how it stands in a string. -/
theorem readString_escape (c : Char) (rest : Input) :
    readString (escape c ++ rest) = prepend c (readString rest) := by
  unfold escape
  iterate 7
    split
    · next h =>
      subst h
      exact readString_letter (by decide) rfl rest
  split
  · next h => exact readString_control h rest
  · next hquote hbackslash _ _ _ _ _ hcontrol =>
    rw [List.singleton_append, readString.eq_def]
    simp only [if_neg hquote, if_neg hbackslash, if_neg hcontrol]

theorem readString_flatMap_escape (s : List Char) (rest : Input) :
    readString (s.flatMap escape ++ '"' :: rest) = .ok (s, rest) := by
  induction s with
  | nil => exact readString.eq_def ('"' :: rest)
  | cons c s ih =>
    rw [List.flatMap_cons, List.append_assoc, readString_escape, ih]
    rfl

/-! ## Whole numbers -/

/-- Whether no number goes on with the input. -/
def EndsNumber (rest : Input) : Prop :=
  ∀ c ∈ rest.head?, c.isDigit = false ∧ c ≠ '.' ∧ isExponentMark c = false

theorem endsNumber_nil : EndsNumber [] := nofun

theorem endsNumber_cons {c : Char} (h : c ∈ [',', ']', '}']) (rest : Input) :
    EndsNumber (c :: rest) := by
  simp only [List.mem_cons, List.not_mem_nil, or_false] at h
  rintro d ⟨⟩
  rcases h with rfl | rfl | rfl <;> decide

theorem isDigit_of_mem_toDigits {n : Nat} {c : Char} (h : c ∈ Nat.toDigits 10 n) :
    c.isDigit = true :=
  Nat.isDigit_of_mem_toDigits (by decide) (by decide) h

/-- Whether no run of digits goes on with the input. -/
def EndsDigits (rest : Input) : Prop :=
  ∀ c ∈ rest.head?, c.isDigit = false

theorem EndsNumber.endsDigits {rest : Input} (h : EndsNumber rest) : EndsDigits rest :=
  fun c hc => (h c hc).1

theorem takeWhile_isDigit {digits rest : List Char} (h : ∀ c ∈ digits, c.isDigit = true)
    (hrest : EndsDigits rest) : (digits ++ rest).takeWhile Char.isDigit = digits := by
  rw [List.takeWhile_append_of_pos h]
  cases rest with
  | nil => rw [List.takeWhile_nil, List.append_nil]
  | cons c rest =>
    rw [List.takeWhile_cons_of_neg (by simp [hrest c rfl]), List.append_nil]

theorem dropWhile_isDigit {digits rest : List Char} (h : ∀ c ∈ digits, c.isDigit = true)
    (hrest : EndsDigits rest) : (digits ++ rest).dropWhile Char.isDigit = rest := by
  rw [List.dropWhile_append_of_pos h]
  cases rest with
  | nil => rfl
  | cons c rest => exact List.dropWhile_cons_of_neg (by simp [hrest c rfl])

/-- Only zero starts with the digit zero. -/
theorem head?_toDigits_ne {n : Nat} (h : 0 < n) : (Nat.toDigits 10 n).head? ≠ some '0' := by
  induction n using Nat.strongRecOn with
  | ind n ih =>
    rw [Nat.toDigits_eq_if (by decide)]
    split
    · simpa using Nat.ne_of_gt h
    · have hhead := ih (n / 10) (by omega) (by omega)
      obtain ⟨c, cs, heq⟩ := List.exists_cons_of_ne_nil (@Nat.toDigits_ne_nil (n / 10) 10)
      rwa [heq] at hhead ⊢

theorem toDigits_ne_zero_cons (n : Nat) (c : Char) (cs : List Char) :
    Nat.toDigits 10 n ≠ '0' :: c :: cs := by
  intro h
  rcases Nat.eq_zero_or_pos n with rfl | hpos
  · rw [Nat.toDigits_zero] at h
    cases h
  · exact head?_toDigits_ne hpos (by rw [h]; rfl)

/-- Digits that spell no more than a significand holds are all gathered. -/
theorem gather_eq {digits : List Char} {significand : Nat}
    (h : Nat.ofDigitChars 10 digits significand ≤ significandMax) :
    gather significand digits = (Nat.ofDigitChars 10 digits significand, 0) := by
  induction digits generalizing significand with
  | nil => rfl
  | cons d ds ih =>
    have hnext : Nat.ofDigitChars 10 (d :: ds) significand =
        Nat.ofDigitChars 10 ds (significand * 10 + (d.toNat - 48)) := by
      rw [Nat.ofDigitChars_cons, Nat.mul_comm]
      rfl
    rw [hnext] at h ⊢
    rw [gather, if_pos (Nat.le_trans (Decimal.le_ofDigitChars ds _) h), ih h]

theorem readUnsigned_toDigits (negative : Bool) {n : Nat} (h : n ≤ significandMax) {rest : Input}
    (hrest : EndsNumber rest) :
    readUnsigned negative (Nat.toDigits 10 n ++ rest) = .ok (wholeNumber negative n, rest) := by
  have hdigits : ∀ c ∈ Nat.toDigits 10 n, c.isDigit = true := fun _ => isDigit_of_mem_toDigits
  have hgather : gather 0 (Nat.toDigits 10 n) = (n, 0) := by
    rw [gather_eq (by rwa [Nat.ofDigitChars_ten_toDigits]), Nat.ofDigitChars_ten_toDigits]
  have hfraction : readFraction negative n 0 rest = .ok (wholeNumber negative n, rest) := by
    rw [readFraction]
    · cases rest with
      | nil => rfl
      | cons c rest =>
        rw [List.head?_cons, Option.any_some, (hrest c rfl).2.2]
        rfl
    · rintro rest rfl
      exact (hrest '.' rfl).2.1 rfl
  rw [readUnsigned, takeWhile_isDigit hdigits hrest.endsDigits]
  split
  · next hnil => exact absurd hnil Nat.toDigits_ne_nil
  · next hzero => exact absurd hzero (toDigits_ne_zero_cons n _ _)
  · rw [hgather, dropWhile_isDigit hdigits hrest.endsDigits]
    exact hfraction

/-- The whole numbers that are read as such. -/
def IsWhole (n : Int) : Prop :=
  -0x8000000000000000 ≤ n ∧ n ≤ 0xFFFFFFFFFFFFFFFF

/-- **A whole number is read back.** -/
theorem readNumber_wholeChars {n : Int} (h : IsWhole n) {rest : Input} (hrest : EndsNumber rest) :
    readNumber (wholeChars n ++ rest) = .ok (.whole n, rest) := by
  rw [wholeChars]
  split
  · next hneg =>
    have hread : readNumber ('-' :: (Nat.toDigits 10 n.natAbs ++ rest)) =
        readUnsigned true (Nat.toDigits 10 n.natAbs ++ rest) := rfl
    have hmax : n.natAbs ≤ significandMax := by
      rw [significandMax]
      have := h.1
      omega
    have hwhole : wholeNumber true n.natAbs = .whole n := by
      have hbounds : 0 < n.natAbs ∧ n.natAbs ≤ 0x8000000000000000 := by
        have := h.1
        omega
      rw [wholeNumber, if_neg (by decide), if_pos hbounds]
      congr 1
      omega
    show readNumber ('-' :: (Nat.toDigits 10 n.natAbs ++ rest)) = _
    rw [hread, readUnsigned_toDigits true hmax hrest, hwhole]
  · next hpos =>
    have hmax : n.natAbs ≤ significandMax := by
      rw [significandMax]
      have := h.2
      omega
    have hwhole : wholeNumber false n.natAbs = .whole n := by
      rw [wholeNumber, if_pos (by decide)]
      congr 1
      omega
    rw [List.nil_append, readNumber, readUnsigned_toDigits false hmax hrest, hwhole]
    rintro tail heq
    have hsign : '-' ∈ Nat.toDigits 10 n.natAbs := by
      obtain ⟨c, cs, hcs⟩ := List.exists_cons_of_ne_nil (@Nat.toDigits_ne_nil n.natAbs 10)
      rw [hcs] at heq ⊢
      cases heq
      exact List.mem_cons_self
    exact absurd (isDigit_of_mem_toDigits hsign) (by decide)

/-! ## Items and members -/

theorem skipSpace_cons {c : Char} (h : isSpace c = false) (cs : Input) :
    skipSpace (c :: cs) = c :: cs :=
  List.dropWhile_cons_of_neg (by simp [h])

/-- What stands before the closing bracket ends a number. -/
theorem endsNumber_flatMap {α : Type} (f : α → List Char) (xs : List α) {c : Char}
    (hc : c ∈ [',', ']', '}']) (rest : Input) :
    EndsNumber (xs.flatMap (fun x => ',' :: f x) ++ c :: rest) := by
  cases xs with
  | nil => exact endsNumber_cons hc rest
  | cons x xs => exact endsNumber_cons (by decide) _

theorem length_le_flatMap {α : Type} (f : α → List Char) (xs : List α) :
    xs.length ≤ (xs.flatMap fun x => ',' :: f x).length := by
  induction xs with
  | nil => exact Nat.le_refl 0
  | cons x xs ih =>
    rw [List.flatMap_cons, List.length_append, List.length_cons, List.length_cons]
    omega

/-- A member as it is written. -/
def memberChars (m : String × Json) : List Char :=
  stringChars m.1.toList ++ ':' :: m.2.chars

theorem itemsChars_cons (x : Json) (xs : List Json) :
    itemsChars (x :: xs) = x.chars ++ xs.flatMap fun x => ',' :: x.chars := by
  induction xs generalizing x with
  | nil => rw [itemsChars, List.flatMap_nil, List.append_nil]
  | cons y ys ih =>
    rw [itemsChars, ih y, List.flatMap_cons, List.cons_append]
    exact List.cons_ne_nil y ys

theorem membersChars_cons (m : String × Json) (ms : List (String × Json)) :
    membersChars (m :: ms) = memberChars m ++ ms.flatMap fun m => ',' :: memberChars m := by
  induction ms generalizing m with
  | nil =>
    obtain ⟨k, v⟩ := m
    rw [membersChars, List.flatMap_nil, List.append_nil]
    rfl
  | cons n ns ih =>
    obtain ⟨k, v⟩ := m
    rw [membersChars, ih n, List.flatMap_cons, List.cons_append]
    · rfl
    · exact List.cons_ne_nil n ns

/-- Whether a reader reads a value back, whatever follows. -/
def ReadsBack (item : Reader Json) (j : Json) : Prop :=
  ∀ rest, EndsNumber rest → item (j.chars ++ rest) = .ok (j, rest)

/-- Whether a value starts with a character that neither space nor the end of a list does. -/
def StartsValue (j : Json) : Prop :=
  ∃ c cs, j.chars = c :: cs ∧ isSpace c = false ∧ c ≠ ']'

section

variable {item : Reader Json}

theorem readItems_behind {xs : List Json} (h : ∀ x ∈ xs, ReadsBack item x) {turns : Nat}
    (hturns : xs.length < turns) (rest : Input) :
    readItems item turns false (xs.flatMap (fun x => ',' :: x.chars) ++ ']' :: rest) =
      .ok (xs, rest) := by
  induction xs generalizing turns with
  | nil =>
    obtain ⟨turns, rfl⟩ := Nat.exists_eq_succ_of_ne_zero (Nat.ne_of_gt hturns)
    rfl
  | cons x xs ih =>
    obtain ⟨hx, hxs⟩ := List.forall_mem_cons.mp h
    obtain ⟨turns, rfl⟩ := Nat.exists_eq_succ_of_ne_zero (Nat.ne_zero_of_lt hturns)
    have hitem := hx _ (endsNumber_flatMap chars xs (by decide : ']' ∈ [',', ']', '}']) rest)
    have hitems := ih hxs (Nat.lt_of_succ_lt_succ hturns)
    rw [List.flatMap_cons, List.cons_append, List.cons_append, List.append_assoc]
    show readItem item (readItems item turns false) _ = _
    rw [readItem, bind_of_ok hitem]
    dsimp only
    rw [bind_of_ok hitems]
    rfl

/-- **The items of a list are read back** if each of them is. -/
theorem readList_itemsChars {xs : List Json} (h : ∀ x ∈ xs, ReadsBack item x)
    (hstart : ∀ x ∈ xs, StartsValue x) (rest : Input) :
    readList item (itemsChars xs ++ ']' :: rest) = .ok (xs, rest) := by
  cases xs with
  | nil => rfl
  | cons x xs =>
    obtain ⟨hx, hxs⟩ := List.forall_mem_cons.mp h
    obtain ⟨c, cs, hc, hspace, hend⟩ := hstart x List.mem_cons_self
    have hitem := hx _ (endsNumber_flatMap chars xs (by decide : ']' ∈ [',', ']', '}']) rest)
    rw [readList, itemsChars_cons, List.append_assoc]
    rw [hc, List.cons_append] at hitem ⊢
    have hturns : xs.length < (c :: (cs ++
        (xs.flatMap (fun x => ',' :: x.chars) ++ ']' :: rest))).length := by
      have := length_le_flatMap chars xs
      simp only [List.length_cons, List.length_append]
      omega
    rw [readItems, skipSpace_cons hspace]
    dsimp only
    rw [if_neg hend, if_pos rfl, readItem, bind_of_ok hitem]
    dsimp only
    rw [bind_of_ok (readItems_behind hxs hturns rest)]
    rfl

/-- A key and its value are read back, and so is what follows them. -/
theorem readMember_memberChars {m : String × Json} (h : ReadsBack item m.2)
    (members : List (String × Json) → Reader (List (String × Json)))
    (state : List (String × Json)) {rest : Input} (hrest : EndsNumber rest) :
    readMember (readInto appendMember item) members state
        (m.1.toList.flatMap escape ++ '"' :: ':' :: m.2.chars ++ rest) =
      members (state ++ [m]) rest := by
  rw [List.append_assoc, readMember, List.cons_append, List.cons_append,
    bind_of_ok (readString_flatMap_escape m.1.toList _)]
  dsimp only
  have hcolon : expectColon (':' :: (m.2.chars ++ rest)) = .ok (m.2.chars ++ rest) := rfl
  have hinto : readInto appendMember item m.1 state (':' :: (m.2.chars ++ rest)) =
      .ok (state ++ [m], rest) := by
    rw [readInto, bind_of_ok hcolon, bind_of_ok (h rest hrest)]
    rfl
  rw [String.ofList_toList, bind_of_ok hinto]

theorem memberChars_append (m : String × Json) (rest : Input) :
    memberChars m ++ rest =
      '"' :: (m.1.toList.flatMap escape ++ '"' :: ':' :: m.2.chars ++ rest) := by
  simp [memberChars, stringChars]

theorem readMembers_behind {ms : List (String × Json)} (h : ∀ m ∈ ms, ReadsBack item m.2)
    {turns : Nat} (hturns : ms.length < turns) (state : List (String × Json)) (rest : Input) :
    readMembers (readInto appendMember item) turns false state
        (ms.flatMap (fun m => ',' :: memberChars m) ++ '}' :: rest) =
      .ok (state ++ ms, rest) := by
  induction ms generalizing turns state with
  | nil =>
    obtain ⟨turns, rfl⟩ := Nat.exists_eq_succ_of_ne_zero (Nat.ne_of_gt hturns)
    rw [List.append_nil]
    rfl
  | cons m ms ih =>
    obtain ⟨hm, hms⟩ := List.forall_mem_cons.mp h
    obtain ⟨turns, rfl⟩ := Nat.exists_eq_succ_of_ne_zero (Nat.ne_zero_of_lt hturns)
    have hrest := endsNumber_flatMap memberChars ms (by decide : '}' ∈ [',', ']', '}']) rest
    rw [List.flatMap_cons, List.cons_append, List.cons_append, List.append_assoc,
      memberChars_append]
    show readMember _ (readMembers _ turns false) state _ = _
    rw [readMember_memberChars hm _ _ hrest, ih hms (Nat.lt_of_succ_lt_succ hturns),
      List.append_assoc]
    rfl

/-- **The members of an object are read back** if the value of each of them is. -/
theorem readObject_membersChars {ms : List (String × Json)} (h : ∀ m ∈ ms, ReadsBack item m.2)
    (rest : Input) :
    readObject (readInto appendMember item) [] (membersChars ms ++ '}' :: rest) =
      .ok (ms, rest) := by
  cases ms with
  | nil => rfl
  | cons m ms =>
    obtain ⟨hm, hms⟩ := List.forall_mem_cons.mp h
    have hrest := endsNumber_flatMap memberChars ms (by decide : '}' ∈ [',', ']', '}']) rest
    rw [readObject, membersChars_cons, List.append_assoc, memberChars_append]
    show readMember _ (readMembers _ _ false) [] _ = _
    rw [readMember_memberChars hm _ _ hrest, readMembers_behind hms ?_]
    · rfl
    · have := length_le_flatMap memberChars ms
      simp only [List.length_cons, List.length_append]
      omega

end

/-! ## Values -/

/-- Whether a value has no doubles and at most so many of its containers are open at once. -/
def FitsIn : Nat → Json → Prop
  | _, .null | _, .bool _ | _, .string _ => True
  | _, .number (.whole n) => IsWhole n
  | _, .number (.double _) => False
  | 0, .array _ | 0, .object _ => False
  | depth + 1, .array items => ∀ x ∈ items, FitsIn depth x
  | depth + 1, .object members => ∀ m ∈ members, FitsIn depth m.2

theorem exists_wholeChars_eq (n : Int) :
    ∃ c cs, wholeChars n = c :: cs ∧ (c = '-' || c.isDigit) = true := by
  rw [wholeChars]
  split
  · exact ⟨'-', _, rfl, rfl⟩
  · obtain ⟨c, cs, heq⟩ := List.exists_cons_of_ne_nil (@Nat.toDigits_ne_nil n.natAbs 10)
    refine ⟨c, cs, heq, ?_⟩
    rw [isDigit_of_mem_toDigits (heq ▸ List.mem_cons_self), Bool.or_true]

theorem isSpace_of_startsNumber {c : Char} (hc : (c = '-' || c.isDigit) = true) :
    isSpace c = false := by
  simp [isSpace, ne_of_startsNumber hc ' ' rfl, ne_of_startsNumber hc '\n' rfl,
    ne_of_startsNumber hc '\t' rfl, ne_of_startsNumber hc '\r' rfl]

theorem startsValue_of_fitsIn {depth : Nat} {j : Json} (h : FitsIn depth j) : StartsValue j := by
  rcases j with _ | (_ | _) | (n | x) | s | items | members
  · exact ⟨'n', _, rfl, rfl, by decide⟩
  · exact ⟨'f', _, rfl, rfl, by decide⟩
  · exact ⟨'t', _, rfl, rfl, by decide⟩
  · obtain ⟨c, cs, heq, hc⟩ := exists_wholeChars_eq n
    exact ⟨c, cs, heq, isSpace_of_startsNumber hc, ne_of_startsNumber hc ']' rfl⟩
  · rw [FitsIn] at h
    exact h.elim
  · exact ⟨'"', _, rfl, rfl, by decide⟩
  · exact ⟨'[', _, rfl, rfl, by decide⟩
  · exact ⟨'\x7b', _, rfl, rfl, by decide⟩

section

variable {nested : Option (Reader Json)} {rest : Input}

theorem readWith_number {n : Int} (h : IsWhole n) (hrest : EndsNumber rest) :
    readWith appendMember nested (chars (.number (.whole n)) ++ rest) =
      .ok (.number (.whole n), rest) := by
  have hnumber := readNumber_wholeChars h hrest
  have hchars : chars (.number (.whole n)) = wholeChars n := rfl
  obtain ⟨c, cs, heq, hc⟩ := exists_wholeChars_eq n
  rw [hchars]
  rw [heq, List.cons_append] at hnumber ⊢
  rw [readWith, skipSpace_cons (isSpace_of_startsNumber hc)]
  dsimp only
  rw [if_neg (ne_of_startsNumber hc 'n' rfl), if_neg (ne_of_startsNumber hc 't' rfl),
    if_neg (ne_of_startsNumber hc 'f' rfl), if_neg (ne_of_startsNumber hc '"' rfl), if_pos hc,
    hnumber]
  rfl

theorem readWith_string (s : String) :
    readWith appendMember nested (chars (.string s) ++ rest) = .ok (.string s, rest) := by
  have hstring := readString_flatMap_escape s.toList rest
  have hread : readWith appendMember nested ('"' :: (s.toList.flatMap escape ++ '"' :: rest)) =
      (readString (s.toList.flatMap escape ++ '"' :: rest)).map
        fun p => (.string (String.ofList p.1), p.2) := rfl
  have hchars : chars (.string s) ++ rest = '"' :: (s.toList.flatMap escape ++ '"' :: rest) := by
    simp [chars, stringChars]
  rw [hchars, hread, hstring]
  show Except.ok (Json.string (String.ofList s.toList), rest) = _
  rw [String.ofList_toList]

theorem readWith_array {item : Reader Json} {xs : List Json}
    (h : ∀ x ∈ xs, ReadsBack item x ∧ StartsValue x) :
    readWith appendMember (some item) (chars (.array xs) ++ rest) = .ok (.array xs, rest) := by
  have hlist := readList_itemsChars (fun x hx => (h x hx).1) (fun x hx => (h x hx).2) rest
  have hread : readWith appendMember (some item) ('[' :: (itemsChars xs ++ ']' :: rest)) =
      (readList item (itemsChars xs ++ ']' :: rest)).map fun p => (.array p.1, p.2) := rfl
  have hchars : chars (.array xs) ++ rest = '[' :: (itemsChars xs ++ ']' :: rest) := by
    simp [chars]
  rw [hchars, hread, hlist]
  rfl

theorem readWith_object {item : Reader Json} {ms : List (String × Json)}
    (h : ∀ m ∈ ms, ReadsBack item m.2) :
    readWith appendMember (some item) (chars (.object ms) ++ rest) = .ok (.object ms, rest) := by
  have hobject := readObject_membersChars h rest
  have hread : readWith appendMember (some item) ('\x7b' :: (membersChars ms ++ '}' :: rest)) =
      (readObject (readInto appendMember item) [] (membersChars ms ++ '}' :: rest)).map
        fun p => (.object p.1, p.2) := rfl
  have hchars : chars (.object ms) ++ rest = '\x7b' :: (membersChars ms ++ '}' :: rest) := by
    simp [chars]
  rw [hchars, hread, hobject]
  rfl

end

theorem readWritten_eq (depth : Nat) :
    readWritten depth = readWith appendMember (nestedReader depth) := by
  cases depth <;> rfl

/-- **A value is read back**, its members in their order. -/
theorem readsBack_of_fitsIn {depth : Nat} {j : Json} (h : FitsIn depth j) :
    ReadsBack (readWritten depth) j := by
  intro rest hrest
  rw [readWritten_eq]
  rcases j with _ | (_ | _) | (n | x) | s | items | members
  · rfl
  · rfl
  · rfl
  · rw [FitsIn] at h
    exact readWith_number h hrest
  · rw [FitsIn] at h
    exact h.elim
  · exact readWith_string s
  · cases depth with
    | zero => exact h.elim
    | succ depth =>
      exact readWith_array fun x hx =>
        ⟨readsBack_of_fitsIn (h x hx), startsValue_of_fitsIn (h x hx)⟩
  · cases depth with
    | zero => exact h.elim
    | succ depth => exact readWith_object fun m hm => readsBack_of_fitsIn (h m hm)
termination_by depth

/-- **The text of a value writes that value.** -/
theorem writtenOfText_toText {j : Json} (h : FitsIn maxDepth j) :
    writtenOfText j.toText = .ok j := by
  have hread := readsBack_of_fitsIn h [] endsNumber_nil
  rw [List.append_nil] at hread
  rw [writtenOfText, toText, String.toList_ofList, finish, bind_of_ok hread]
  rfl

theorem ofText_toText {j : Json} (h : FitsIn maxDepth j) : ofText j.toText = .ok j.sorted := by
  rw [ofText_eq_map_sorted, writtenOfText_toText h]
  rfl

end Json
end ExchangeClient

import ExchangeClient.Proofs.Text.Utf8
import ExchangeClient.Url.Form

/-!
# A query is read back as its pairs

A query is made of names and values, and joined by signs that may occur in names and values
themselves.  It can be taken apart again because in writing each text loses every such sign: what
is left are letters, digits and the `textSigns` (`isTextChar_of_mem_encodeText`).  And each text can
be read back because writing is undone character by character: a plus sign that was a space comes
back as a space, and one that was a plus sign was escaped (`percentDecode_encodeText`).  So a query
is read back as the pairs that it was made of, whatever they are (`decode_encode`).
-/

namespace ExchangeClient

namespace Text

/-- Hexadecimal digits are letters or digits. -/
theorem isAlphanum_hexDigitUpper {n : Nat} (h : n < 16) : (hexDigitUpper n).isAlphanum = true := by
  have hall : ∀ m : Fin 16, (hexDigitUpper m.val).isAlphanum = true := by decide
  exact hall ⟨n, h⟩

/-- An escaped byte is a percent sign and letters or digits. -/
theorem of_mem_percentByte {b : UInt8} {c : Char} (h : c ∈ percentByte b) :
    c.isAlphanum = true ∨ c = '%' := by
  have hlt : b.toNat < 256 := b.toNat_lt
  simp only [percentByte, List.mem_cons, List.not_mem_nil, or_false] at h
  rcases h with rfl | rfl | rfl
  · exact .inr rfl
  · exact .inl (isAlphanum_hexDigitUpper (by omega))
  · exact .inl (isAlphanum_hexDigitUpper (by omega))

/-- A character that begins no escape stands for its bytes. -/
theorem percentDecode_cons {c : Char} (h : c ≠ '%') (cs : List Char) :
    percentDecode (c :: cs) = String.utf8EncodeChar c ++ percentDecode cs := by
  rw [percentDecode.eq_def]
  split
  · next heq => exact absurd (List.cons.inj heq).1 h
  · next heq =>
    obtain ⟨rfl, rfl⟩ := List.cons.inj heq
    rfl
  · next heq => cases heq

end Text

namespace Form

/-! ## The characters of a text -/

/-- The signs that a name or a value is written with. -/
def textSigns : List Char := ['%', '*', '+', '-', '.', '_']

/-- A character that a name or a value may be written with. -/
def isTextChar (c : Char) : Bool := c.isAlphanum || textSigns.contains c

theorem isTextChar_of_isAlphanum {c : Char} (h : c.isAlphanum = true) : isTextChar c = true := by
  rw [isTextChar, h, Bool.true_or]

theorem isTextChar_of_mem_encodeChar {c d : Char} (h : d ∈ encodeChar c) :
    isTextChar d = true := by
  unfold encodeChar at h
  split at h
  · rename_i hplain
    obtain rfl : d = c := by simpa using h
    simp only [isPlain, Bool.or_eq_true, beq_iff_eq] at hplain
    rcases hplain with (((hplain | rfl) | rfl) | rfl) | rfl
    · exact isTextChar_of_isAlphanum hplain
    all_goals rfl
  · split at h
    · obtain rfl : d = '+' := by simpa using h
      rfl
    · obtain ⟨b, -, hd⟩ := List.mem_flatMap.mp h
      rcases Text.of_mem_percentByte hd with hd | rfl
      · exact isTextChar_of_isAlphanum hd
      · rfl

theorem isTextChar_of_mem_encodeText {cs : List Char} {d : Char} (h : d ∈ encodeText cs) :
    isTextChar d = true := by
  obtain ⟨c, -, hd⟩ := List.mem_flatMap.mp h
  exact isTextChar_of_mem_encodeChar hd

/-- The signs that join names and values occur in none. -/
theorem notMem_encodeText (cs : List Char) : '&' ∉ encodeText cs ∧ '=' ∉ encodeText cs := by
  constructor
  · intro h
    exact absurd (isTextChar_of_mem_encodeText h) (by decide)
  · intro h
    exact absurd (isTextChar_of_mem_encodeText h) (by decide)

/-! ## One text -/

/-- Plus signs back to spaces. -/
def spaced (cs : List Char) : List Char := cs.map fun c => if c = '+' then ' ' else c

theorem spaced_append (cs ds : List Char) : spaced (cs ++ ds) = spaced cs ++ spaced ds :=
  List.map_append

theorem spaced_of_notMem {cs : List Char} (h : '+' ∉ cs) : spaced cs = cs := by
  refine (List.map_congr_left fun c hc => ?_).trans (List.map_id cs)
  exact if_neg (ne_of_mem_of_not_mem hc h)

/-- A plus sign in a query was a space: one in a text is escaped. -/
theorem notMem_percentChar (c : Char) : '+' ∉ Text.percentChar c := by
  intro h
  obtain ⟨b, -, hb⟩ := List.mem_flatMap.mp h
  exact absurd (Text.of_mem_percentByte hb) (by decide)

theorem ne_of_isPlain {c : Char} (h : isPlain c = true) : c ≠ '+' ∧ c ≠ '%' := by
  constructor
  · rintro rfl
    exact absurd h (by decide)
  · rintro rfl
    exact absurd h (by decide)

/-- A character that was written is read as its bytes, whatever follows. -/
theorem percentDecode_encodeChar (c : Char) (rest : List Char) :
    Text.percentDecode (spaced (encodeChar c) ++ rest) =
      String.utf8EncodeChar c ++ Text.percentDecode rest := by
  unfold encodeChar
  split
  · rename_i hplain
    obtain ⟨hplus, hpercent⟩ := ne_of_isPlain hplain
    rw [spaced_of_notMem (by simpa using hplus.symm), List.singleton_append,
      Text.percentDecode_cons hpercent]
  · split
    · rename_i hspace
      rw [hspace]
      exact Text.percentDecode_cons (by decide) rest
    · rw [spaced_of_notMem (notMem_percentChar c), Text.percentChar, Text.percentDecode_flatMap]

/-- A text that was written is read as its bytes. -/
theorem percentDecode_encodeText (cs : List Char) :
    Text.percentDecode (spaced (encodeText cs)) = Text.Utf8.encode cs := by
  induction cs with
  | nil => rfl
  | cons c cs ih =>
    rw [encodeText, List.flatMap_cons, spaced_append, percentDecode_encodeChar]
    exact congrArg (String.utf8EncodeChar c ++ ·) ih

theorem decodeText_encodeText (s : String) : decodeText (encodeText s.toList) = s := by
  have hbytes := percentDecode_encodeText s.toList
  unfold spaced at hbytes
  rw [decodeText, hbytes, Text.Utf8.decodeLossy_encode, String.ofList_toList]

/-! ## Pairs -/

/-- A pair is read back: it is cut where its name ends. -/
theorem cut_encodePair (pair : String × String) :
    Text.cut '=' (encodePair pair) =
      (encodeText pair.1.toList, some (encodeText pair.2.toList)) :=
  Text.cut_append (notMem_encodeText pair.1.toList).2 _

theorem notMem_encodePair (pair : String × String) : '&' ∉ encodePair pair := by
  simp [encodePair, notMem_encodeText]

/-- The pieces of a query are its pairs. -/
theorem pieces_encode {pairs : List (String × String)} (h : pairs ≠ []) :
    Text.pieces '&' (encode pairs) = pairs.map encodePair := by
  fun_induction encode pairs with
  | case1 => exact absurd rfl h
  | case2 pair => exact Text.pieces_of_notMem (notMem_encodePair pair)
  | case3 pair pairs hne ih =>
    rw [Text.pieces_append (notMem_encodePair pair), ih (by simpa using hne), List.map_cons]

/-- **A query is read back as its pairs**, whatever their names and values are. -/
theorem decode_encode (pairs : List (String × String)) : decode (encode pairs) = pairs := by
  by_cases hpairs : pairs = []
  · subst hpairs
    rfl
  have hfilter : (pairs.map encodePair).filter (fun piece => !piece.isEmpty) =
      pairs.map encodePair := by
    refine List.filter_eq_self.mpr fun piece hpiece => ?_
    obtain ⟨pair, -, rfl⟩ := List.mem_map.mp hpiece
    simp [encodePair]
  rw [decode, pieces_encode hpairs, hfilter, List.map_map]
  refine (List.map_congr_left fun pair _ => ?_).trans (List.map_id pairs)
  simp only [Function.comp_apply, cut_encodePair, Option.getD_some, decodeText_encodeText, id_eq]

example : encode [("a b", "c&=+%円"), ("d", "")] = "a+b=c%26%3D%2B%25%E5%86%86&d=".toList := by
  decide +kernel

end Form
end ExchangeClient

import ExchangeClient.Url.Read
import Mathlib.Data.List.TakeDrop
import Mathlib.Data.List.TakeWhile

/-!
# Joining plain paths

A segment is *plain* when it is made of letters and digits.  Nothing in it is escaped and
it is neither a dot nor the letter of a drive, so a path of plain segments is joined to a
URL as it stands (`path_text_of_join`): the joined URL has that path, behind the letter of a
drive if the URL of a file has one, and no query.
-/

namespace ExchangeClient
namespace Url

variable {kind : SchemeClass} {segment : List Char} {pieces : List (List Char)} {c : Char}

/-- Letters and digits, at least one. -/
structure IsPlain (segment : List Char) : Prop where
  ne_nil : segment ≠ []
  isAlphanum : ∀ c ∈ segment, c.isAlphanum = true

instance (segment : List Char) : Decidable (IsPlain segment) :=
  decidable_of_iff (segment ≠ [] ∧ segment.all Char.isAlphanum = true)
    ⟨fun h => ⟨h.1, List.all_eq_true.mp h.2⟩,
      fun h => ⟨h.ne_nil, List.all_eq_true.mpr h.isAlphanum⟩⟩

/-! ## What plain segments do not contain -/

/-- The signs that end a segment, stand for nothing or mark a drive. -/
def signs : List Char := ['/', '\\', '\t', '\n', '\r', ':', '|']

theorem toNat_lt_of_isAlphanum (h : c.isAlphanum = true) : c.toNat < 128 := by
  have hranges : (decide ('A'.val ≤ c.val ∧ c.val ≤ 'Z'.val)
      || decide ('a'.val ≤ c.val) && decide (c.val ≤ 'z'.val)
      || decide ('0'.val ≤ c.val) && decide (c.val ≤ '9'.val)) = true := h
  simp only [Bool.or_eq_true, Bool.and_eq_true, decide_eq_true_eq,
    UInt32.le_iff_toNat_le] at hranges
  have hc : c.toNat = c.val.toNat := rfl
  have hZ : 'Z'.val.toNat = 90 := rfl
  have hz : 'z'.val.toNat = 122 := rfl
  have h9 : '9'.val.toNat = 57 := rfl
  omega

/-- What holds of the letters and digits among the first 128 characters holds of all. -/
theorem of_isAlphanum {P : Char → Prop}
    (hall : ∀ n < 128, (Char.ofNat n).isAlphanum = true → P (Char.ofNat n))
    (h : c.isAlphanum = true) : P c := by
  have hn := hall c.toNat (toNat_lt_of_isAlphanum h)
  rw [Char.ofNat_toNat] at hn
  exact hn h

/-- A letter or a digit is none of the signs, no part of a dot and not escaped. -/
theorem not_sign_of_isAlphanum (h : c.isAlphanum = true) :
    c ∉ signs ∧ c.toLower ≠ '.' ∧ c.toLower ≠ '%' ∧ escapedInPath c = false :=
  of_isAlphanum (P := fun c => c ∉ signs ∧ c.toLower ≠ '.' ∧ c.toLower ≠ '%'
    ∧ escapedInPath c = false) (by decide +kernel) h

theorem isSlash_of_isAlphanum (h : c.isAlphanum = true) : isSlash kind c = false := by
  obtain ⟨hsign, -⟩ := not_sign_of_isAlphanum h
  simp only [signs, List.mem_cons, not_or] at hsign
  simp [isSlash, hsign]

theorem isBreak_of_isAlphanum (h : c.isAlphanum = true) : isBreak c = false := by
  obtain ⟨hsign, -⟩ := not_sign_of_isAlphanum h
  simp only [signs, List.mem_cons, not_or] at hsign
  simp [isBreak, hsign]

theorem no_tail_of_isAlphanum (h : c.isAlphanum = true) : c ≠ '?' ∧ c ≠ '#' := by
  obtain ⟨-, -, -, hescaped⟩ := not_sign_of_isAlphanum h
  simp only [escapedInPath, Bool.or_eq_false_iff, beq_eq_false_iff_ne] at hescaped
  obtain ⟨⟨⟨⟨-, hhash⟩, hquestion⟩, -⟩, -⟩ := hescaped
  exact ⟨hquestion, hhash⟩

namespace IsPlain

/-- A plain segment is not one of the ways to write dots: each of them has a dot or a
percent sign in front. -/
theorem not_dots (h : IsPlain segment) : isDot segment = false ∧ isDoubleDot segment = false := by
  obtain ⟨hne, hall⟩ := h
  cases segment with
  | nil => exact absurd rfl hne
  | cons c rest =>
    obtain ⟨-, hdot, hpercent, -⟩ := not_sign_of_isAlphanum (hall c List.mem_cons_self)
    have hnone (ts : List String)
        (hts : ∀ t ∈ ts, t.toList.head? = some '.' ∨ t.toList.head? = some '%') :
        ts.contains (String.ofList ((c :: rest).map Char.toLower)) = false := by
      rw [List.contains_eq_mem, decide_eq_false_iff_not]
      intro hmem
      rcases hts _ hmem with hhead | hhead
      · exact hdot (by simpa using hhead)
      · exact hpercent (by simpa using hhead)
    exact ⟨hnone _ (by decide), hnone _ (by decide)⟩

theorem not_isDrive (h : IsPlain segment) : isDrive segment = false := by
  match segment, h.isAlphanum with
  | [], _ => rfl
  | [_], _ => rfl
  | [a, b], hall =>
    obtain ⟨hsign, -⟩ := not_sign_of_isAlphanum (hall b (by simp))
    simp only [signs, List.mem_cons, not_or] at hsign
    simp [isDrive, hsign]
  | _ :: _ :: _ :: _, _ => rfl

theorem percentEncode_eq (h : IsPlain segment) :
    Text.percentEncode escapedInPath segment = segment := by
  have hstays : ∀ c ∈ segment, (if escapedInPath c then Text.percentChar c else [c]) = [c] := by
    intro c hc
    simp [(not_sign_of_isAlphanum (h.isAlphanum c hc)).2.2.2]
  rw [Text.percentEncode, List.flatMap_def, List.map_congr_left hstays, ← List.flatMap_def,
    List.flatMap_singleton']

theorem unbroken_eq (h : IsPlain segment) : unbroken segment = [segment] := by
  have hstays : ∀ c ∈ segment, (if isBreak c then '\n' else c) = c := by
    intro c hc
    simp [isBreak_of_isAlphanum (h.isAlphanum c hc)]
  have hnone : '\n' ∉ segment := fun hc => by
    simpa [isBreak] using isBreak_of_isAlphanum (h.isAlphanum _ hc)
  rw [unbroken, List.map_congr_left hstays, List.map_id', Text.pieces_of_notMem hnone]
  simp [h.ne_nil]

end IsPlain

/-! ## Cutting a path -/

theorem splitPath_segment (hall : ∀ c ∈ segment, isSlash kind c = false) :
    splitPath kind segment = [segment] := by
  induction segment with
  | nil => rfl
  | cons c segment ih =>
    obtain ⟨hc, hsegment⟩ := List.forall_mem_cons.mp hall
    simp [splitPath, hc, ih hsegment]

theorem splitPath_segment_append (hall : ∀ c ∈ segment, isSlash kind c = false) (cs : List Char) :
    splitPath kind (segment ++ '/' :: cs) = segment :: splitPath kind cs := by
  induction segment with
  | nil => simp [splitPath, isSlash]
  | cons c segment ih =>
    obtain ⟨hc, hsegment⟩ := List.forall_mem_cons.mp hall
    simp [splitPath, hc, ih hsegment]

/-- Segments without slashes are the pieces of the path that they make. -/
theorem splitPath_joinPieces (hne : pieces ≠ [])
    (hall : ∀ piece ∈ pieces, ∀ c ∈ piece, isSlash kind c = false) :
    splitPath kind (Text.joinPieces '/' pieces) = pieces := by
  induction pieces with
  | nil => exact absurd rfl hne
  | cons piece others ih =>
    obtain ⟨hpiece, hothers⟩ := List.forall_mem_cons.mp hall
    cases others with
    | nil => exact splitPath_segment hpiece
    | cons next rest =>
      rw [Text.joinPieces, splitPath_segment_append hpiece, ih (List.cons_ne_nil _ _) hothers]
      simp

/-! ## Reading a plain path -/

variable {path : ReadPath}

/-- Behind a slash no drive stands at the end. -/
theorem not_isWrittenDrive_tail {text : List Char} (h : text.getLast? = some '/') :
    isWrittenDrive text.tail = false := by
  match text, h with
  | [_], _ => rfl
  | [_, _], _ => rfl
  | [_, _, b], h =>
    have hb : b = '/' := by simpa using h
    simp [isWrittenDrive, hb]
  | _ :: _ :: _ :: _ :: _, _ => rfl

/-- A plain piece is added as it stands. -/
theorem ReadPath.add_of_isPlain (hpath : path.text.getLast? = some '/')
    (hpiece : IsPlain segment) (isLast : Bool) :
    path.add kind segment isLast =
      { path with text := path.text ++ segment ++ if isLast then [] else ['/'] } := by
  obtain ⟨hdot, hdouble⟩ := hpiece.not_dots
  have hpart : addPart kind (path.text, path.text.length) segment =
      (path.text ++ segment, path.text.length) := by
    simp [addPart, not_isWrittenDrive_tail hpath, hpiece.percentEncode_eq]
  simp only [ReadPath.add, hpiece.unbroken_eq, List.foldl_cons, List.foldl_nil, hpart,
    List.take_left, List.drop_left, hdot, hdouble, Bool.false_eq_true, if_false]
  split
  · rw [hpiece.not_isDrive, Bool.and_false, if_neg Bool.false_ne_true]
  · rfl

theorem ReadPath.addAll_of_isPlain (hpath : path.text.getLast? = some '/')
    (hpieces : ∀ piece ∈ pieces, IsPlain piece) :
    path.addAll kind pieces = { path with text := path.text ++ Text.joinPieces '/' pieces } := by
  induction pieces generalizing path with
  | nil => simp [addAll, Text.joinPieces]
  | cons piece others ih =>
    obtain ⟨hpiece, hothers⟩ := List.forall_mem_cons.mp hpieces
    rw [addAll, add_of_isPlain hpath hpiece]
    cases others with
    | nil => simp [addAll, Text.joinPieces]
    | cons next rest =>
      rw [ih (by simp) hothers]
      simp [Text.joinPieces]

/-- The letter of a drive in front of a path is added as it stands. -/
theorem ReadPath.text_add_drive (h : c.isAlpha = true) :
    ((ReadPath.mk ['/'] true).add .file [c, ':'] false).text = ['/', c, ':', '/'] :=
  of_isAlphanum (P := fun c => c.isAlpha = true →
      ((ReadPath.mk ['/'] true).add .file [c, ':'] false).text = ['/', c, ':', '/'])
    (by decide +kernel) (by simp [Char.isAlphanum, h]) h

/-- What a URL keeps of its path is nothing, or the letter of a drive. -/
theorem driveOf_cases (base : Url) :
    base.driveOf = [] ∨
      ∃ c, c.isAlpha = true ∧ SchemeClass.ofScheme base.scheme = .file ∧
        base.driveOf = ['/', c, ':'] := by
  unfold driveOf
  split
  · rename_i segment rest hkind hpath
    split
    · rename_i hdrive
      match segment, hdrive with
      | [c, d], hdrive =>
        obtain ⟨hc, hd⟩ : c.isAlpha = true ∧ d = ':' := by simpa [isWrittenDrive] using hdrive
        exact .inr ⟨c, hc, hkind, by rw [hd]⟩
    · exact .inl rfl
  · exact .inl rfl

theorem joinPieces_eq_cons (hne : pieces ≠ []) (hpieces : ∀ piece ∈ pieces, IsPlain piece) :
    ∃ c rest, Text.joinPieces '/' pieces = c :: rest ∧ c.isAlphanum = true := by
  match pieces, hne with
  | [] :: _, _ => exact absurd rfl (hpieces [] (by simp)).ne_nil
  | [c :: rest], _ => exact ⟨c, rest, rfl, (hpieces (c :: rest) (by simp)).isAlphanum c (by simp)⟩
  | (c :: rest) :: next :: others, _ =>
    exact ⟨c, _, rfl, (hpieces (c :: rest) (by simp)).isAlphanum c (by simp)⟩

theorem splitPath_of_isPlain (hne : pieces ≠ []) (hpieces : ∀ piece ∈ pieces, IsPlain piece) :
    splitPath kind (Text.joinPieces '/' pieces) = pieces :=
  splitPath_joinPieces hne fun piece hpiece c hc =>
    isSlash_of_isAlphanum ((hpieces piece hpiece).isAlphanum c hc)

/-- A plain path is read as it stands. -/
theorem text_readPath_of_isPlain (hne : pieces ≠ [])
    (hpieces : ∀ piece ∈ pieces, IsPlain piece) :
    (readPath kind ['/'] true (Text.joinPieces '/' pieces)).text =
      '/' :: Text.joinPieces '/' pieces := by
  obtain ⟨c, rest, hfirst, hc⟩ := joinPieces_eq_cons hne hpieces
  have hsign : c ≠ '/' := fun h => (not_sign_of_isAlphanum hc).1 (by simp [h, signs])
  rw [readPath, splitPath_of_isPlain hne hpieces, ReadPath.addAll_of_isPlain rfl hpieces]
  split
  · simp [hfirst, hsign]
  · rfl

/-- A plain path behind the letter of a drive is read as it stands. -/
theorem text_readPath_drive (h : c.isAlpha = true) (hne : pieces ≠ [])
    (hpieces : ∀ piece ∈ pieces, IsPlain piece) :
    (readPath .file ['/'] true (c :: ':' :: '/' :: Text.joinPieces '/' pieces)).text =
      '/' :: c :: ':' :: '/' :: Text.joinPieces '/' pieces := by
  have hplain : c.isAlphanum = true := by simp [Char.isAlphanum, h]
  have hsign : c ≠ '/' := fun h => (not_sign_of_isAlphanum hplain).1 (by simp [h, signs])
  have hslash : ∀ d ∈ [c, ':'], isSlash .file d = false := by
    intro d hd
    simp only [List.mem_cons, List.not_mem_nil, or_false] at hd
    rcases hd with rfl | rfl
    · exact isSlash_of_isAlphanum hplain
    · rfl
  have hsplit := splitPath_segment_append hslash (Text.joinPieces '/' pieces)
  rw [splitPath_of_isPlain hne hpieces, List.cons_append, List.cons_append, List.nil_append]
    at hsplit
  have hdrive := ReadPath.text_add_drive h
  rw [readPath, hsplit, ReadPath.addAll, List.isEmpty_eq_false_iff.mpr hne,
    ReadPath.addAll_of_isPlain (by rw [hdrive]; rfl) hpieces, hdrive]
  simp [hsign]

/-! ## Joining a plain path -/

/-- A URL whose path starts with a slash has this path, if it has neither a query nor a
fragment and is read as it stands. -/
theorem withPath_of_text {scheme : List Char} {authority : Option Authority} {cs : List Char}
    (hcs : ∀ c ∈ cs, c ≠ '?' ∧ c ≠ '#') (h : (readPath kind ['/'] true cs).text = '/' :: cs) :
    (withPath scheme kind authority ('/' :: cs)).path.text = '/' :: cs
      ∧ (withPath scheme kind authority ('/' :: cs)).query = none
      ∧ (withPath scheme kind authority ('/' :: cs)).fragment = none := by
  have htail : beforeTail ('/' :: cs) = ('/' :: cs, []) := by
    have hstays : ∀ c ∈ '/' :: cs, (c != '?' && c != '#') = true := by simpa using hcs
    rw [beforeTail, List.span_eq_takeWhile_dropWhile, List.takeWhile_eq_self_iff.mpr hstays,
      List.dropWhile_eq_nil_iff.mpr hstays]
  have hstart : pathStart kind ('/' :: cs) = (['/'], cs) := by simp [pathStart, isSlash]
  simp only [withPath, htail, hstart]
  simp [readTail, h, segmentsOf, UrlPath.text, Text.flatMap_pieces]

/-- **A plain path is joined as it stands.** -/
theorem path_text_of_join {base url : Url} (hne : pieces ≠ [])
    (hpieces : ∀ piece ∈ pieces, IsPlain piece)
    (h : base.join ('/' :: Text.joinPieces '/' pieces) = .ok url) :
    url.path.text = base.driveOf ++ '/' :: Text.joinPieces '/' pieces
      ∧ url.query = none ∧ url.fragment = none := by
  have hstays : ∀ c ∈ Text.joinPieces '/' pieces, c ≠ '?' ∧ c ≠ '#' := by
    intro c hc
    rcases Text.mem_of_mem_joinPieces hc with rfl | ⟨piece, hpiece, hc⟩
    · decide
    · exact no_tail_of_isAlphanum ((hpieces piece hpiece).isAlphanum c hc)
  unfold join at h
  split at h
  · cases h
  · obtain rfl := Except.ok.inj h
    rcases driveOf_cases base with hdrive | ⟨c, hc, hkind, hdrive⟩
    · simp only [hdrive, List.nil_append]
      exact withPath_of_text hstays (text_readPath_of_isPlain hne hpieces)
    · simp only [hdrive, hkind, List.cons_append, List.nil_append]
      have hc' := no_tail_of_isAlphanum (by simp [Char.isAlphanum, hc] : c.isAlphanum = true)
      exact withPath_of_text (by simpa [hc'] using hstays) (text_readPath_drive hc hne hpieces)

end Url
end ExchangeClient

/-!
# Cutting texts

`pieces` cuts a text at every separator and `cut` at the first one only.  Joining
the pieces of a text with the separator gives the text back.
-/

namespace ExchangeClient
namespace Text

/-- The pieces of a text between separators: one more than there are separators. -/
def pieces (sep : Char) : List Char → List (List Char)
  | [] => [[]]
  | c :: rest =>
    if c = sep then [] :: pieces sep rest
    else
      match pieces sep rest with
      | [] => [[c]]
      | piece :: others => (c :: piece) :: others

/-- The text before the first separator, and the text behind it if there is one. -/
def cut (sep : Char) : List Char → List Char × Option (List Char)
  | [] => ([], none)
  | c :: rest =>
    if c = sep then ([], some rest)
    else
      let (before, behind) := cut sep rest
      (c :: before, behind)

/-- Pieces with the separator between them. -/
def joinPieces (sep : Char) : List (List Char) → List Char
  | [] => []
  | [piece] => piece
  | piece :: others => piece ++ sep :: joinPieces sep others

theorem pieces_ne_nil (sep : Char) (cs : List Char) : pieces sep cs ≠ [] := by
  cases cs with
  | nil => simp [pieces]
  | cons c rest =>
    unfold pieces
    split
    · simp
    · split <;> simp

/-- The pieces of a text joined are the text. -/
@[simp] theorem joinPieces_pieces (sep : Char) (cs : List Char) :
    joinPieces sep (pieces sep cs) = cs := by
  induction cs with
  | nil => rfl
  | cons c rest ih =>
    unfold pieces
    split
    · rename_i h
      cases hp : pieces sep rest with
      | nil => exact absurd hp (pieces_ne_nil sep rest)
      | cons piece others => rw [hp] at ih; simp [joinPieces, ih, h]
    · cases hp : pieces sep rest with
      | nil => exact absurd hp (pieces_ne_nil sep rest)
      | cons piece others =>
        rw [hp] at ih
        cases others with
        | nil => simpa [joinPieces] using ih
        | cons p ps => simpa [joinPieces] using ih

theorem mem_of_mem_joinPieces {sep c : Char} {pieces : List (List Char)}
    (h : c ∈ joinPieces sep pieces) : c = sep ∨ ∃ piece ∈ pieces, c ∈ piece := by
  induction pieces with
  | nil => simp [joinPieces] at h
  | cons piece others ih =>
    cases others with
    | nil => exact .inr ⟨piece, List.mem_cons_self, h⟩
    | cons next rest =>
      rw [joinPieces, List.mem_append, List.mem_cons] at h
      rcases h with h | h | h
      · exact .inr ⟨piece, List.mem_cons_self, h⟩
      · exact .inl h
      · exact (ih h).imp_right fun ⟨p, hp, hc⟩ => ⟨p, List.mem_cons_of_mem _ hp, hc⟩
      · exact List.cons_ne_nil _ _

/-- A text without a separator is its only piece. -/
theorem pieces_of_notMem {sep : Char} {cs : List Char} (h : sep ∉ cs) : pieces sep cs = [cs] := by
  induction cs with
  | nil => rfl
  | cons c rest ih =>
    obtain ⟨hc, hrest⟩ := List.ne_and_not_mem_of_not_mem_cons h
    simp [pieces, hc.symm, ih hrest]

/-- The first piece of a text ends at the first separator. -/
theorem pieces_append {sep : Char} {before : List Char} (h : sep ∉ before) (cs : List Char) :
    pieces sep (before ++ sep :: cs) = before :: pieces sep cs := by
  induction before with
  | nil => simp [pieces]
  | cons c rest ih =>
    obtain ⟨hc, hrest⟩ := List.ne_and_not_mem_of_not_mem_cons h
    simp [pieces, hc.symm, ih hrest]

/-- A text is cut at its first separator. -/
theorem cut_append {sep : Char} {before : List Char} (h : sep ∉ before) (cs : List Char) :
    cut sep (before ++ sep :: cs) = (before, some cs) := by
  induction before with
  | nil => simp [cut]
  | cons c rest ih =>
    obtain ⟨hc, hrest⟩ := List.ne_and_not_mem_of_not_mem_cons h
    simp [cut, hc.symm, ih hrest]

/-- A text without a separator is not cut. -/
theorem cut_of_notMem {sep : Char} {cs : List Char} (h : sep ∉ cs) : cut sep cs = (cs, none) := by
  induction cs with
  | nil => rfl
  | cons c rest ih =>
    obtain ⟨hc, hrest⟩ := List.ne_and_not_mem_of_not_mem_cons h
    simp [cut, hc.symm, ih hrest]

/-- The pieces of a text, each with a separator in front, are the text with one in front. -/
theorem flatMap_pieces (sep : Char) (cs : List Char) :
    (pieces sep cs).flatMap (sep :: ·) = sep :: cs := by
  induction cs with
  | nil => rfl
  | cons c rest ih =>
    unfold pieces
    split
    · rename_i h
      rw [List.flatMap_cons, ih, h]
      rfl
    · cases hp : pieces sep rest with
      | nil => exact absurd hp (pieces_ne_nil sep rest)
      | cons piece others =>
        rw [hp, List.flatMap_cons, List.cons_append] at ih
        simp [(List.cons.inj ih).2]

/-- The lines of a text; a break at the end starts no further line. -/
def lines (cs : List Char) : List (List Char) :=
  let all := pieces '\n' cs
  if all.getLast? = some [] then all.dropLast else all

end Text
end ExchangeClient

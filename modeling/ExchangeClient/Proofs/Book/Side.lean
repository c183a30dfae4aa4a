import ExchangeClient.Book.Basic
import ExchangeClient.Proofs.Decimal.Value

/-!
# Sound sides of a book

A side is *sound* when its levels have different prices and none of them has a price or a
size of zero.  Editing keeps a side sound (`soundSide_editSides`), whatever the edits are:
it is because no price stands twice that taking away or overwriting the first level of a
price leaves nothing of that price behind.

Sorting turns a sound side into a strictly ordered one, in either direction
(`sortAsks_pairwise_lt`, `sortBids_pairwise_lt`).  The sort itself only promises an order in
which neighbours may be equal; the different prices make it strict.
-/

namespace ExchangeClient

/-- Whether a level is worth keeping: neither its price nor its size is zero. -/
def BoardLevel.IsLive (l : BoardLevel) : Prop := l.price.value ≠ 0 ∧ l.size.value ≠ 0

/-- A side on which no price stands twice and every level is worth keeping. -/
structure SoundSide (side : List BoardLevel) : Prop where
  distinct : side.Pairwise fun l m => l.price.value ≠ m.price.value
  live : ∀ l ∈ side, l.IsLive

theorem soundSide_nil : SoundSide [] := ⟨List.Pairwise.nil, by simp⟩

theorem soundSide_cons {l : BoardLevel} {side : List BoardLevel} :
    SoundSide (l :: side) ↔
      (∀ m ∈ side, l.price.value ≠ m.price.value) ∧ l.IsLive ∧ SoundSide side := by
  constructor
  · intro h
    obtain ⟨hl, hside⟩ := List.pairwise_cons.mp h.distinct
    exact ⟨hl, h.live l List.mem_cons_self,
      ⟨hside, fun m hm => h.live m (List.mem_cons_of_mem l hm)⟩⟩
  · rintro ⟨hl, hlive, hside⟩
    refine ⟨List.pairwise_cons.mpr ⟨hl, hside.distinct⟩, ?_⟩
    intro m hm
    rcases List.mem_cons.mp hm with rfl | hm
    · exact hlive
    · exact hside.live m hm

/-- The order of the levels does not matter. -/
theorem SoundSide.perm {side side' : List BoardLevel} (h : SoundSide side) (hp : side.Perm side') :
    SoundSide side' :=
  ⟨hp.pairwise h.distinct fun hne => hne.symm, fun l hl => h.live l (hp.mem_iff.mpr hl)⟩

/-! ## Edits -/

/-- What stands on a side after an edit stood there before or has the price of the edit. -/
theorem BoardLevel.mem_or_price_eq_of_mem_put {edit m : BoardLevel} {side : List BoardLevel}
    (hm : m ∈ edit.put side) : m ∈ side ∨ m.price.value = edit.price.value := by
  induction side with
  | nil =>
    rw [put] at hm
    split at hm
    · exact absurd hm List.not_mem_nil
    · exact Or.inr (by rw [List.mem_singleton.mp hm])
  | cons l side ih =>
    rw [put] at hm
    split at hm
    · next heq =>
      split at hm
      · exact Or.inl (List.mem_cons_of_mem l hm)
      · rcases List.mem_cons.mp hm with rfl | hm
        · exact Or.inr (Decimal.numEq_iff_value.mp heq)
        · exact Or.inl (List.mem_cons_of_mem l hm)
    · rcases List.mem_cons.mp hm with rfl | hm
      · exact Or.inl List.mem_cons_self
      · rcases ih hm with h | h
        · exact Or.inl (List.mem_cons_of_mem l h)
        · exact Or.inr h

/-- An edit of a price other than zero keeps a side sound. -/
theorem soundSide_put {side : List BoardLevel} (h : SoundSide side) {edit : BoardLevel}
    (hprice : edit.price.value ≠ 0) : SoundSide (edit.put side) := by
  induction side with
  | nil =>
    rw [BoardLevel.put]
    split
    · exact soundSide_nil
    · next hsize =>
      rw [Decimal.isZero_iff_value] at hsize
      exact soundSide_cons.mpr ⟨by simp, ⟨hprice, hsize⟩, soundSide_nil⟩
  | cons l side ih =>
    obtain ⟨hl, hlive, hside⟩ := soundSide_cons.mp h
    rw [BoardLevel.put]
    split
    · split
      · exact hside
      · next hsize =>
        rw [Decimal.isZero_iff_value] at hsize
        exact soundSide_cons.mpr ⟨hl, ⟨hlive.1, hsize⟩, hside⟩
    · next hne =>
      rw [Decimal.numEq_iff_value] at hne
      refine soundSide_cons.mpr ⟨fun m hm => ?_, hlive, ih hside⟩
      rcases BoardLevel.mem_or_price_eq_of_mem_put hm with hm | hm
      · exact hl m hm
      · rw [hm]
        exact hne

theorem soundSide_editSide {side : List BoardLevel} (h : SoundSide side) (edit : BoardLevel) :
    SoundSide (editSide side edit) := by
  rw [editSide]
  split
  · exact h
  · next hprice =>
    rw [Decimal.isZero_iff_value] at hprice
    exact soundSide_put h hprice

theorem editSides_cons (side : List BoardLevel) (edit : BoardLevel) (edits : List BoardLevel) :
    editSides side (edit :: edits) = editSides (editSide side edit) edits := rfl

/-- **Edits keep a side sound**, whatever they say. -/
theorem soundSide_editSides {side : List BoardLevel} (h : SoundSide side)
    (edits : List BoardLevel) : SoundSide (editSides side edits) := by
  induction edits generalizing side with
  | nil => exact h
  | cons edit edits ih =>
    rw [editSides_cons]
    exact ih (soundSide_editSide h edit)

/-! ## Sorting -/

theorem soundSide_sortAsks {side : List BoardLevel} (h : SoundSide side) :
    SoundSide (sortAsks side) :=
  h.perm (List.mergeSort_perm side _).symm

theorem soundSide_sortBids {side : List BoardLevel} (h : SoundSide side) :
    SoundSide (sortBids side) :=
  h.perm (List.mergeSort_perm side _).symm

/-- Asks come out from the lowest price up. -/
theorem sortAsks_pairwise (side : List BoardLevel) :
    (sortAsks side).Pairwise fun l m => l.price.value ≤ m.price.value := by
  have hsorted : (sortAsks side).Pairwise fun l m => l.price.numLe m.price = true := by
    refine List.pairwise_mergeSort ?_ ?_ side
    · intro a b c hab hbc
      rw [Decimal.numLe_iff_value] at hab hbc ⊢
      exact hab.trans hbc
    · intro a b
      rw [Bool.or_eq_true, Decimal.numLe_iff_value, Decimal.numLe_iff_value]
      exact le_total _ _
  exact hsorted.imp Decimal.numLe_iff_value.mp

/-- Bids come out from the highest price down. -/
theorem sortBids_pairwise (side : List BoardLevel) :
    (sortBids side).Pairwise fun l m => m.price.value ≤ l.price.value := by
  have hsorted : (sortBids side).Pairwise fun l m => m.price.numLe l.price = true := by
    refine List.pairwise_mergeSort ?_ ?_ side
    · intro a b c hab hbc
      rw [Decimal.numLe_iff_value] at hab hbc ⊢
      exact hbc.trans hab
    · intro a b
      rw [Bool.or_eq_true, Decimal.numLe_iff_value, Decimal.numLe_iff_value]
      exact le_total _ _
  exact hsorted.imp Decimal.numLe_iff_value.mp

/-- **Asks of a sound side come out strictly ascending.** -/
theorem sortAsks_pairwise_lt {side : List BoardLevel} (h : SoundSide side) :
    (sortAsks side).Pairwise fun l m => l.price.value < m.price.value :=
  (sortAsks_pairwise side).imp₂ (fun _ _ hle hne => lt_of_le_of_ne hle hne)
    (soundSide_sortAsks h).distinct

/-- **Bids of a sound side come out strictly descending.** -/
theorem sortBids_pairwise_lt {side : List BoardLevel} (h : SoundSide side) :
    (sortBids side).Pairwise fun l m => m.price.value < l.price.value :=
  (sortBids_pairwise side).imp₂ (fun _ _ hle hne => lt_of_le_of_ne hle hne.symm)
    (soundSide_sortBids h).distinct

end ExchangeClient

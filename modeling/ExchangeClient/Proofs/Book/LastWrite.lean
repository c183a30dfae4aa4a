import ExchangeClient.Proofs.Book.Ordered
import Mathlib.Data.List.DropRight

/-!
# The last write of a price wins

A difference may speak of one price several times, in several spellings, and between entries
about other prices.  What it leaves at the price can be told from the entries about that price
alone, read from the end.  The last of them says whether there is a level, and of what size.  The
spelling of the price is older: it is that of whoever wrote the level when it was last missing,
which is the first entry behind the last that took it away, or the book itself if nothing did.
`MergedAt` states this, and `merged_last_write` that it holds of every difference and every book.

The proof does not follow the list.  On a sound side an edit changes what stands at its own price
and at no other (`levelAt?_put`), so the level of a price goes through the entries about the price
one by one, as if there were nothing else (`levelAt?_editSides`).  The rest is about a single level
that is overwritten again and again (`BoardLevel.overwrite`).
-/

namespace ExchangeClient

/-- A side of a board. -/
inductive BookSide where
  | bids
  | asks

/-- The levels of a side. -/
def Board.levels (b : Board) : BookSide → List BoardLevel
  | .bids => b.bids
  | .asks => b.asks

/-- The first level of a price. -/
def levelAt? (p : ℚ) (side : List BoardLevel) : Option BoardLevel :=
  side.find? fun l => decide (l.price.value = p)

/-- The entries about a price, in order. -/
def entriesAt (p : ℚ) (edits : List BoardLevel) : List BoardLevel :=
  edits.filter fun e => decide (e.price.value = p)

/-- The entries behind the last one of size zero, and all of them if there is none. -/
def sinceRemoval (entries : List BoardLevel) : List BoardLevel :=
  entries.rtakeWhile fun e => !e.size.isZero

/-- What is left at a price when edits were folded into a side. -/
structure MergedAt (p : ℚ) (before edits after : List BoardLevel) : Prop where
  /-- There is a level if nothing was said and there was one, or if the last entry has a size. -/
  stands_iff : (∃ l ∈ after, l.price.value = p) ↔
    (entriesAt p edits = [] ∧ ∃ l ∈ before, l.price.value = p) ∨
      ∃ last, (entriesAt p edits).getLast? = some last ∧ last.size.value ≠ 0
  unique : ∀ l ∈ after, ∀ m ∈ after, l.price.value = p → m.price.value = p → l = m
  /-- Where nothing was said the level is the one that was there. -/
  untouched : entriesAt p edits = [] → ∀ l, l.price.value = p → (l ∈ after ↔ l ∈ before)
  /-- The size is the last that was written. -/
  size_eq : ∀ last, (entriesAt p edits).getLast? = some last →
    ∀ l ∈ after, l.price.value = p → l.size = last.size
  /-- The price stays as it was written before, if the level was there all the time. -/
  price_kept : (∀ e ∈ entriesAt p edits, e.size.value ≠ 0) →
    ∀ old ∈ before, old.price.value = p → ∀ l ∈ after, l.price.value = p → l.price = old.price
  /-- Otherwise it is written as in the entry that brought the level back for the last time. -/
  price_written :
    (∀ old ∈ before, old.price.value ≠ p) ∨ (∃ e ∈ entriesAt p edits, e.size.value = 0) →
      ∀ l ∈ after, l.price.value = p →
        ∃ first, (sinceRemoval (entriesAt p edits)).head? = some first ∧ l.price = first.price

/-! ## A single level -/

namespace BoardLevel

/-- What stands at the price of an entry after it, if `old` stood there before. -/
def overwrite (edit : BoardLevel) (old : Option BoardLevel) : Option BoardLevel :=
  if edit.size.isZero then none else some ⟨(old.getD edit).price, edit.size⟩

/-- What stands at a price after some entries about it. -/
def overwrites (entries : List BoardLevel) (old : Option BoardLevel) : Option BoardLevel :=
  entries.foldl (fun old edit => edit.overwrite old) old

variable {edit l old first : BoardLevel} {entries early late : List BoardLevel}
  {before : Option BoardLevel}

theorem overwrite_eq_none_iff : edit.overwrite before = none ↔ edit.size.value = 0 := by
  rw [overwrite, ← Decimal.isZero_iff_value]
  cases edit.size.isZero <;> simp

theorem overwrite_of_ne_zero (h : edit.size.value ≠ 0) :
    edit.overwrite before = some ⟨(before.getD edit).price, edit.size⟩ := by
  rw [overwrite, if_neg (by rwa [Decimal.isZero_iff_value])]

@[simp] theorem overwrites_nil (before : Option BoardLevel) : overwrites [] before = before := rfl

theorem overwrites_append :
    overwrites (early ++ late) before = overwrites late (overwrites early before) :=
  List.foldl_append

theorem overwrites_concat :
    overwrites (entries ++ [edit]) before = edit.overwrite (overwrites entries before) :=
  List.foldl_concat ..

/-- The last entry decides whether there is a level. -/
theorem overwrites_eq_none_iff (h : entries.getLast? = some edit) :
    overwrites entries before = none ↔ edit.size.value = 0 := by
  obtain ⟨early, rfl⟩ := List.getLast?_eq_some_iff.mp h
  rw [overwrites_concat, overwrite_eq_none_iff]

/-- The last entry decides the size. -/
theorem size_of_overwrites (h : entries.getLast? = some edit)
    (hl : overwrites entries before = some l) : l.size = edit.size := by
  obtain ⟨early, rfl⟩ := List.getLast?_eq_some_iff.mp h
  rw [overwrites_concat] at hl
  by_cases hzero : edit.size.value = 0
  · rw [overwrite_eq_none_iff.mpr hzero] at hl
    cases hl
  · rw [overwrite_of_ne_zero hzero] at hl
    rw [← Option.some.inj hl]

/-- A level that is never taken away keeps the price as it is written. -/
theorem price_of_overwrites (h : ∀ e ∈ entries, e.size.value ≠ 0)
    (hl : overwrites entries (some old) = some l) : l.price = old.price := by
  induction entries generalizing old with
  | nil => rw [← Option.some.inj hl]
  | cons edit entries ih =>
    obtain ⟨hedit, hentries⟩ := List.forall_mem_cons.mp h
    rw [overwrites, List.foldl_cons, overwrite_of_ne_zero hedit] at hl
    have hkept := ih hentries hl
    exact hkept

/-- A level that was missing is written as in the first entry, if it is not taken away. -/
theorem price_of_overwrites_none (h : ∀ e ∈ first :: entries, e.size.value ≠ 0)
    (hl : overwrites (first :: entries) none = some l) : l.price = first.price := by
  obtain ⟨hfirst, hentries⟩ := List.forall_mem_cons.mp h
  rw [overwrites, List.foldl_cons, overwrite_of_ne_zero hfirst] at hl
  exact price_of_overwrites hentries hl

theorem ne_zero_of_mem_sinceRemoval (h : edit ∈ sinceRemoval entries) : edit.size.value ≠ 0 := by
  have hsize := List.mem_rtakeWhile_imp h
  rw [Bool.not_eq_true', ← Bool.not_eq_true, Decimal.isZero_iff_value] at hsize
  exact hsize

/-- The entries up to the last of size zero leave no level, unless there was one and they are
none. -/
theorem exists_removal (entries : List BoardLevel) :
    ∃ early, entries = early ++ sinceRemoval entries ∧
      ∀ before, (before = none ∨ ∃ e ∈ entries, e.size.value = 0) →
        overwrites early before = none := by
  refine ⟨entries.rdropWhile fun e => !e.size.isZero, List.rdropWhile_append_rtakeWhile.symm, ?_⟩
  intro before hmissing
  by_cases hnil : entries.rdropWhile (fun e => !e.size.isZero) = []
  · -- No entry has size zero.
    rw [hnil, overwrites_nil]
    refine hmissing.resolve_right ?_
    rintro ⟨e, he, hzero⟩
    have hall := List.rdropWhile_eq_nil_iff.mp hnil e he
    rw [Bool.not_eq_true', ← Bool.not_eq_true, Decimal.isZero_iff_value] at hall
    exact hall hzero
  · rw [overwrites_eq_none_iff (List.getLast?_eq_some_getLast hnil), ← Decimal.isZero_iff_value]
    simpa using List.rdropWhile_last_not _ entries hnil

/-- A level that was missing at some time is written as in the entry that brought it back for the
last time. -/
theorem exists_first_of_overwrites (hl : overwrites entries before = some l)
    (hmissing : before = none ∨ ∃ e ∈ entries, e.size.value = 0) :
    ∃ first, (sinceRemoval entries).head? = some first ∧ l.price = first.price := by
  obtain ⟨early, hsplit, hearly⟩ := exists_removal entries
  rw [hsplit, overwrites_append, hearly before hmissing] at hl
  cases hlate : sinceRemoval entries with
  | nil =>
    rw [hlate, overwrites_nil] at hl
    cases hl
  | cons first late =>
    have hsizes : ∀ e ∈ first :: late, e.size.value ≠ 0 := by
      intro e he
      exact ne_zero_of_mem_sinceRemoval (hlate ▸ he)
    rw [hlate] at hl
    exact ⟨first, rfl, price_of_overwrites_none hsizes hl⟩

end BoardLevel

/-! ## The level of a price -/

section Sides

variable {p : ℚ} {side : List BoardLevel} {edit l : BoardLevel}

theorem levelAt?_nil : levelAt? p [] = none := rfl

theorem levelAt?_cons : levelAt? p (l :: side) =
    if l.price.value = p then some l else levelAt? p side := by
  rw [levelAt?, List.find?_cons]
  by_cases hprice : l.price.value = p
  · simp [hprice]
  · simp [hprice, levelAt?]

theorem levelAt?_eq_none_iff : levelAt? p side = none ↔ ∀ l ∈ side, l.price.value ≠ p := by
  simp [levelAt?]

/-- The level of a price on a sound side is the only one. -/
theorem levelAt?_eq_some_iff (h : SoundSide side) :
    levelAt? p side = some l ↔ l ∈ side ∧ l.price.value = p := by
  constructor
  · intro hl
    exact ⟨List.mem_of_find?_eq_some hl, by simpa using List.find?_some hl⟩
  · rintro ⟨hmem, hprice⟩
    obtain ⟨early, late, rfl⟩ := List.append_of_mem hmem
    obtain ⟨-, -, hbefore⟩ := List.pairwise_append.mp h.distinct
    rw [levelAt?, List.find?_eq_some_iff_append]
    refine ⟨by simpa using hprice, early, late, rfl, fun m hm => ?_⟩
    have hne : m.price.value ≠ p := hprice ▸ hbefore m hm l List.mem_cons_self
    simpa using hne

/-- The order of the levels does not matter. -/
theorem levelAt?_perm {side' : List BoardLevel} (h : SoundSide side) (hp : side.Perm side') :
    levelAt? p side' = levelAt? p side := by
  refine Option.ext fun l => ?_
  rw [levelAt?_eq_some_iff (h.perm hp), levelAt?_eq_some_iff h, hp.mem_iff]

/-- **An edit overwrites the level of its price**, and leaves the levels of other prices alone. -/
theorem levelAt?_put (h : SoundSide side) :
    levelAt? p (edit.put side) =
      if edit.price.value = p then edit.overwrite (levelAt? p side) else levelAt? p side := by
  induction side with
  | nil =>
    rw [BoardLevel.put, BoardLevel.overwrite]
    cases edit.size.isZero with
    | true => simp [levelAt?_nil]
    | false => simp [levelAt?_nil, levelAt?_cons]
  | cons m side ih =>
    obtain ⟨hm, -, hside⟩ := soundSide_cons.mp h
    rw [BoardLevel.put]
    split
    · next heq =>
      rw [Decimal.numEq_iff_value] at heq
      -- No other level has this price, so none is left when this one goes.
      have hrest : levelAt? m.price.value side = none :=
        levelAt?_eq_none_iff.mpr fun l hl => (hm l hl).symm
      rw [BoardLevel.overwrite, ← heq, levelAt?_cons]
      by_cases hprice : m.price.value = p
      · subst hprice
        cases edit.size.isZero with
        | true => simp [hrest]
        | false => simp [levelAt?_cons]
      · cases edit.size.isZero with
        | true => simp [hprice]
        | false => simp [levelAt?_cons, hprice]
    · next hne =>
      rw [Decimal.numEq_iff_value] at hne
      rw [levelAt?_cons, levelAt?_cons, ih hside]
      by_cases hprice : m.price.value = p
      · have hother : edit.price.value ≠ p := fun heq => hne (hprice.trans heq.symm)
        rw [if_pos hprice, if_neg hother, if_pos hprice]
      · rw [if_neg hprice, if_neg hprice]

/-- **The level of a price goes through the entries about the price**, whatever stands between
them. -/
theorem levelAt?_editSides (h : SoundSide side) (hp : p ≠ 0) (edits : List BoardLevel) :
    levelAt? p (editSides side edits) =
      BoardLevel.overwrites (entriesAt p edits) (levelAt? p side) := by
  induction edits generalizing side with
  | nil => rfl
  | cons edit edits ih =>
    have hedit : levelAt? p (editSide side edit) =
        if edit.price.value = p then edit.overwrite (levelAt? p side) else levelAt? p side := by
      rw [editSide]
      split
      · next hzero =>
        rw [Decimal.isZero_iff_value] at hzero
        have hother : edit.price.value ≠ p := by
          rw [hzero]
          exact hp.symm
        rw [if_neg hother]
      · exact levelAt?_put h
    rw [editSides_cons, ih (soundSide_editSide h edit), hedit]
    by_cases hprice : edit.price.value = p
    · have hentries : entriesAt p (edit :: edits) = edit :: entriesAt p edits :=
        List.filter_cons_of_pos (by simpa using hprice)
      rw [if_pos hprice, hentries]
      rfl
    · have hentries : entriesAt p (edit :: edits) = entriesAt p edits :=
        List.filter_cons_of_neg (by simpa using hprice)
      rw [if_neg hprice, hentries]

/-- Entries of price zero do nothing. -/
theorem editSides_filter (side edits : List BoardLevel) :
    editSides side (edits.filter fun e => !e.price.isZero) = editSides side edits := by
  induction edits generalizing side with
  | nil => rfl
  | cons edit edits ih =>
    rw [List.filter_cons, editSides_cons]
    split
    · exact ih _
    · next hzero =>
      have hpassed : editSide side edit = side := by
        rw [editSide, if_pos (by simpa using hzero)]
      rw [ih, hpassed]

/-- A side whose levels are those of the entries, one price like the other, is merged. -/
theorem mergedAt_of_levelAt? {before edits after : List BoardLevel} (hbefore : SoundSide before)
    (hafter : SoundSide after)
    (h : levelAt? p after = BoardLevel.overwrites (entriesAt p edits) (levelAt? p before)) :
    MergedAt p before edits after := by
  have hlevel {l : BoardLevel} (hl : l ∈ after) (hprice : l.price.value = p) :
      BoardLevel.overwrites (entriesAt p edits) (levelAt? p before) = some l := by
    rw [← h, levelAt?_eq_some_iff hafter]
    exact ⟨hl, hprice⟩
  refine ⟨?_, ?_, ?_, ?_, ?_, ?_⟩
  · have hstands {side : List BoardLevel} :
        (∃ l ∈ side, l.price.value = p) ↔ levelAt? p side ≠ none := by
      rw [ne_eq, levelAt?_eq_none_iff]
      push Not
      rfl
    rw [hstands, hstands, h]
    cases hlast : (entriesAt p edits).getLast? with
    | none => simp [List.getLast?_eq_none_iff.mp hlast]
    | some last =>
      have hne : entriesAt p edits ≠ [] := by
        rintro hnil
        rw [hnil] at hlast
        cases hlast
      simp [BoardLevel.overwrites_eq_none_iff hlast, hne]
  · intro l hl m hm hlprice hmprice
    exact Option.some.inj ((hlevel hl hlprice).symm.trans (hlevel hm hmprice))
  · intro hnil l hprice
    rw [hnil, BoardLevel.overwrites_nil] at h
    have hiff : levelAt? p after = some l ↔ levelAt? p before = some l := by rw [h]
    simpa [levelAt?_eq_some_iff hafter, levelAt?_eq_some_iff hbefore, hprice] using hiff
  · intro last hlast l hl hprice
    exact BoardLevel.size_of_overwrites hlast (hlevel hl hprice)
  · intro hsizes old hold holdprice l hl hprice
    have hstood : levelAt? p before = some old :=
      (levelAt?_eq_some_iff hbefore).mpr ⟨hold, holdprice⟩
    have hl := hlevel hl hprice
    rw [hstood] at hl
    exact BoardLevel.price_of_overwrites hsizes hl
  · intro hmissing l hl hprice
    rw [← levelAt?_eq_none_iff] at hmissing
    exact BoardLevel.exists_first_of_overwrites (hlevel hl hprice) hmissing

end Sides

/-! ## Differences -/

namespace OrderBook

variable {book : OrderBook}

/-- A side after a difference, up to the order of its levels. -/
theorem perm_levels_applyDiff (book : OrderBook) (diff : Board) (s : BookSide) :
    (editSides (book.view.levels s) (diff.levels s)).Perm
      ((book.applyDiff diff).view.levels s) := by
  cases s with
  | bids => exact (List.mergeSort_perm _ _).symm
  | asks => exact (List.mergeSort_perm _ _).symm

/-- A side after a difference is made of that side and what the difference says of it. -/
theorem levels_applyDiff_congr {diff other : Board} {s : BookSide}
    (h : editSides (book.view.levels s) (other.levels s) =
      editSides (book.view.levels s) (diff.levels s)) :
    (book.applyDiff other).view.levels s = (book.applyDiff diff).view.levels s := by
  cases s with
  | bids => exact congrArg sortBids h
  | asks => exact congrArg sortAsks h

theorem soundSide_levels (h : book.view.IsOrdered) (s : BookSide) :
    SoundSide (book.view.levels s) := by
  cases s with
  | bids => exact h.soundBids
  | asks => exact h.soundAsks

/-- **The last write of a price wins.**  Started empty or from any snapshot and moved by any
changes, a book takes over the mid price of a difference; what the difference leaves at a price is
told by its entries about that price on that side; and entries of price zero and of the other side
do not matter. -/
theorem merged_last_write (origin : Option Board) (cs : List BookChange) (diff : Board) :
    let book := (origin.elim empty ofSnapshot).changes cs
    let after := (book.applyDiff diff).view
    after.midPrice = diff.midPrice ∧ ∀ s : BookSide,
      (∀ p ≠ 0, MergedAt p (book.view.levels s) (diff.levels s) (after.levels s)) ∧
      ∀ other : Board,
        ((other.levels s).filter fun e => !e.price.isZero) =
          ((diff.levels s).filter fun e => !e.price.isZero) →
        (book.applyDiff other).view.levels s = after.levels s := by
  intro book after
  have hbook : book.view.IsOrdered := isOrdered_changes (isOrdered_elim origin) cs
  refine ⟨rfl, fun s => ⟨fun p hp => ?_, fun other hother => ?_⟩⟩
  · have hbefore : SoundSide (book.view.levels s) := soundSide_levels hbook s
    have hafter : SoundSide (after.levels s) := soundSide_levels (isOrdered_applyDiff hbook diff) s
    have hperm := perm_levels_applyDiff book diff s
    refine mergedAt_of_levelAt? hbefore hafter ?_
    rw [levelAt?_perm (soundSide_editSides hbefore _) hperm, levelAt?_editSides hbefore hp]
  · refine levels_applyDiff_congr ?_
    rw [← editSides_filter _ (other.levels s), hother, editSides_filter]

end OrderBook
end ExchangeClient

import ExchangeClient.Proofs.Book.Ordered

/-!
# What is shown of a book is the whole book

A board that a book has shown can be given to a new book as its snapshot, and the new book is the
same as the old one, down to how its numbers are written (`ofSnapshot_shown`).  So nobody who took
over from a shown board can ever be told from one who was there from the start.

A snapshot is read like a difference to an empty side, level by level, and is sorted afterwards.
For a board in order neither step changes anything.  No price stands twice and no size is zero, so
every level is added behind the levels before it (`editSides_append`), and the side that comes of it
is in order already.
-/

namespace ExchangeClient

variable {side more : List BoardLevel} {edit : BoardLevel}

/-- A level of a new price is added at the end. -/
theorem BoardLevel.put_of_new (hsize : edit.size.value ≠ 0)
    (hnew : ∀ l ∈ side, l.price.value ≠ edit.price.value) : edit.put side = side ++ [edit] := by
  induction side with
  | nil => rw [put, if_neg (by rwa [Decimal.isZero_iff_value]), List.nil_append]
  | cons l side ih =>
    obtain ⟨hl, hside⟩ := List.forall_mem_cons.mp hnew
    rw [put, if_neg (by rwa [Decimal.numEq_iff_value]), ih hside, List.cons_append]

/-- Levels that could stand on a side together are added as they are. -/
theorem editSides_append (h : SoundSide (side ++ more)) : editSides side more = side ++ more := by
  induction more generalizing side with
  | nil => rw [List.append_nil]; rfl
  | cons edit more ih =>
    obtain ⟨hprice, hsize⟩ := h.live edit (by simp)
    have hnew : ∀ l ∈ side, l.price.value ≠ edit.price.value := by
      obtain ⟨-, -, hacross⟩ := List.pairwise_append.mp h.distinct
      exact fun l hl => hacross l hl edit List.mem_cons_self
    have hadded : editSide side edit = side ++ [edit] := by
      rw [editSide, if_neg (by rwa [Decimal.isZero_iff_value]), BoardLevel.put_of_new hsize hnew]
    have hshift : side ++ [edit] ++ more = side ++ edit :: more := List.append_cons .. |>.symm
    rw [editSides_cons, hadded, ih (hshift.symm ▸ h), hshift]

theorem editSides_nil_of_soundSide (h : SoundSide side) : editSides [] side = side :=
  (editSides_append h : editSides [] side = [] ++ side)

theorem sortAsks_eq_self (h : side.Pairwise fun l m => l.price.value < m.price.value) :
    sortAsks side = side :=
  List.mergeSort_of_pairwise (h.imp fun hlt => Decimal.numLe_iff_value.mpr hlt.le)

theorem sortBids_eq_self (h : side.Pairwise fun l m => m.price.value < l.price.value) :
    sortBids side = side :=
  List.mergeSort_of_pairwise (h.imp fun hlt => Decimal.numLe_iff_value.mpr hlt.le)

namespace OrderBook

/-- **A board in order is taken over as it is.** -/
theorem replace_of_isOrdered {b : Board} (h : b.IsOrdered) (book : OrderBook) :
    book.replace b = ⟨b⟩ := by
  have hbids : sortBids (editSides [] b.bids) = b.bids := by
    rw [editSides_nil_of_soundSide h.soundBids, sortBids_eq_self h.bids_descending]
  have hasks : sortAsks (editSides [] b.asks) = b.asks := by
    rw [editSides_nil_of_soundSide h.soundAsks, sortAsks_eq_self h.asks_ascending]
  show OrderBook.mk ⟨b.midPrice, sortBids (editSides [] b.bids), sortAsks (editSides [] b.asks)⟩ =
    ⟨b⟩
  rw [hbids, hasks]

/-- **What is shown of a book is the whole book.**  A book that was started empty or from any
snapshot and moved by any changes is the book that starts from the board it shows, with the same
levels in the same order and all numbers written alike; so both show the same boards whatever
changes follow.  And to replace a book by what came of replacing one changes nothing more. -/
theorem ofSnapshot_shown (origin : Option Board) (cs : List BookChange) :
    let book := (origin.elim empty ofSnapshot).changes cs
    ofSnapshot book.view = book ∧
      (∀ more, (ofSnapshot book.view).boards more = book.boards more ∧
        (ofSnapshot book.view).changes more = book.changes more) ∧
      ∀ (before other : OrderBook) (snapshot : Board),
        other.replace (before.replace snapshot).view = before.replace snapshot := by
  intro book
  have hbook : book.view.IsOrdered := isOrdered_changes (isOrdered_elim origin) cs
  have hsame : ofSnapshot book.view = book := replace_of_isOrdered hbook empty
  refine ⟨hsame, fun more => ?_, fun before other snapshot => ?_⟩
  · rw [hsame]
    exact ⟨rfl, rfl⟩
  · have hreplaced : (before.replace snapshot).view.IsOrdered :=
      isOrdered_change isOrdered_empty (.snapshot snapshot)
    exact replace_of_isOrdered hreplaced other

end OrderBook
end ExchangeClient

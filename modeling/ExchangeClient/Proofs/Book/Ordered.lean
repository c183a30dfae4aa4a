import ExchangeClient.Book.Changes
import ExchangeClient.Proofs.Book.Side

/-!
# A kept book is in order

A board is *in order* when its asks ascend and its bids descend strictly and all of its
levels are worth keeping.  Every change takes a board in order to a board in order
(`isOrdered_change`), and a book starts in order, be it empty or from a snapshot; so it is
in order after any list of changes (`isOrdered_changes`), and so is every board that it has
shown on the way.  Nothing is asked of the snapshots and the differences: their levels may
come in any order, repeat a price, or write one price in several ways.

Order is what makes the first level of a side the best one (`IsOrdered.bestAsk?_eq_some_iff`,
`IsOrdered.bestBid?_eq_some_iff`).
-/

namespace ExchangeClient

/-- A board in order, prices compared as numbers. -/
structure Board.IsOrdered (b : Board) : Prop where
  asks_ascending : b.asks.Pairwise fun l m => l.price.value < m.price.value
  bids_descending : b.bids.Pairwise fun l m => m.price.value < l.price.value
  asks_live : ∀ l ∈ b.asks, l.IsLive
  bids_live : ∀ l ∈ b.bids, l.IsLive

/-- The head of a side that a rank strictly increases along is the level of least rank. -/
theorem head?_eq_some_iff_of_pairwise {side : List BoardLevel} {r : BoardLevel → ℚ}
    (hside : side.Pairwise fun l m => r l < r m) (l : BoardLevel) :
    side.head? = some l ↔ l ∈ side ∧ ∀ m ∈ side, r l ≤ r m := by
  cases side with
  | nil => simp
  | cons best side =>
    obtain ⟨hbest, -⟩ := List.pairwise_cons.mp hside
    rw [List.head?_cons, Option.some_inj]
    constructor
    · rintro rfl
      refine ⟨List.mem_cons_self, fun m hm => ?_⟩
      rcases List.mem_cons.mp hm with rfl | hm
      · exact le_rfl
      · exact (hbest m hm).le
    · rintro ⟨hl, hleast⟩
      rcases List.mem_cons.mp hl with rfl | hl
      · rfl
      · exact absurd (hleast best List.mem_cons_self) (not_le.mpr (hbest l hl))

namespace Board.IsOrdered

variable {b : Board}

theorem soundAsks (h : b.IsOrdered) : SoundSide b.asks :=
  ⟨h.asks_ascending.imp fun hlt => hlt.ne, h.asks_live⟩

theorem soundBids (h : b.IsOrdered) : SoundSide b.bids :=
  ⟨h.bids_descending.imp fun hlt => hlt.ne', h.bids_live⟩

/-- No price stands twice among the asks, however it is written. -/
theorem nodup_asks (h : b.IsOrdered) : (b.asks.map fun l => l.price.value).Nodup :=
  List.pairwise_map.mpr h.soundAsks.distinct

/-- No price stands twice among the bids, however it is written. -/
theorem nodup_bids (h : b.IsOrdered) : (b.bids.map fun l => l.price.value).Nodup :=
  List.pairwise_map.mpr h.soundBids.distinct

/-- The best ask is the level of the lowest price. -/
theorem bestAsk?_eq_some_iff (h : b.IsOrdered) (l : BoardLevel) :
    b.bestAsk? = some l ↔ l ∈ b.asks ∧ ∀ m ∈ b.asks, l.price.value ≤ m.price.value :=
  head?_eq_some_iff_of_pairwise (r := fun l => l.price.value) h.asks_ascending l

/-- The best bid is the level of the highest price. -/
theorem bestBid?_eq_some_iff (h : b.IsOrdered) (l : BoardLevel) :
    b.bestBid? = some l ↔ l ∈ b.bids ∧ ∀ m ∈ b.bids, m.price.value ≤ l.price.value := by
  have hrank : b.bids.Pairwise fun l m => -l.price.value < -m.price.value :=
    h.bids_descending.imp fun hlt => neg_lt_neg hlt
  rw [Board.bestBid?, head?_eq_some_iff_of_pairwise (r := fun l => -l.price.value) hrank]
  simp only [neg_le_neg_iff]

end Board.IsOrdered

/-! ## Changes keep the order -/

namespace OrderBook

theorem isOrdered_empty : empty.view.IsOrdered where
  asks_ascending := List.Pairwise.nil
  bids_descending := List.Pairwise.nil
  asks_live := by simp [empty, Board.empty]
  bids_live := by simp [empty, Board.empty]

theorem isOrdered_applyDiff {book : OrderBook} (h : book.view.IsOrdered) (diff : Board) :
    (book.applyDiff diff).view.IsOrdered := by
  have hbids := soundSide_editSides h.soundBids diff.bids
  have hasks := soundSide_editSides h.soundAsks diff.asks
  exact
    { asks_ascending := sortAsks_pairwise_lt hasks
      bids_descending := sortBids_pairwise_lt hbids
      asks_live := (soundSide_sortAsks hasks).live
      bids_live := (soundSide_sortBids hbids).live }

/-- A change takes a book in order to a book in order. -/
theorem isOrdered_change {book : OrderBook} (h : book.view.IsOrdered) (c : BookChange) :
    (book.change c).view.IsOrdered := by
  cases c with
  | snapshot board => exact isOrdered_applyDiff isOrdered_empty board
  | difference board => exact isOrdered_applyDiff h board

theorem isOrdered_changes {book : OrderBook} (h : book.view.IsOrdered) (cs : List BookChange) :
    (book.changes cs).view.IsOrdered := by
  induction cs generalizing book with
  | nil => exact h
  | cons c cs ih => exact ih (isOrdered_change h c)

theorem isOrdered_of_mem_boards {book : OrderBook} (h : book.view.IsOrdered)
    (cs : List BookChange) : ∀ b ∈ book.boards cs, b.IsOrdered := by
  intro b hb
  rw [boards_eq_map_range] at hb
  obtain ⟨n, -, rfl⟩ := List.mem_map.mp hb
  exact isOrdered_changes h _

/-- A book that starts from a snapshot, or else empty, starts in order. -/
theorem isOrdered_elim (origin : Option Board) :
    (origin.elim empty ofSnapshot).view.IsOrdered := by
  cases origin with
  | none => exact isOrdered_empty
  | some snapshot => exact isOrdered_change isOrdered_empty (.snapshot snapshot)

/-- **A kept book is always in order.**  Started empty or from any snapshot and moved by any
changes, the book and every board that it has shown are strictly ordered by price, hold no
level of price or size zero and no price twice, and show as best ask the level of the lowest
price and as best bid the level of the highest, whenever there is one. -/
theorem isOrdered_boards (origin : Option Board) (cs : List BookChange) :
    let start := origin.elim empty ofSnapshot
    ∀ b ∈ (start.changes cs).view :: start.boards cs,
      b.IsOrdered ∧
      (b.asks.map fun l => l.price.value).Nodup ∧ (b.bids.map fun l => l.price.value).Nodup ∧
      (∀ l, b.bestAsk? = some l ↔
        l ∈ b.asks ∧ ∀ m ∈ b.asks, l.price.value ≤ m.price.value) ∧
      (∀ l, b.bestBid? = some l ↔
        l ∈ b.bids ∧ ∀ m ∈ b.bids, m.price.value ≤ l.price.value) ∧
      (b.asks ≠ [] → b.bestAsk?.isSome) ∧ (b.bids ≠ [] → b.bestBid?.isSome) := by
  intro start b hb
  have hstart : start.view.IsOrdered := isOrdered_elim origin
  have h : b.IsOrdered := by
    rcases List.mem_cons.mp hb with rfl | hb
    · exact isOrdered_changes hstart cs
    · exact isOrdered_of_mem_boards hstart cs b hb
  refine ⟨h, h.nodup_asks, h.nodup_bids, h.bestAsk?_eq_some_iff, h.bestBid?_eq_some_iff, ?_, ?_⟩
  · intro hne
    rwa [Board.bestAsk?, List.isSome_head?]
  · intro hne
    rwa [Board.bestBid?, List.isSome_head?]

end OrderBook
end ExchangeClient

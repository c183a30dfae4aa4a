import ExchangeClient.Book.Basic

/-!
# Changes of a book

A book is moved by what is published about it: a snapshot starts it afresh, a difference
is folded into what it holds.  Either way the whole book is shown afterwards, as a board
of its own.

`changes` is the book after a list of changes, and `boards` are the boards that were
shown on the way, one for each change (`boards_eq_map_range`).
-/

namespace ExchangeClient

/-- What is published about a book. -/
inductive BookChange where
  /-- A snapshot; what the book held before is forgotten. -/
  | snapshot (board : Board)
  | difference (board : Board)

namespace OrderBook

/-- The book after a change. -/
def change (book : OrderBook) : BookChange → OrderBook
  | .snapshot board => book.replace board
  | .difference board => book.applyDiff board

/-- The book after some changes, one after the other. -/
def changes (book : OrderBook) (cs : List BookChange) : OrderBook := cs.foldl change book

/-- The boards that are shown after each of some changes. -/
def boards (book : OrderBook) : List BookChange → List Board
  | [] => []
  | c :: cs => (book.change c).view :: (book.change c).boards cs

@[simp] theorem changes_nil (book : OrderBook) : book.changes [] = book := rfl

@[simp] theorem changes_cons (book : OrderBook) (c : BookChange) (cs : List BookChange) :
    book.changes (c :: cs) = (book.change c).changes cs := rfl

@[simp] theorem boards_nil (book : OrderBook) : book.boards [] = [] := rfl

@[simp] theorem boards_cons (book : OrderBook) (c : BookChange) (cs : List BookChange) :
    book.boards (c :: cs) = (book.change c).view :: (book.change c).boards cs := rfl

/-- The `n`-th board shown is the view of the book after the first `n` changes, counted from
one. -/
theorem boards_eq_map_range (book : OrderBook) (cs : List BookChange) :
    book.boards cs =
      (List.range cs.length).map fun n => (book.changes (cs.take (n + 1))).view := by
  induction cs generalizing book with
  | nil => rfl
  | cons c cs ih =>
    rw [boards_cons, ih, List.length_cons, List.range_succ_eq_map, List.map_cons, List.map_map]
    rfl

end OrderBook

end ExchangeClient

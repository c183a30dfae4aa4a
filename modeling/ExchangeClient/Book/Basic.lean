import ExchangeClient.Market.Data

/-!
# The order book

A book is kept from a snapshot and the differences published after it.  Each side
is a list of levels that is edited level by level and then put in order, bids from
the highest price down and asks from the lowest up.

An edit speaks about the level of its price, and prices are compared as numbers.
A size of zero takes the level away; any other size replaces the size of the level
and leaves the price as it was written first; a level that is not there yet is
added.  Levels of price zero are a form of market order and are passed over.  A
snapshot goes the same way into an empty book, so that repeated levels in it do no
harm.
-/

namespace ExchangeClient

/-- A side after an edit, before it is put in order. -/
def BoardLevel.put (edit : BoardLevel) : List BoardLevel → List BoardLevel
  | [] => if edit.size.isZero then [] else [edit]
  | level :: levels =>
    if Decimal.numEq level.price edit.price then
      if edit.size.isZero then levels
      else ⟨level.price, edit.size⟩ :: levels
    else level :: edit.put levels

/-- A side after an edit; levels of price zero are passed over. -/
def editSide (side : List BoardLevel) (edit : BoardLevel) : List BoardLevel :=
  if edit.price.isZero then side else edit.put side

/-- A side after a list of edits. -/
def editSides (side edits : List BoardLevel) : List BoardLevel :=
  edits.foldl editSide side

/-- Asks in order: the lowest price first. -/
def sortAsks (side : List BoardLevel) : List BoardLevel :=
  side.mergeSort fun a b => Decimal.numLe a.price b.price

/-- Bids in order: the highest price first. -/
def sortBids (side : List BoardLevel) : List BoardLevel :=
  side.mergeSort fun a b => Decimal.numLe b.price a.price

/-- A continuously kept order book. -/
structure OrderBook where
  view : Board

namespace OrderBook

/-- A book with no levels. -/
def empty : OrderBook := ⟨Board.empty⟩

/-- The book after a difference. -/
def applyDiff (book : OrderBook) (diff : Board) : OrderBook :=
  ⟨⟨diff.midPrice, sortBids (editSides book.view.bids diff.bids),
    sortAsks (editSides book.view.asks diff.asks)⟩⟩

/-- The book after a snapshot, whatever it held before. -/
def replace (_ : OrderBook) (snapshot : Board) : OrderBook :=
  empty.applyDiff snapshot

/-- The book that a snapshot starts. -/
def ofSnapshot (snapshot : Board) : OrderBook :=
  empty.replace snapshot

end OrderBook

end ExchangeClient

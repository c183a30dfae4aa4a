import ExchangeClient.Book.Published
import ExchangeClient.Proofs.Feed.Handling

/-!
# A merged board is the fold of what was published

A merged board keeps a book and shows the whole of it after every change.  Here this is said
from end to end: over any run of its feed, the boards that it delivers are those of the seed
moved by exactly the changes that were published among the frames received so far.  Nothing
else has any part in it: neither frames of other topics, nor frames that carry no message or
one that writes no board, nor the loss of a connection.

One frame is settled by `receive_merged`: it publishes a change, and the book is moved and
shown, or it does not, and the book stays, even if the frame is refused.
-/

namespace ExchangeClient

/-- The frames that were received, in order. -/
def StreamEvent.receivedFrames (events : List StreamEvent) : List String :=
  events.filterMap fun
    | .received frame => some frame
    | _ => none

/-- The changes of a product's book that were published in the course of some events. -/
def BookChange.ofEvents (product : ProductCode) (events : List StreamEvent) :
    List BookChange :=
  (StreamEvent.receivedFrames events).filterMap (ofFrame? product)

/-! ## One frame -/

theorem Handler.accept_merged (product : ProductCode) (book : OrderBook) (n : Notification) :
    (∃ c, BookChange.ofNotification? product n = some c ∧
      (Handler.merged book).accept product n =
        .ok (.merged (book.change c), some (.board (book.change c).view))) ∨
    (BookChange.ofNotification? product n = none ∧
      ((Handler.merged book).accept product n = .ok (.merged book, none) ∨
        ∃ cause, (Handler.merged book).accept product n = .error cause)) := by
  unfold BookChange.ofNotification? accept payload
  cases (Wire.ofJson n.message : Except Json.Mismatch Board) with
  | ok board =>
    dsimp only
    split
    · exact Or.inl ⟨.snapshot board, rfl, rfl⟩
    · split
      · exact Or.inl ⟨.difference board, rfl, rfl⟩
      · exact Or.inr ⟨rfl, Or.inl rfl⟩
  | error mismatch =>
    refine Or.inr ⟨rfl, ?_⟩
    dsimp only
    split
    · exact Or.inr ⟨.mismatch mismatch, rfl⟩
    · split
      · exact Or.inr ⟨.mismatch mismatch, rfl⟩
      · exact Or.inl rfl

/-- A frame that publishes a change moves the book and shows it; any other frame leaves the
book alone and shows nothing. -/
theorem Handler.receive_merged (product : ProductCode) (book : OrderBook) (frame : String) :
    (∃ c, BookChange.ofFrame? product frame = some c ∧
      (Handler.merged book).receive product frame =
        .ok (.merged (book.change c), some (.board (book.change c).view))) ∨
    (BookChange.ofFrame? product frame = none ∧
      ((Handler.merged book).receive product frame = .ok (.merged book, none) ∨
        ∃ cause, (Handler.merged book).receive product frame = .error cause)) := by
  unfold BookChange.ofFrame? receive
  cases Notification.ofFrame frame with
  | error cause => exact Or.inr ⟨rfl, Or.inr ⟨cause, rfl⟩⟩
  | ok n? =>
    cases n? with
    | none => exact Or.inr ⟨rfl, Or.inl rfl⟩
    | some n => exact accept_merged product book n

/-! ## A course of events -/

/-- What some events show of a merged board that starts from a book. -/
structure Merges (product : ProductCode) (book : OrderBook) (events : List StreamEvent)
    (after : Handler) : Prop where
  handler : after = .merged (book.changes (BookChange.ofEvents product events))
  /-- There is one update for each change, and it shows the book after the change. -/
  updates : StreamEvent.updates events =
    (book.boards (BookChange.ofEvents product events)).map .board
  /-- No update is ahead of the changes or behind them. -/
  current : ∀ before update rest, events = before ++ .delivered update :: rest →
    update = .board (book.changes (BookChange.ofEvents product before)).view

namespace Merges

variable {product : ProductCode} {book : OrderBook} {after : Handler}
  {events : List StreamEvent}

theorem nil (product : ProductCode) (book : OrderBook) :
    Merges product book [] (.merged book) where
  handler := rfl
  updates := rfl
  current before update rest h := by
    cases before <;> cases h

/-- An event that is neither a frame nor an update changes nothing. -/
theorem quiet {e : StreamEvent} (he : e.IsQuiet) (h : Merges product book events after) :
    Merges product book (e :: events) after := by
  have hpublished (rest : List StreamEvent) :
      BookChange.ofEvents product (e :: rest) = BookChange.ofEvents product rest := by
    cases e <;> first | rfl | exact he.elim
  refine ⟨by rw [hpublished]; exact h.handler, ?_, ?_⟩
  · rw [hpublished, ← h.updates]
    cases e <;> first | rfl | exact he.elim
  · intro before update rest heq
    cases before with
    | nil =>
      obtain ⟨rfl, -⟩ := List.cons.inj heq
      exact he.elim
    | cons e' before =>
      obtain ⟨rfl, htail⟩ := List.cons.inj heq
      rw [hpublished]
      exact h.current before update rest htail

/-- A frame that publishes nothing changes nothing, be it passed over or refused. -/
theorem received_none {frame : String} (hframe : BookChange.ofFrame? product frame = none)
    (h : Merges product book events after) :
    Merges product book (.received frame :: events) after := by
  have hpublished (rest : List StreamEvent) :
      BookChange.ofEvents product (.received frame :: rest) =
        BookChange.ofEvents product rest :=
    List.filterMap_cons_none hframe
  refine ⟨by rw [hpublished]; exact h.handler, by rw [hpublished]; exact h.updates, ?_⟩
  intro before update rest heq
  cases before with
  | nil => cases heq
  | cons e' before =>
    obtain ⟨rfl, htail⟩ := List.cons.inj heq
    rw [hpublished]
    exact h.current before update rest htail

/-- A frame that publishes a change moves the book, and the book is shown at once. -/
theorem received_some {frame : String} {c : BookChange}
    (hframe : BookChange.ofFrame? product frame = some c)
    (h : Merges product (book.change c) events after) :
    Merges product book
      (.received frame :: .delivered (.board (book.change c).view) :: events) after := by
  have hpublished (rest : List StreamEvent) :
      BookChange.ofEvents product (.received frame :: rest) =
        c :: BookChange.ofEvents product rest :=
    List.filterMap_cons_some hframe
  have hshown (update : Update) (rest : List StreamEvent) :
      BookChange.ofEvents product (.delivered update :: rest) =
        BookChange.ofEvents product rest := rfl
  refine ⟨by rw [hpublished, hshown]; exact h.handler, ?_, ?_⟩
  · rw [hpublished, hshown, OrderBook.boards_cons, List.map_cons, ← h.updates]
    rfl
  · intro before update rest heq
    rcases before with _ | ⟨e₁, _ | ⟨e₂, before⟩⟩
    · cases heq
    · obtain ⟨rfl, htail⟩ := List.cons.inj heq
      obtain ⟨hupdate, -⟩ := List.cons.inj htail
      rw [← StreamEvent.delivered.inj hupdate, hpublished]
      rfl
    · obtain ⟨rfl, htail⟩ := List.cons.inj heq
      obtain ⟨rfl, hevents⟩ := List.cons.inj htail
      rw [hpublished, hshown]
      exact h.current before update rest hevents

end Merges

/-- Whatever handles frames as a merged board shows the published changes. -/
theorem Handled.merges {product : ProductCode} {book : OrderBook} {events : List StreamEvent}
    {after : Handler} (h : Handled product (.merged book) events after) :
    Merges product book events after := by
  generalize hstart : Handler.merged book = start at h
  induction h generalizing book with
  | nil =>
    rw [← hstart]
    exact Merges.nil product book
  | quiet he _ ih => exact (ih hstart).quiet he
  | accepted hframe _ ih =>
    rw [← hstart] at hframe
    rcases Handler.receive_merged product book _ with ⟨c, hc, hok⟩ | ⟨hnone, hok | ⟨cause, hfail⟩⟩
    · rw [hframe] at hok
      injection hok with hok
      obtain ⟨rfl, rfl⟩ := Prod.mk.inj hok
      exact Merges.received_some hc (ih rfl)
    · rw [hframe] at hok
      injection hok with hok
      obtain ⟨rfl, rfl⟩ := Prod.mk.inj hok
      exact Merges.received_none hnone (ih rfl)
    · rw [hframe] at hfail
      cases hfail
  | refused hframe _ ih =>
    rw [← hstart] at hframe
    rcases Handler.receive_merged product book _ with ⟨c, -, hok⟩ | ⟨hnone, -⟩
    · rw [hframe] at hok
      cases hok
    · exact (ih hstart).received_none hnone

namespace Feed

variable {σ : Type}

/-- **A merged board is the fold of what was published.**  Over any run of its feed, with any
seed, on any number of connections and however they fail, a merged board delivers one board
for each change of its product that was published among the frames received; that board is
the seed moved by the changes received till then, and so is the book that is kept. -/
theorem boards_delivered (t : Transport σ) (m : Manager) (config : ConnectionConfig)
    (product : ProductCode) (seed : Board) (ms : List (FeedMove σ)) :
    let book := OrderBook.ofSnapshot seed
    let feed : Feed σ := ⟨m, .ofHandler product (.merged book) config, none⟩
    let events := (feed.run t ms).2
    StreamEvent.updates events =
        (book.boards (BookChange.ofEvents product events)).map .board ∧
      (∀ before update rest, events = before ++ .delivered update :: rest →
        update = .board (book.changes (BookChange.ofEvents product before)).view) ∧
      (feed.run t ms).1.subscriber.handler =
        .merged (book.changes (BookChange.ofEvents product events)) := by
  intro book feed events
  have h : Merges product book events (feed.run t ms).1.subscriber.handler :=
    (handled_run t feed ms).merges
  exact ⟨h.updates, h.current, h.handler⟩

end Feed
end ExchangeClient

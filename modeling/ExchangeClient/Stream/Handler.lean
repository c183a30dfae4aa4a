import ExchangeClient.Book.Basic
import ExchangeClient.Error
import ExchangeClient.Stream.Notification

/-!
# Handlers

A handler turns the frames of one stream into updates.  It has topics of its own,
reads the messages published under them, and passes over everything else: foreign
topics are passed over before their messages are looked at.

A merged board is the one handler with a memory, the book, and the one with two
topics.  A message under the snapshot topic replaces the book and a message under
the board topic is folded into it; what is delivered is the whole book.  The two
topics of a product differ (`boardTopic_ne_snapshotTopic`), so no message is read as
both.
-/

namespace ExchangeClient

/-- What a stream delivers. -/
inductive Update where
  | ticker (ticker : Ticker)
  | board (board : Board)
  | executions (executions : List Execution)

/-- How the messages of a stream are handled. -/
inductive Handler where
  | ticker
  | boardSnapshot
  /-- Differences of the board, delivered as they come. -/
  | board
  /-- Differences of the board, folded into a book. -/
  | merged (book : OrderBook)
  | executions

namespace Handler

/-- The kind of stream that a handler serves. -/
def kind : Handler → StreamKind
  | .ticker => .ticker
  | .boardSnapshot => .boardSnapshot
  | .board | .merged _ => .board
  | .executions => .executions

/-- The topics that a handler listens on, in the order in which it asks for them. -/
def topics (h : Handler) (product : ProductCode) : List String :=
  match h with
  | .merged _ => [StreamKind.board.topic product, StreamKind.boardSnapshot.topic product]
  | h => [h.kind.topic product]

/-- The value that a message writes. -/
def payload {α : Type} [Wire α] (message : Json) : Except Json.DecodeError α :=
  (Wire.ofJson message).mapError .mismatch

/-- The handler after a message, and what it delivers. -/
def accept (h : Handler) (product : ProductCode) (n : Notification) :
    Except Json.DecodeError (Handler × Option Update) :=
  match h with
  | .merged book =>
    if n.channel = StreamKind.boardSnapshot.topic product then do
      let after := book.replace (← payload n.message)
      return (.merged after, some (.board after.view))
    else if n.channel = StreamKind.board.topic product then do
      let after := book.applyDiff (← payload n.message)
      return (.merged after, some (.board after.view))
    else .ok (h, none)
  | .ticker =>
    if n.channel = StreamKind.ticker.topic product then do
      return (h, some (.ticker (← payload n.message)))
    else .ok (h, none)
  | .boardSnapshot =>
    if n.channel = StreamKind.boardSnapshot.topic product then do
      return (h, some (.board (← payload n.message)))
    else .ok (h, none)
  | .board =>
    if n.channel = StreamKind.board.topic product then do
      return (h, some (.board (← payload n.message)))
    else .ok (h, none)
  | .executions =>
    if n.channel = StreamKind.executions.topic product then do
      return (h, some (.executions (← payload n.message)))
    else .ok (h, none)

/-- The handler after a frame, and what it delivers.  A frame without a message changes
nothing. -/
def receive (h : Handler) (product : ProductCode) (frame : String) :
    Except Json.DecodeError (Handler × Option Update) := do
  match ← Notification.ofFrame frame with
  | some n => h.accept product n
  | none => .ok (h, none)

/-- A frame without a message changes nothing. -/
theorem receive_of_ofFrame_none {h : Handler} {product : ProductCode} {frame : String}
    (hf : Notification.ofFrame frame = .ok none) : h.receive product frame = .ok (h, none) := by
  rw [receive, hf]
  rfl

end Handler

/-- The two topics of a merged board differ. -/
theorem boardTopic_ne_snapshotTopic (product : ProductCode) :
    StreamKind.board.topic product ≠ StreamKind.boardSnapshot.topic product := by
  intro h
  have := congrArg String.length h
  simp only [StreamKind.topic, String.length_append] at this
  have h1 : StreamKind.board.topicStem.length = 16 := by decide
  have h2 : StreamKind.boardSnapshot.topicStem.length = 25 := by decide
  omega

end ExchangeClient

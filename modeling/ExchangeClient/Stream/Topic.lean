import ExchangeClient.Order.Terms

/-!
# Streams and topics

A stream is a product together with a kind of feed, and the exchange publishes each
stream under a topic: a text that starts with the kind's own words and ends with
the product code.  The words of the snapshot feed continue those of the board
feed, so a product code that starts with `snapshot_` can give a board topic the
name of another product's snapshot topic.  No two other topics coincide.
-/

namespace ExchangeClient

/-- What a feed carries. -/
inductive StreamKind where
  | ticker
  | boardSnapshot
  | board
  | executions
  deriving Repr, DecidableEq

namespace StreamKind

/-- The words that topics of a kind start with. -/
def topicStem : StreamKind → String
  | .ticker => "lightning_ticker_"
  | .boardSnapshot => "lightning_board_snapshot_"
  | .board => "lightning_board_"
  | .executions => "lightning_executions_"

/-- The short name of a kind. -/
def name : StreamKind → String
  | .ticker => "ticker"
  | .boardSnapshot => "board_snapshot"
  | .board => "board"
  | .executions => "executions"

/-- The topic under which a product is published. -/
def topic (kind : StreamKind) (product : ProductCode) : String :=
  kind.topicStem ++ product

end StreamKind

/-- A stream: at most one runs for each key. -/
structure ChannelKey where
  productCode : ProductCode
  kind : StreamKind
  deriving Repr, DecidableEq

namespace ChannelKey

/-- The topic of a stream. -/
def topic (key : ChannelKey) : String :=
  key.kind.topic key.productCode

/-- How a stream is named in messages. -/
def text (key : ChannelKey) : String :=
  key.productCode ++ "/" ++ key.kind.name

end ChannelKey

end ExchangeClient

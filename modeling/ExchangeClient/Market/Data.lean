import ExchangeClient.Order.Terms

/-!
# Market data

What anyone may ask of the exchange: which markets there are, the order board of a
product, its ticker, its latest executions, and whether trading runs.  Boards,
tickers and executions are also what the real-time channels deliver.
-/

namespace ExchangeClient

/-- A market of the exchange. -/
structure Market where
  productCode : ProductCode
  /-- Another code for the same product. -/
  otherCode : Option ProductCode
  marketType : Option String

instance : Wire Market where
  shape := .record "Market" <|
    .cons "product_code" .required .text <|
    .cons "alias" .trailing (.optional .text) <|
    .cons "market_type" .trailing (.optional .text) <|
    .nil
  toValue x := (x.productCode, x.otherCode, x.marketType, ())
  ofValue := fun (productCode, otherCode, marketType, _) =>
    ⟨productCode, otherCode, marketType⟩
  ofValue_toValue _ := rfl
  toValue_ofValue _ := rfl

/-- One price level of one side of a board. -/
structure BoardLevel where
  price : Decimal
  size : Decimal

instance : Wire BoardLevel where
  shape := .record "BoardLevel" <|
    .cons "price" .required .decimal <|
    .cons "size" .required .decimal <|
    .nil
  toValue x := (x.price, x.size, ())
  ofValue := fun (price, size, _) =>
    ⟨price, size⟩
  ofValue_toValue _ := rfl
  toValue_ofValue _ := rfl

/-- The order board of a product.  As a snapshot it is the whole board, bids from the
highest price down and asks from the lowest up.  As a difference it lists the levels
that changed, where a size of zero removes a level. -/
structure Board where
  midPrice : Decimal
  bids : List BoardLevel
  asks : List BoardLevel

instance : Wire Board where
  shape := .record "Board" <|
    .cons "mid_price" .required .decimal <|
    .cons "bids" .defaulted (.list (Wire.shape BoardLevel)) <|
    .cons "asks" .defaulted (.list (Wire.shape BoardLevel)) <|
    .nil
  toValue x := (x.midPrice, x.bids.map Wire.toValue, x.asks.map Wire.toValue, ())
  ofValue := fun (midPrice, bids, asks, _) =>
    ⟨midPrice, bids.map Wire.ofValue, asks.map Wire.ofValue⟩
  ofValue_toValue x := by simp [Wire.ofValue_toValue, Function.comp_def]
  toValue_ofValue _ := by simp [Wire.toValue_ofValue, Function.comp_def]

/-- The highest bid. -/
def Board.bestBid? (b : Board) : Option BoardLevel := b.bids.head?

/-- The lowest ask. -/
def Board.bestAsk? (b : Board) : Option BoardLevel := b.asks.head?

/-- A board with no levels. -/
def Board.empty : Board := ⟨.zero, [], []⟩

/-- The state of a product after a trade or a change of its best prices. -/
structure Ticker where
  productCode : ProductCode
  timestamp : String
  tickId : Int64
  bestBid : Decimal
  bestAsk : Decimal
  bestBidSize : Decimal
  bestAskSize : Decimal
  totalBidDepth : Decimal
  totalAskDepth : Decimal
  /-- The price of the last trade. -/
  ltp : Decimal
  volume : Decimal
  volumeByProduct : Decimal

instance : Wire Ticker where
  shape := .record "Ticker" <|
    .cons "product_code" .required .text <|
    .cons "timestamp" .required .text <|
    .cons "tick_id" .required (.integer .signed64) <|
    .cons "best_bid" .required .decimal <|
    .cons "best_ask" .required .decimal <|
    .cons "best_bid_size" .required .decimal <|
    .cons "best_ask_size" .required .decimal <|
    .cons "total_bid_depth" .required .decimal <|
    .cons "total_ask_depth" .required .decimal <|
    .cons "ltp" .required .decimal <|
    .cons "volume" .required .decimal <|
    .cons "volume_by_product" .required .decimal <|
    .nil
  toValue x := (x.productCode, x.timestamp, x.tickId, x.bestBid, x.bestAsk, x.bestBidSize,
    x.bestAskSize, x.totalBidDepth, x.totalAskDepth, x.ltp, x.volume, x.volumeByProduct, ())
  ofValue := fun (productCode, timestamp, tickId, bestBid, bestAsk, bestBidSize, bestAskSize,
    totalBidDepth, totalAskDepth, ltp, volume, volumeByProduct, _) =>
    ⟨productCode, timestamp, tickId, bestBid, bestAsk, bestBidSize, bestAskSize, totalBidDepth,
      totalAskDepth, ltp, volume, volumeByProduct⟩
  ofValue_toValue _ := rfl
  toValue_ofValue _ := rfl

/-- A trade. -/
structure Execution where
  id : Int64
  /-- Empty for trades matched in an auction. -/
  side : String
  price : Decimal
  size : Decimal
  execDate : String
  buyChildOrderAcceptanceId : String
  sellChildOrderAcceptanceId : String

instance : Wire Execution where
  shape := .record "Execution" <|
    .cons "id" .required (.integer .signed64) <|
    .cons "side" .required .text <|
    .cons "price" .required .decimal <|
    .cons "size" .required .decimal <|
    .cons "exec_date" .required .text <|
    .cons "buy_child_order_acceptance_id" .required .text <|
    .cons "sell_child_order_acceptance_id" .required .text <|
    .nil
  toValue x := (x.id, x.side, x.price, x.size, x.execDate, x.buyChildOrderAcceptanceId,
    x.sellChildOrderAcceptanceId, ())
  ofValue := fun (id, side, price, size, execDate, buyChildOrderAcceptanceId,
    sellChildOrderAcceptanceId, _) =>
    ⟨id, side, price, size, execDate, buyChildOrderAcceptanceId, sellChildOrderAcceptanceId⟩
  ofValue_toValue _ := rfl
  toValue_ofValue _ := rfl

/-- What an auction has found so far. -/
structure BoardStateData where
  specialQuotation : Decimal

instance : Wire BoardStateData where
  shape := .record "BoardStateData" <|
    .cons "special_quotation" .required .decimal <|
    .nil
  toValue x := (x.specialQuotation, ())
  ofValue := fun (specialQuotation, _) =>
    ⟨specialQuotation⟩
  ofValue_toValue _ := rfl
  toValue_ofValue _ := rfl

/-- Whether a product is traded, and how. -/
structure BoardState where
  health : String
  state : String
  data : Option BoardStateData

instance : Wire BoardState where
  shape := .record "BoardState" <|
    .cons "health" .required .text <|
    .cons "state" .required .text <|
    .cons "data" .trailing (.optional (Wire.shape BoardStateData)) <|
    .nil
  toValue x := (x.health, x.state, x.data.map Wire.toValue, ())
  ofValue := fun (health, state, data, _) =>
    ⟨health, state, data.map Wire.ofValue⟩
  ofValue_toValue x := by simp [Wire.ofValue_toValue, Function.comp_def]
  toValue_ofValue _ := by simp [Wire.toValue_ofValue, Function.comp_def]

/-- How busy the exchange is. -/
structure Health where
  status : String

instance : Wire Health where
  shape := .record "Health" <|
    .cons "status" .required .text <|
    .nil
  toValue x := (x.status, ())
  ofValue := fun (status, _) =>
    ⟨status⟩
  ofValue_toValue _ := rfl
  toValue_ofValue _ := rfl

/-- An entry of the public chat. -/
structure Chat where
  nickname : String
  message : String
  date : String

instance : Wire Chat where
  shape := .record "Chat" <|
    .cons "nickname" .required .text <|
    .cons "message" .required .text <|
    .cons "date" .required .text <|
    .nil
  toValue x := (x.nickname, x.message, x.date, ())
  ofValue := fun (nickname, message, date, _) =>
    ⟨nickname, message, date⟩
  ofValue_toValue _ := rfl
  toValue_ofValue _ := rfl

end ExchangeClient

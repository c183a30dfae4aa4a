import ExchangeClient.Runner.LogFilter
import ExchangeClient.Stream.Subscriber

/-!
# The runner's log

What the runner tells about itself and about the updates it receives.  An event has a
message and fields; it is written as one line, the fields behind the message in the
order in which they are listed.
-/

namespace ExchangeClient

/-- An event of the log. -/
structure LogEvent where
  /-- The part of the program that speaks. -/
  target : String
  message : String
  fields : List (String × String)
  deriving Repr, DecidableEq

namespace LogEvent

/-- The message and the fields. -/
def body (e : LogEvent) : String :=
  " ".intercalate (e.message :: e.fields.map fun (name, value) => name ++ "=" ++ value)

/-- The line of an event, without the time. -/
def line (e : LogEvent) : String := "INFO " ++ e.target ++ ": " ++ e.body

/-- Whether a filter lets an event pass. -/
def passes (e : LogEvent) (f : LogFilter) : Bool :=
  f.enables .info e.target ("message" :: e.fields.map (·.1))

/-- The part of the program that speaks about a run. -/
def runTarget : String := "bitflyer_stream"

/-- The part of the program that speaks about updates. -/
def updateTarget : String := "bitflyer_stream::runner"

/-- The settings were read. -/
def configurationLoaded (endpoint : String) (streams : Nat) : LogEvent :=
  ⟨runTarget, "configuration loaded",
    [("endpoint", endpoint), ("stream_count", toString streams)]⟩

/-- Nothing but the settings was to be looked at. -/
def dryRun : LogEvent := ⟨runTarget, "dry-run requested; configuration validated", []⟩

/-- The key was accepted. -/
def credentialsVerified (endpoints : Nat) : LogEvent :=
  ⟨runTarget, "API credentials verified", [("endpoints", toString endpoints)]⟩

/-- All streams were started. -/
def streamsStarted : LogEvent := ⟨runTarget, "streams started", []⟩

/-- A shutdown was asked for. -/
def shutdownRequested : LogEvent := ⟨runTarget, "shutdown requested", []⟩

/-- What a stream has delivered in all. -/
def streamSummary (key : ChannelKey) (updates : Nat) : LogEvent :=
  ⟨runTarget, "stream summary", [("channel", key.text), ("updates", toString updates)]⟩

/-- The run is over, and no connection was given up. -/
def shutdownComplete : LogEvent := ⟨runTarget, "shutdown complete", []⟩

/-- A number that may be missing. -/
def maybe (d : Option Decimal) : String :=
  match d with
  | some d => "Some(" ++ d.toText ++ ")"
  | none => "None"

/-- An update was received. -/
def update (key : ChannelKey) : Update → LogEvent
  | .ticker t =>
    ⟨updateTarget, "ticker",
      [("product_code", key.productCode), ("tick_id", toString t.tickId.toInt),
       ("best_bid", t.bestBid.toText), ("best_ask", t.bestAsk.toText), ("ltp", t.ltp.toText)]⟩
  | .board b =>
    ⟨updateTarget, "board",
      [("product_code", key.productCode), ("kind", key.kind.name),
       ("mid_price", b.midPrice.toText), ("best_bid", maybe (b.bestBid?.map BoardLevel.price)),
       ("best_ask", maybe (b.bestAsk?.map BoardLevel.price)),
       ("bids", toString b.bids.length), ("asks", toString b.asks.length)]⟩
  | .executions es =>
    ⟨updateTarget, "executions",
      [("product_code", key.productCode), ("count", toString es.length),
       ("last_price", maybe (es.getLast?.map Execution.price))]⟩

end LogEvent
end ExchangeClient

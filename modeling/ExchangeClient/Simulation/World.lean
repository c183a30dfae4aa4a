import ExchangeClient.Feed.Basic
import ExchangeClient.Feed.Client
import ExchangeClient.Runner.Accounts
import ExchangeClient.Simulation.Exchange

/-!
# Simulated runs

A client with its streams, the exchange they talk to, and the runner's accounts, moved
forward deterministically.  In a *turn* every stream does all it can without waiting,
the oldest stream first, and after that every monitor looks at its stream once.  What
then still moves waits for the end of a retry wait; all of these waits are equally
long, and `settle` lets a number of them pass with a turn after each.

For an observer each stream keeps the series of its dials: one for the start and one
for each session that has failed.
-/

namespace ExchangeClient

/-- The dials up to a connection or to the end. -/
structure DialSeries where
  /-- How many dials the exchange saw. -/
  dials : Nat
  /-- What was sent at once on the connection that the dials led to, if they did. -/
  frames : Option (List String)
  deriving Repr, DecidableEq

/-- A stream under observation. -/
structure ObservedFeed where
  feed : Feed Link
  /-- The series of dials, the oldest first. -/
  series : List DialSeries

/-- What a stopped stream sent on its connection before it was closed. -/
structure Farewell where
  frames : List String
  deriving Repr, DecidableEq

namespace ObservedFeed

/-- Puts a stream that was just started under observation. -/
def ofFeed (feed : Feed Link) : ObservedFeed := ⟨feed, [⟨0, none⟩]⟩

/-- The stream with a change of its last series. -/
def noteSeries (o : ObservedFeed) (change : DialSeries → DialSeries) : ObservedFeed :=
  { o with series := o.series.dropLast ++ (o.series.getLast?.map change).toList }

/-- How many steps the subscriber of a stream can make before it waits: one for each
control frame and each frame to read, and a few of its own. -/
def stepBound (f : Feed Link) : Nat :=
  f.subscriber.mailbox.length + (f.link.map fun l => l.incoming.length).getD 0 + 4

/-- The stream after all that it can do on its connection without waiting. -/
def work (o : ObservedFeed) : ObservedFeed × List StreamEvent :=
  let wasConnected := o.feed.link.isSome
  let (feed, events) := o.feed.steps Link.transport (stepBound o.feed)
  let o := { o with feed }
  if wasConnected && feed.link.isNone then ({ o with series := o.series ++ [⟨0, none⟩] }, events)
  else (o, events)

/-- The stream after a turn. -/
def turn (config : RealtimeConfig) (o : ObservedFeed) (ex : Exchange) :
    ObservedFeed × Exchange × List StreamEvent :=
  if o.feed.wantsDial then
    let dial := ex.dial config.endpoint config.headers
    let o := { o with feed := o.feed.answerDial dial.outcome }
    let o := o.noteSeries fun s => { s with dials := s.dials + if dial.isSeen then 1 else 0 }
    let isConnected := o.feed.link.isSome
    let (o, events) := o.work
    let sent := (StreamEvent.sentFrames events).map Wire.toText
    let o := if isConnected then o.noteSeries fun s => { s with frames := some sent } else o
    (o, dial.exchange, events)
  else
    let (o, events) := o.work
    (o, ex, events)

/-- Stops a stream. -/
def stop (o : ObservedFeed) : Option Farewell :=
  let before := (o.feed.link.map fun l => l.received.length).getD 0
  (o.feed.stop Link.transport).2.map fun l => ⟨l.received.drop before⟩

end ObservedFeed

/-- What a stream has delivered. -/
structure Delivery where
  key : ChannelKey
  update : Update

/-- A client with its streams, the exchange, and the runner's accounts. -/
structure World where
  exchange : Exchange
  client : FeedClient ObservedFeed
  accounts : Accounts

namespace World

/-- A world in which nothing has happened. -/
def ofClient (client : FeedClient ObservedFeed) (exchange : Exchange) : World :=
  ⟨exchange, client, .empty⟩

/-- A turn of some streams, one after the other. -/
def turnStreams (config : RealtimeConfig) :
    List (ChannelKey × ObservedFeed) → Exchange →
      List (ChannelKey × ObservedFeed) × Exchange × List Delivery
  | [], ex => ([], ex, [])
  | (key, o) :: rest, ex =>
    let (o, ex, events) := o.turn config ex
    let (rest, ex, more) := turnStreams config rest ex
    ((key, o) :: rest, ex, (StreamEvent.updates events).map (⟨key, ·⟩) ++ more)

/-- The world after every monitor has looked at its stream. -/
def look (w : World) : World :=
  { w with
    accounts := w.client.streams.foldl
      (fun a (key, o) => a.look key o.feed.manager.state) w.accounts }

/-- The world after a turn, and what was delivered. -/
def turn (w : World) : World × List Delivery :=
  let (streams, exchange, deliveries) := turnStreams w.client.config w.client.streams w.exchange
  let accounts := deliveries.foldl (fun a d => a.deliver d.key 1) w.accounts
  ({ exchange, accounts, client := { w.client with streams } : World }.look, deliveries)

/-- The world after the waits of all streams are over. -/
def wake (w : World) : World :=
  { w with
    client := { w.client with
      streams := w.client.streams.map fun (key, o) => (key, { o with feed := o.feed.wake }) } }

/-- Whether any stream waits before it dials again. -/
def isWaiting (w : World) : Bool := w.client.streams.any fun (_, o) => o.feed.isWaiting

/-- The world after a turn and, as long as any stream waits, a number of waits with a turn
after each. -/
def settle : Nat → World → World × List Delivery
  | 0, w => w.turn
  | waits + 1, w =>
    let (w, deliveries) := w.turn
    if w.isWaiting then
      let (w, more) := settle waits w.wake
      (w, deliveries ++ more)
    else (w, deliveries)

/-- How many retry waits end within a time; no wait is shorter than a millisecond. -/
def waitsWithin (w : World) (time : Duration) : Nat :=
  let wait := max w.client.config.connection.retryWait.nanos (Duration.ofMillis 1).nanos
  (time.nanos - 1) / wait

/-- Fetches what a stream starts from; the other streams have a turn while the reply is on
its way. -/
def fetchHandler (w : World) (spec : StreamSpec) : Except ClientError Handler × World :=
  if !spec.isMerged then (.ok (FeedClient.plainHandler spec.kind), w)
  else
    match w.client.seedCalls spec.key with
    | .error cause => (.error cause, w)
    | .ok calls =>
      let (answer, exchange) := w.exchange.ask calls "" (.board spec.productCode)
      let w := { w with exchange }.turn.1
      match answer with
      | .error cause => (.error cause, w)
      | .ok v => (.ok (.merged (.ofSnapshot (Wire.ofValue v))), w)

/-- Starts a stream. -/
def start (w : World) (spec : StreamSpec) : Except ClientError Unit × World :=
  match w.fetchHandler spec with
  | (.error cause, w) => (.error cause, w)
  | (.ok handler, w) =>
    let subscriber := Subscriber.ofHandler spec.productCode handler w.client.config.connection
    let feed := (Feed.start w.client.config subscriber).map ObservedFeed.ofFeed
    match w.client.enter spec.key feed with
    | .error cause => (.error cause, w)
    | .ok client => (.ok (), { w with client })

/-- Stops a stream. -/
def stop (w : World) (key : ChannelKey) : Except ClientError (Option Farewell) × World :=
  match w.client.take key with
  | .error cause => (.error cause, w)
  | .ok (o, client) =>
    (.ok o.stop, { w with client, accounts := w.accounts.look key .stopped })

/-- Stops all streams, and shows the farewells of those that had a connection. -/
def stopAll (w : World) : List (ChannelKey × Farewell) × World :=
  (w.client.streams.filterMap fun (key, o) => o.stop.map (key, ·),
    { w with
      client := { w.client with streams := [] }
      accounts := w.client.streams.foldl (fun a (key, _) => a.look key .stopped) w.accounts })

/-- The connection of a stream, if it has one. -/
def link? (w : World) (key : ChannelKey) : Option Link :=
  (w.client.find? key).bind fun o => o.feed.link

/-- The world with a change of the connection of a stream. -/
def changeLink (w : World) (key : ChannelKey) (change : Link → Link) : World :=
  let changed (entry : ChannelKey × ObservedFeed) : ChannelKey × ObservedFeed :=
    if entry.1 = key then
      (key, { entry.2 with feed := { entry.2.feed with link := entry.2.feed.link.map change } })
    else entry
  { w with client := { w.client with streams := w.client.streams.map changed } }

/-- The state that a stream has published last. -/
def state? (w : World) (key : ChannelKey) : Option ConnectionState :=
  (w.client.find? key).map fun o => o.feed.manager.state

/-- The series of dials of a stream. -/
def series (w : World) (key : ChannelKey) : List DialSeries :=
  ((w.client.find? key).map ObservedFeed.series).getD []

end World
end ExchangeClient

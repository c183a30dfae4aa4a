import ExchangeClient.Book.Basic
import ExchangeClient.Feed.Client
import ExchangeClient.Feed.Stopping

/-!
# Traffic of a feed client

Any number of calls may be under way on one client at the same time, while the workers of
its streams go on.  A `ClientCall` says what a call does next, and each move of the traffic
lets one call or one worker do one thing.

A call holds the registry of streams only for an instant.  A start looks whether its key is
taken and enters its stream in one go, and so does a stop look for its stream and take it
out.  What takes time comes to pass without the registry: a merged start looks at it, lets
go of it and fetches its seed before it comes back to enter, and a stop that has taken its
stream out declines the topics, asks the worker to stop and waits for its exit.

The feeds stay in the traffic when they are taken out, for their workers may go on; the
client knows a feed by its number.
-/

namespace ExchangeClient

/-- A call of a feed client, by what it does next. -/
inductive ClientCall where
  | starting (spec : StreamSpec)
  /-- The start of a merged board waits for its seed. -/
  | fetching (spec : StreamSpec)
  | seeded (spec : StreamSpec) (seed : Board)
  | stopping (key : ChannelKey)
  /-- A stop that has taken a feed out brings it to its end. -/
  | closing (n : Nat)
  | returned (result : Except ClientError Unit)

/-- A feed client with its calls and its feeds. -/
structure Traffic (σ : Type) where
  client : FeedClient Nat
  /-- Every feed that was started, the oldest first. -/
  feeds : List (StoppableFeed σ)
  calls : List ClientCall

/-- What happens to a feed client. -/
inductive TrafficMove (σ : Type) where
  | startCalled (spec : StreamSpec)
  | stopCalled (key : ChannelKey)
  /-- A call does what it does next. -/
  | advanced (i : Nat)
  /-- The request for a seed is answered. -/
  | answered (i : Nat) (reply : Except ClientError Board)
  /-- The worker of a feed makes a move. -/
  | worked (n : Nat) (m : FeedMove σ)

namespace Traffic

variable {σ : Type}

/-- A client on which nothing has been called. -/
def idle (config : RealtimeConfig) (calls : Option Client) : Traffic σ :=
  ⟨.ofConfig config calls, [], []⟩

/-- The traffic with a call brought further. -/
def settle (tr : Traffic σ) (i : Nat) (call : ClientCall) : Traffic σ :=
  { tr with calls := tr.calls.set i call }

/-- The traffic with a feed changed. -/
def changeFeed (tr : Traffic σ) (n : Nat) (change : StoppableFeed σ → StoppableFeed σ) :
    Traffic σ :=
  { tr with feeds := tr.feeds.modify n change }

/-! ## Calls -/

/-- Enters a stream and starts its feed, all in one go. -/
def launch (tr : Traffic σ) (product : ProductCode) (handler : Handler) :
    Except ClientError (Traffic σ) := do
  let subscriber := Subscriber.ofHandler product handler tr.client.config.connection
  let feed := Feed.start (σ := σ) tr.client.config subscriber
  let client ← tr.client.enter subscriber.key (feed.map fun _ => tr.feeds.length)
  return { tr with client, feeds := tr.feeds ++ [.ofFeed (← feed)] }

/-- A start that has its handler comes to its end. -/
def launchCall (tr : Traffic σ) (i : Nat) (product : ProductCode) (handler : Handler) :
    Traffic σ :=
  match tr.launch product handler with
  | .ok tr => tr.settle i (.returned (.ok ()))
  | .error cause => tr.settle i (.returned (.error cause))

/-- A start looks at the registry for the first time. -/
def startCall (tr : Traffic σ) (i : Nat) (spec : StreamSpec) : Traffic σ :=
  if spec.isMerged then
    match tr.client.seedCalls spec.key with
    | .ok _ => tr.settle i (.fetching spec)
    | .error cause => tr.settle i (.returned (.error cause))
  else tr.launchCall i spec.productCode (FeedClient.plainHandler spec.kind)

/-- A stop takes its stream out. -/
def stopCall (tr : Traffic σ) (i : Nat) (key : ChannelKey) : Traffic σ :=
  match tr.client.take key with
  | .ok (n, client) => { tr with client }.settle i (.closing n)
  | .error cause => tr.settle i (.returned (.error cause))

/-- A stop goes on with the feed that it has taken out, and returns when it is settled. -/
def closeCall (tr : Traffic σ) (i n : Nat) : Traffic σ :=
  if tr.feeds[n]?.any StoppableFeed.isSettled then
    (tr.changeFeed n .finish).settle i (.returned (.ok ()))
  else tr.changeFeed n .stopNext

/-- The traffic after a call has done what it does next. -/
def advance (tr : Traffic σ) (i : Nat) : Traffic σ :=
  match tr.calls[i]? with
  | some (.starting spec) => tr.startCall i spec
  | some (.seeded spec seed) => tr.launchCall i spec.productCode (.merged (.ofSnapshot seed))
  | some (.stopping key) => tr.stopCall i key
  | some (.closing n) => tr.closeCall i n
  | some (.fetching _) | some (.returned _) | none => tr

/-- The traffic after a request for a seed was answered. -/
def answer (tr : Traffic σ) (i : Nat) (reply : Except ClientError Board) : Traffic σ :=
  match tr.calls[i]? with
  | some (.fetching spec) =>
    match reply with
    | .ok seed => tr.settle i (.seeded spec seed)
    | .error cause => tr.settle i (.returned (.error cause))
  | _ => tr

/-! ## Moves -/

/-- The traffic after a move. -/
def move (t : Transport σ) (tr : Traffic σ) : TrafficMove σ → Traffic σ
  | .startCalled spec => { tr with calls := tr.calls ++ [.starting spec] }
  | .stopCalled key => { tr with calls := tr.calls ++ [.stopping key] }
  | .advanced i => tr.advance i
  | .answered i reply => tr.answer i reply
  | .worked n m => tr.changeFeed n fun f => (f.work t m).1

/-- The traffic after some moves. -/
def run (t : Transport σ) (tr : Traffic σ) (ms : List (TrafficMove σ)) : Traffic σ :=
  ms.foldl (move t) tr

@[simp] theorem run_nil (t : Transport σ) (tr : Traffic σ) : tr.run t [] = tr := rfl

@[simp] theorem run_cons (t : Transport σ) (tr : Traffic σ) (m : TrafficMove σ)
    (ms : List (TrafficMove σ)) : tr.run t (m :: ms) = (tr.move t m).run t ms := rfl

theorem run_append (t : Transport σ) (tr : Traffic σ) (ms more : List (TrafficMove σ)) :
    tr.run t (ms ++ more) = (tr.run t ms).run t more :=
  List.foldl_append

end Traffic
end ExchangeClient

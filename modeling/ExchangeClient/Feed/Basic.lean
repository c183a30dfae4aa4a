import ExchangeClient.Connection.Manager
import ExchangeClient.Stream.Subscriber

/-!
# Feeds

A feed is a stream in operation: the manager that keeps its connection up, the
subscriber that works on it, and the connection while there is one.  A feed moves
when its dial is answered, when its subscriber makes a step, and when it is stopped.

On a stop the feed first declines every topic, through the mailbox; then the worker
sees the request, the subscriber sends what is in the mailbox, and the connection is
closed.
-/

namespace ExchangeClient

/-- A feed over connections of type `σ`. -/
structure Feed (σ : Type) where
  manager : Manager
  subscriber : Subscriber
  /-- The connection, while the worker is in a session. -/
  link : Option σ

namespace Feed

variable {σ : Type}

/-- The key of a feed. -/
def key (f : Feed σ) : ChannelKey := f.subscriber.key

/-- Starts a feed. -/
def start (config : RealtimeConfig) (subscriber : Subscriber) : Except ClientError (Feed σ) := do
  let manager ← (Manager.ofConfig config.connection).start config.endpoint
  return ⟨manager, subscriber, none⟩

/-- Whether the feed wants to be dialled. -/
def wantsDial (f : Feed σ) : Bool := f.manager.phase? == some .dialing

/-- Whether the feed waits before it dials again. -/
def isWaiting (f : Feed σ) : Bool := f.manager.phase? == some .waiting

/-- The feed after its dial was answered. -/
def answerDial (f : Feed σ) : Except ClientError σ → Feed σ
  | .ok link => { f with manager := f.manager.react .dialed, link := some link }
  | .error _ => { f with manager := f.manager.react .dialFailed }

/-- The feed after its wait is over. -/
def wake (f : Feed σ) : Feed σ := { f with manager := f.manager.react .waited }

/-- The feed after its connection was torn down: the keepalive has exited, the connection
is closed, and the subscriptions are gone. -/
def leave (f : Feed σ) : Feed σ :=
  { manager := f.manager.reacts [.joined, .closed]
    subscriber := f.subscriber.disconnected
    link := none }

/-- The feed after a step of its subscriber, what the subscriber did, and whether it can
go on. -/
def step (t : Transport σ) (f : Feed σ) : Feed σ × List StreamEvent × Bool :=
  match f.link with
  | none => (f, [], false)
  | some link =>
    let turn := f.subscriber.step t link
    let after := { f with subscriber := turn.subscriber, link := some turn.link }
    match turn.ending with
    | .done => (after, turn.events, true)
    | .waiting => (after, turn.events, false)
    | .failed _ =>
      ({ after with manager := after.manager.react .sessionFailed }.leave, turn.events, false)

/-- Steps of the subscriber until it waits or fails, but no more than `fuel`. -/
def steps (t : Transport σ) : Nat → Feed σ → Feed σ × List StreamEvent
  | 0, f => (f, [])
  | fuel + 1, f =>
    match f.step t with
    | (f, events, true) =>
      let (f, more) := steps t fuel f
      (f, events ++ more)
    | (f, events, false) => (f, events)

/-- The feed with every topic declined in its mailbox. -/
def decline (f : Feed σ) : Feed σ :=
  { f with
    subscriber := f.subscriber.topics.foldl (fun s topic => s.enqueue (.unsubscribe topic))
      f.subscriber }

/-- Stops a feed, and shows the connection as it was when it was closed. -/
def stop (t : Transport σ) (f : Feed σ) : Feed σ × Option σ :=
  let f := f.decline
  let f := { f with manager := f.manager.react .stopSeen }
  match f.link with
  | none => ({ f with manager := f.manager.finish }, none)
  | some link =>
    let turn := f.subscriber.flush t link
    let f := { f with subscriber := turn.subscriber }.leave
    ({ f with manager := f.manager.finish }, some turn.link)

end Feed
end ExchangeClient

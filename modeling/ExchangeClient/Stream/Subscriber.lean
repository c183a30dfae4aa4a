import ExchangeClient.Connection.Config
import ExchangeClient.Connection.Transport
import ExchangeClient.Stream.Handler

/-!
# Subscribers

A subscriber keeps a stream subscribed on whatever connection it is given.  It asks
for each topic of its handler, reads what is published and hands it to the handler;
control frames that were put into its mailbox go before everything else.  When a
connection is lost, so are its subscriptions, and the subscriber asks again on the
next one.

A subscriber does one `step` at a time.

* A control frame in the mailbox is taken and sent.
* Without one, a subscriber that holds no topic asks for all of its topics, in order;
  but once it has written an unsubscription it is *parked* and asks for nothing by
  itself until a subscription from the mailbox is written.
* A subscriber that holds a topic reads.

An unsubscription for a topic that is not held is dropped without being written.
Whatever fails, the subscriber then holds no topic: the connection is about to be
torn down.

A mailbox whose last sender is gone stays empty for ever.  The first step that waits
for it notices this and ends; after that the subscriber no longer looks, and so it
cannot spin.

Each step reports what it did as a list of `StreamEvent`s, in order.
-/

namespace ExchangeClient

/-- What a subscriber does. -/
inductive StreamEvent where
  /-- A control frame was taken from the mailbox. -/
  | took (frame : ControlFrame)
  /-- A taken frame was not worth sending. -/
  | dropped (frame : ControlFrame)
  | sent (frame : ControlFrame)
  | unsent (frame : ControlFrame) (cause : ClientError)
  | received (frame : String)
  | unread (cause : ClientError)
  | delivered (update : Update)

/-- The updates among some events, in order. -/
def StreamEvent.updates (events : List StreamEvent) : List Update :=
  events.filterMap fun
    | .delivered update => some update
    | _ => none

/-- The frames that were sent, in order. -/
def StreamEvent.sentFrames (events : List StreamEvent) : List ControlFrame :=
  events.filterMap fun
    | .sent frame => some frame
    | _ => none

/-- The frames that were taken from the mailbox, in order. -/
def StreamEvent.takenFrames (events : List StreamEvent) : List ControlFrame :=
  events.filterMap fun
    | .took frame => some frame
    | _ => none

/-- A subscriber. -/
structure Subscriber where
  product : ProductCode
  handler : Handler
  /-- The topics that are subscribed on the present connection. -/
  held : List String
  /-- Set once an unsubscription is written: nothing is asked for by itself. -/
  parked : Bool
  /-- Control frames that wait to be sent, the oldest first. -/
  mailbox : List ControlFrame
  /-- Whether no one can put anything into the mailbox any more. -/
  orphaned : Bool
  /-- Whether the subscriber still looks at the mailbox when it has nothing else to do. -/
  listening : Bool
  readTimeout : Duration

/-- How a step ended. -/
inductive StepEnd where
  | done
  | failed (cause : ClientError)
  /-- The step waits: for the mailbox, for the other side, or to be given up. -/
  | waiting
  deriving Repr

/-- What a step did. -/
structure Turn (σ : Type) where
  subscriber : Subscriber
  link : σ
  events : List StreamEvent
  ending : StepEnd

namespace Subscriber

/-- A new subscriber. -/
def ofHandler (product : ProductCode) (handler : Handler) (config : ConnectionConfig) :
    Subscriber :=
  { product, handler, held := [], parked := false, mailbox := [], orphaned := false,
    listening := true, readTimeout := config.readTimeout }

/-- The topics of the stream. -/
def topics (s : Subscriber) : List String := s.handler.topics s.product

/-- The key of the stream. -/
def key (s : Subscriber) : ChannelKey := ⟨s.product, s.handler.kind⟩

/-- Whether any topic is held. -/
def isSubscribed (s : Subscriber) : Bool := !s.held.isEmpty

/-- The subscriber with a control frame put into its mailbox. -/
def enqueue (s : Subscriber) (frame : ControlFrame) : Subscriber :=
  { s with mailbox := s.mailbox ++ [frame] }

/-- The subscriber after its connection is gone. -/
def disconnected (s : Subscriber) : Subscriber := { s with held := [] }

/-- The subscriber after a frame was written. -/
def noteSent (s : Subscriber) (frame : ControlFrame) : Subscriber :=
  match frame.method with
  | .subscribe => { s with held := s.held.insert frame.channel, parked := false }
  | .unsubscribe => { s with held := s.held.filter (· ≠ frame.channel), parked := true }

variable {σ : Type}

/-- Sends a control frame, unless it declines a topic that is not held. -/
def send (t : Transport σ) (s : Subscriber) (link : σ) (frame : ControlFrame) : Turn σ :=
  if frame.method = .unsubscribe ∧ frame.channel ∉ s.held then
    ⟨s, link, [.dropped frame], .done⟩
  else
    match t.write link frame with
    | (.done (), link) => ⟨s.noteSent frame, link, [.sent frame], .done⟩
    | (.failed cause, link) => ⟨s.disconnected, link, [.unsent frame cause], .failed cause⟩
    | (.unfinished, link) => ⟨s, link, [], .waiting⟩

/-- Asks for each of some topics that is not held yet, up to the first that fails. -/
def subscribe (t : Transport σ) : List String → Subscriber → σ → Turn σ
  | [], s, link => ⟨s, link, [], .done⟩
  | topic :: topics, s, link =>
    if topic ∈ s.held then subscribe t topics s link
    else
      let turn := s.send t link (.subscribe topic)
      match turn.ending with
      | .done =>
        let next := subscribe t topics turn.subscriber turn.link
        { next with events := turn.events ++ next.events }
      | _ => turn

/-- Takes the oldest control frame and sends it. -/
def sendNext (t : Transport σ) (s : Subscriber) (link : σ) (frame : ControlFrame)
    (rest : List ControlFrame) : Turn σ :=
  let turn := { s with mailbox := rest }.send t link frame
  { turn with events := .took frame :: turn.events }

/-- Hands a frame that was read to the handler. -/
def receive (s : Subscriber) (link : σ) (frame : String) : Turn σ :=
  match s.handler.receive s.product frame with
  | .ok (handler, update) =>
    ⟨{ s with handler }, link, .received frame :: (update.map StreamEvent.delivered).toList, .done⟩
  | .error cause => ⟨s.disconnected, link, [.received frame], .failed (.json cause)⟩

/-- Reads the next frame and hands it to the handler. -/
def read (t : Transport σ) (s : Subscriber) (link : σ) : Turn σ :=
  match t.read link s.readTimeout with
  | (.done frame, link) => s.receive link frame
  | (.failed cause, link) => ⟨s.disconnected, link, [.unread cause], .failed cause⟩
  | (.unfinished, link) => ⟨s, link, [], .waiting⟩

/-- One step on a connection. -/
def step (t : Transport σ) (s : Subscriber) (link : σ) : Turn σ :=
  match s.mailbox with
  | frame :: rest => s.sendNext t link frame rest
  | [] =>
    if !s.isSubscribed && !s.parked then subscribe t s.topics s link
    else if s.orphaned && s.listening then ⟨{ s with listening := false }, link, [], .done⟩
    else if s.isSubscribed then s.read t link
    else ⟨s, link, [], .waiting⟩

/-- Sends control frames one after the other, up to the first that fails. -/
def sendAll (t : Transport σ) : List ControlFrame → Subscriber → σ → Turn σ
  | [], s, link => ⟨s, link, [], .done⟩
  | frame :: rest, s, link =>
    let turn := s.sendNext t link frame rest
    match turn.ending with
    | .done =>
      let next := sendAll t rest turn.subscriber turn.link
      { next with events := turn.events ++ next.events }
    | _ => turn

/-- The last chance to send what is in the mailbox, when a stop was asked for. -/
def flush (t : Transport σ) (s : Subscriber) (link : σ) : Turn σ :=
  sendAll t s.mailbox s link

/-! ## What sending leaves alone -/

@[simp] theorem noteSent_mailbox (s : Subscriber) (frame : ControlFrame) :
    (s.noteSent frame).mailbox = s.mailbox := by
  unfold noteSent
  split <;> rfl

/-- Sending does not touch the mailbox. -/
@[simp] theorem send_mailbox (t : Transport σ) (s : Subscriber) (link : σ)
    (frame : ControlFrame) : (s.send t link frame).subscriber.mailbox = s.mailbox := by
  unfold send
  split
  · rfl
  · split <;> simp [disconnected]

/-- Asking for topics does not touch the mailbox. -/
@[simp] theorem subscribe_mailbox (t : Transport σ) (topics : List String) (s : Subscriber)
    (link : σ) : (subscribe t topics s link).subscriber.mailbox = s.mailbox := by
  induction topics generalizing s link with
  | nil => rfl
  | cons topic topics ih =>
    unfold subscribe
    split
    · exact ih s link
    · dsimp only
      split
      · simp [ih]
      · simp

end Subscriber
end ExchangeClient

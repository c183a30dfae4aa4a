import ExchangeClient.Connection.Worker
import ExchangeClient.Stream.Course

/-!
# Sessions

What a worker does with its subscriber.  On a connection it has the subscriber make one step
after the other.  A step that fails ends the session: the connection is torn down, and the
worker makes another.  When the worker sees a request to stop, the subscriber sends what is in
its mailbox, and then the session is over for good.

A step counts when it is done or has failed.  A step that waits is not made yet; it is made as
a whole when what it waits for has come.  Only a request to stop gives up a step in the middle,
and then what the step has done by that time stands, be it that a topic was asked for and
another was not.  Control frames that are posted while the step waits are none of its business,
but they are in the mailbox when the step is given up.

A session keeps what the subscriber did on the present connection apart from what it did
before, and the connection records at its other end what was written on it.
-/

namespace ExchangeClient

namespace StreamEvent

/-- The subscriptions that were sent, in order. -/
def askedFrames (events : List StreamEvent) : List ControlFrame :=
  (sentFrames events).filter fun frame => frame.method = .subscribe

/-- Whether an event takes something that the other side has sent, or fails to. -/
def isRead : StreamEvent → Bool
  | .received _ | .unread _ => true
  | _ => false

/-- Whether an event leaves the connection alone: a frame is taken from the mailbox or
dropped. -/
def isOffline : StreamEvent → Bool
  | .took _ | .dropped _ => true
  | _ => false

end StreamEvent

/-- A subscriber in the hands of its worker. -/
structure Session (σ : Type) where
  subscriber : Subscriber
  link : Recorded σ
  /-- What the subscriber did on earlier connections. -/
  past : List StreamEvent
  /-- What it did on the present connection. -/
  events : List StreamEvent
  /-- How the session on the present connection has ended, if it has. -/
  ending : Option SessionEnd

/-- What happens in sessions on connections of type `σ`. -/
inductive SessionMove (σ : Type) where
  /-- A control frame is put into the mailbox. -/
  | enqueue (frame : ControlFrame)
  /-- The last sender of the mailbox goes away. -/
  | orphan
  /-- The connection changes by itself or through the other side. -/
  | stirred (change : σ → σ)
  /-- A step is made. -/
  | stepped
  /-- The worker sees the request to stop between two steps. -/
  | cancelled
  /-- The worker sees the request to stop in the middle of a step.  Some control frames were put
  into the mailbox since the step began to wait. -/
  | cutShort (posted : List ControlFrame)
  /-- After a session that failed there is another connection. -/
  | reconnected (link : σ)

/-- The control frames that a move puts into the mailbox. -/
def SessionMove.posted {σ : Type} : SessionMove σ → List ControlFrame
  | .enqueue frame => [frame]
  | .cutShort posted => posted
  | .orphan | .stirred _ | .stepped | .cancelled | .reconnected _ => []

namespace Session

variable {σ : Type}

/-- The first session of a new subscriber. -/
def start (product : ProductCode) (handler : Handler) (config : ConnectionConfig) (link : σ) :
    Session σ :=
  ⟨.ofHandler product handler config, ⟨link, []⟩, [], [], none⟩

/-- The session after something that the subscriber did, and whether that ended it. -/
def after (s : Session σ) (turn : Turn (Recorded σ)) (ending : Option SessionEnd) : Session σ :=
  ⟨turn.subscriber, turn.link, s.past, s.events ++ turn.events, ending⟩

/-- The session after a step. -/
def step (t : Transport σ) (s : Session σ) : Session σ :=
  let turn := s.subscriber.step t.recorded s.link
  match turn.ending with
  | .done => s.after turn none
  | .failed _ => s.after turn (some .failed)
  | .waiting => s

/-- The session after the subscriber has sent what is in its mailbox for the last time. -/
def dismiss (t : Transport σ) (s : Session σ) : Session σ :=
  s.after (s.subscriber.flush t.recorded s.link) (some .stopped)

/-- The session after a control frame was put into the mailbox, if there is anyone to do so. -/
def post (s : Session σ) (frame : ControlFrame) : Session σ :=
  if s.subscriber.orphaned then s else { s with subscriber := s.subscriber.enqueue frame }

/-- The session after a step was given up where it waited.  Some control frames were posted since
it began. -/
def cutShort (t : Transport σ) (s : Session σ) (posted : List ControlFrame) : Session σ :=
  let turn := s.subscriber.step t.recorded s.link
  match turn.ending with
  | .waiting => (posted.foldl post (s.after turn (some .stopped))).dismiss t
  | .done | .failed _ => s

/-- The session that begins on another connection. -/
def reconnect (s : Session σ) (link : σ) : Session σ :=
  ⟨s.subscriber.disconnected, ⟨link, []⟩, s.past ++ s.events, [], none⟩

/-- The session after a move.  A move that has no place in the session changes nothing. -/
def move (t : Transport σ) (s : Session σ) : SessionMove σ → Session σ
  | .enqueue frame => s.post frame
  | .orphan => { s with subscriber := { s.subscriber with orphaned := true } }
  | .stirred change => { s with link := { s.link with link := change s.link.link } }
  | .stepped => if s.ending = none then s.step t else s
  | .cancelled => if s.ending = none then s.dismiss t else s
  | .cutShort posted => if s.ending = none then s.cutShort t posted else s
  | .reconnected link => if s.ending = some .failed then s.reconnect link else s

/-- The session after some moves. -/
def run (t : Transport σ) (s : Session σ) (ms : List (SessionMove σ)) : Session σ :=
  ms.foldl (move t) s

@[simp] theorem run_nil (t : Transport σ) (s : Session σ) : s.run t [] = s := rfl

@[simp] theorem run_cons (t : Transport σ) (s : Session σ) (m : SessionMove σ)
    (ms : List (SessionMove σ)) : s.run t (m :: ms) = (s.move t m).run t ms := rfl

end Session
end ExchangeClient

import ExchangeClient.Stream.Session

/-!
# The steps that are made

A step gets something done if it takes a control frame from the mailbox, writes one, or consumes a
frame of the other side.  One that is done without any of this is idle, and a subscriber that made
idle steps without end would spin.

`Course.steps` are the steps in the course of some moves, and `Session.made` those of a session.  A
session makes a step as a whole or not at all, so its steps are those that are done or have failed;
one that still waits is not among them.
-/

namespace ExchangeClient

namespace StreamEvent

/-- Whether a frame of the other side is consumed. -/
def isReceived : StreamEvent → Bool
  | .received _ => true
  | _ => false

/-- Whether something gets done: a control frame is taken or written, or a frame of the other side
is consumed. -/
def isProgress : StreamEvent → Bool
  | .took _ | .sent _ | .received _ => true
  | .dropped _ | .unsent _ _ | .unread _ | .delivered _ => false

end StreamEvent

namespace Turn

variable {σ : Type}

/-- Whether a frame of the other side was consumed. -/
def consumes (turn : Turn σ) : Bool := turn.events.any StreamEvent.isReceived

/-- Whether a step is done and has got nothing done. -/
def isIdle (turn : Turn σ) : Bool :=
  match turn.ending with
  | .done => !turn.events.any StreamEvent.isProgress
  | .failed _ | .waiting => false

end Turn

namespace Course

variable {σ : Type}

/-- The step that a move begins, if it begins one, as far as it comes. -/
def step? (t : Transport σ) (c : Course σ) : SubscriberMove σ → Option (Turn (Recorded σ))
  | .stepped => some (c.turn t .stepped)
  | _ => none

/-- The steps in the course of some moves, in order. -/
def steps (t : Transport σ) (c : Course σ) :
    List (SubscriberMove σ) → List (Turn (Recorded σ))
  | [] => []
  | m :: ms => (c.step? t m).toList ++ (c.move t m).steps t ms

end Course

namespace SessionMove

variable {σ : Type}

/-- Whether there is another connection. -/
def isReconnected : SessionMove σ → Bool
  | .reconnected _ => true
  | _ => false

end SessionMove

namespace Session

variable {σ : Type}

/-- The step that is made by a move, if one is made. -/
def made? (t : Transport σ) (s : Session σ) : SessionMove σ → Option (Turn (Recorded σ))
  | .stepped =>
    let turn := s.subscriber.step t.recorded s.link
    match s.ending, turn.ending with
    | none, .done | none, .failed _ => some turn
    | _, _ => none
  | _ => none

/-- The steps that are made by some moves, in order. -/
def made (t : Transport σ) (s : Session σ) :
    List (SessionMove σ) → List (Turn (Recorded σ))
  | [] => []
  | m :: ms => (s.made? t m).toList ++ (s.move t m).made t ms

end Session
end ExchangeClient

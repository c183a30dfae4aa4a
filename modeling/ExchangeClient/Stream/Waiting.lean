import ExchangeClient.Stream.Course

/-!
# Steps that wait

A step that finds its mailbox empty may have to wait: a subscriber that holds a topic waits for
the mailbox and the connection at the same time, and a parked one for the mailbox alone.  When
both have something, the mailbox goes first.

A step is made as a whole when what it waits for has come, so what it does then is what it would
do if it began then.  `resume` is the waiting half of a step by itself, to say so.
-/

namespace ExchangeClient

namespace Subscriber

variable {σ : Type}

/-- What a step that looks at the connection alone does. -/
def hear (t : Transport σ) (s : Subscriber) (link : σ) : Turn σ :=
  if s.isSubscribed then s.read t link else ⟨s, link, [], .waiting⟩

/-- What a step that began to wait does now.  It looks at the mailbox first, unless it has
noticed that nothing can come any more. -/
def resume (t : Transport σ) (s : Subscriber) (link : σ) : Turn σ :=
  if s.listening then
    match s.mailbox with
    | frame :: rest => s.sendNext t link frame rest
    | [] => if s.orphaned then ⟨{ s with listening := false }, link, [], .done⟩ else s.hear t link
  else s.hear t link

/-- Whether a step waits if its mailbox is empty: there is nothing to ask for. -/
def awaits (s : Subscriber) : Bool := s.isSubscribed || s.parked

end Subscriber

namespace SubscriberMove

variable {σ : Type}

/-- The control frame that a move puts into the mailbox. -/
def frame? : SubscriberMove σ → Option ControlFrame
  | .enqueue frame => some frame
  | .orphan | .stirred _ | .stepped | .flushed | .replaced _ => none

/-- The control frames that are put into the mailbox in the course of some moves, in order.  When
the last sender is gone there are no more. -/
def posted : List (SubscriberMove σ) → List ControlFrame
  | [] => []
  | .orphan :: _ => []
  | m :: ms => m.frame?.toList ++ posted ms

end SubscriberMove
end ExchangeClient

import ExchangeClient.Stream.Subscriber

/-!
# The course of a subscriber

What befalls a subscriber, in any order: control frames are put into its mailbox, the other
side acts on the connection, the subscriber makes a step or sends what is in the mailbox,
and now and then the connection is torn down and another takes its place.

The connection is watched from the other end.  `Transport.recorded` keeps, beside each
connection, the control frames that were written on it; the subscriber cannot see this
record, and a new connection begins with an empty one.
-/

namespace ExchangeClient

/-- A connection, with the control frames that were written on it, in order. -/
structure Recorded (σ : Type) where
  link : σ
  written : List ControlFrame

/-- What can be done with a connection, with a record of what was written on it. -/
def Transport.recorded {σ : Type} (t : Transport σ) : Transport (Recorded σ) where
  write c frame :=
    match t.write c.link frame with
    | (.done (), link) => (.done (), ⟨link, c.written ++ [frame]⟩)
    | (.failed cause, link) => (.failed cause, { c with link })
    | (.unfinished, link) => (.unfinished, { c with link })
  read c deadline := ((t.read c.link deadline).1, { c with link := (t.read c.link deadline).2 })

/-- A frame is recorded if its writing succeeds. -/
theorem Transport.written_recorded_write {σ : Type} (t : Transport σ) (c : Recorded σ)
    (frame : ControlFrame) :
    (t.recorded.write c frame).2.written =
      match (t.recorded.write c frame).1 with
      | .done () => c.written ++ [frame]
      | .failed _ | .unfinished => c.written := by
  unfold recorded
  dsimp only
  split <;> rfl

/-- Reading leaves the record as it is. -/
@[simp] theorem Transport.written_recorded_read {σ : Type} (t : Transport σ) (c : Recorded σ)
    (deadline : Duration) : (t.recorded.read c deadline).2.written = c.written := rfl

/-- The last of some control frames that is about a topic. -/
def ControlFrame.last? (topic : String) (frames : List ControlFrame) : Option ControlFrame :=
  (frames.filter fun frame => frame.channel = topic).getLast?

/-- What befalls a subscriber on connections of type `σ`. -/
inductive SubscriberMove (σ : Type) where
  /-- A control frame is put into the mailbox. -/
  | enqueue (frame : ControlFrame)
  /-- The last sender of the mailbox goes away. -/
  | orphan
  /-- The connection changes by itself or through the other side. -/
  | stirred (change : σ → σ)
  | stepped
  | flushed
  /-- The connection is torn down, and another takes its place. -/
  | replaced (link : σ)

/-- Whether the connection is torn down. -/
def SubscriberMove.isReplaced {σ : Type} : SubscriberMove σ → Bool
  | .replaced _ => true
  | _ => false

/-- Whether a step has failed. -/
def StepEnd.isFailed : StepEnd → Bool
  | .failed _ => true
  | .done | .waiting => false

/-- A subscriber on a connection, and whether anything that it did there has failed. -/
structure Course (σ : Type) where
  subscriber : Subscriber
  link : Recorded σ
  hasFailed : Bool

namespace Course

variable {σ : Type}

/-- A new subscriber on its first connection. -/
def start (product : ProductCode) (handler : Handler) (config : ConnectionConfig) (link : σ) :
    Course σ :=
  ⟨.ofHandler product handler config, ⟨link, []⟩, false⟩

/-- What a move makes of the subscriber and of the connection. -/
def turn (t : Transport σ) (c : Course σ) : SubscriberMove σ → Turn (Recorded σ)
  | .enqueue frame =>
    ⟨if c.subscriber.orphaned then c.subscriber else c.subscriber.enqueue frame, c.link, [],
      .done⟩
  | .orphan => ⟨{ c.subscriber with orphaned := true }, c.link, [], .done⟩
  | .stirred change => ⟨c.subscriber, { c.link with link := change c.link.link }, [], .done⟩
  | .stepped => c.subscriber.step t.recorded c.link
  | .flushed => c.subscriber.flush t.recorded c.link
  | .replaced link => ⟨c.subscriber.disconnected, ⟨link, []⟩, [], .done⟩

/-- The course after a move. -/
def move (t : Transport σ) (c : Course σ) (m : SubscriberMove σ) : Course σ where
  subscriber := (c.turn t m).subscriber
  link := (c.turn t m).link
  hasFailed := !m.isReplaced && (c.hasFailed || (c.turn t m).ending.isFailed)

/-- The course after some moves. -/
def run (t : Transport σ) (c : Course σ) (ms : List (SubscriberMove σ)) : Course σ :=
  ms.foldl (move t) c

/-- What the subscriber did in the course of some moves, on whatever connections. -/
def history (t : Transport σ) (c : Course σ) : List (SubscriberMove σ) → List StreamEvent
  | [] => []
  | m :: ms => (c.turn t m).events ++ (c.move t m).history t ms

@[simp] theorem run_nil (t : Transport σ) (c : Course σ) : c.run t [] = c := rfl

@[simp] theorem run_cons (t : Transport σ) (c : Course σ) (m : SubscriberMove σ)
    (ms : List (SubscriberMove σ)) : c.run t (m :: ms) = (c.move t m).run t ms := rfl

@[simp] theorem history_nil (t : Transport σ) (c : Course σ) : c.history t [] = [] := rfl

@[simp] theorem history_cons (t : Transport σ) (c : Course σ) (m : SubscriberMove σ)
    (ms : List (SubscriberMove σ)) :
    c.history t (m :: ms) = (c.turn t m).events ++ (c.move t m).history t ms := rfl

end Course
end ExchangeClient

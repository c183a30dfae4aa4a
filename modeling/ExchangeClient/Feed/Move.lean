import ExchangeClient.Feed.Basic

/-!
# Moves of a feed

What moves a feed from outside and from inside: control frames are put into its mailbox,
its dials are answered, its waits end, the other side acts on its connection, its
subscriber makes a step, and its worker sees the request to stop.  `run` makes a list of
moves, in whatever order they come, and collects what the subscriber did meanwhile.  A
move that cannot occur changes nothing.

A worker that sees the request to stop (`halt`) gives up its dial or its wait; in a
session it lets the subscriber send what is in the mailbox, and leaves.  A stop that
nothing comes between is declining, halting and waiting for the end in one
(`stop_eq_halt`).
-/

namespace ExchangeClient

/-- What moves a feed over connections of type `σ`. -/
inductive FeedMove (σ : Type) where
  /-- A control frame is put into the mailbox. -/
  | enqueue (frame : ControlFrame)
  /-- The last sender of the mailbox goes away. -/
  | orphan
  | dialAnswered (answer : Except ClientError σ)
  /-- The wait before the next dial is over. -/
  | woken
  /-- The connection changes by itself or through the other side. -/
  | stirred (change : σ → σ)
  /-- The subscriber makes a step. -/
  | stepped
  /-- The worker sees the request to stop. -/
  | halted

namespace Feed

variable {σ : Type}

/-- The feed after its worker has seen the request to stop, what the subscriber did, and
the connection as it was when it was closed. -/
def halt (t : Transport σ) (f : Feed σ) : Feed σ × List StreamEvent × Option σ :=
  let f := { f with manager := f.manager.react .stopSeen }
  match f.link with
  | none => (f, [], none)
  | some link =>
    let turn := f.subscriber.flush t link
    ({ f with subscriber := turn.subscriber }.leave, turn.events, some turn.link)

/-- A stop declines every topic, lets the worker see the request, and waits for its end. -/
theorem stop_eq_halt (t : Transport σ) (f : Feed σ) :
    f.stop t =
      ({ (f.decline.halt t).1 with manager := (f.decline.halt t).1.manager.finish },
        (f.decline.halt t).2.2) := by
  unfold stop halt
  dsimp only
  cases f.decline.link <;> rfl

/-- The feed after a move, and what the subscriber did. -/
def move (t : Transport σ) (f : Feed σ) : FeedMove σ → Feed σ × List StreamEvent
  | .enqueue frame =>
    if f.subscriber.orphaned then (f, [])
    else ({ f with subscriber := f.subscriber.enqueue frame }, [])
  | .orphan => ({ f with subscriber := { f.subscriber with orphaned := true } }, [])
  | .dialAnswered answer => (if f.wantsDial then f.answerDial answer else f, [])
  | .woken => (f.wake, [])
  | .stirred change => ({ f with link := f.link.map change }, [])
  | .stepped => ((f.step t).1, (f.step t).2.1)
  | .halted => ((f.halt t).1, (f.halt t).2.1)

/-- The feed after some moves, and what the subscriber did meanwhile. -/
def run (t : Transport σ) (f : Feed σ) : List (FeedMove σ) → Feed σ × List StreamEvent
  | [] => (f, [])
  | m :: ms =>
    let rest := (f.move t m).1.run t ms
    (rest.1, (f.move t m).2 ++ rest.2)

@[simp] theorem run_nil (t : Transport σ) (f : Feed σ) : f.run t [] = (f, []) := rfl

@[simp] theorem run_cons (t : Transport σ) (f : Feed σ) (m : FeedMove σ)
    (ms : List (FeedMove σ)) :
    f.run t (m :: ms) =
      (((f.move t m).1.run t ms).1, (f.move t m).2 ++ ((f.move t m).1.run t ms).2) := rfl

end Feed
end ExchangeClient

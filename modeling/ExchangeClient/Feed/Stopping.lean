import ExchangeClient.Feed.Move

/-!
# Stopping a feed, action by action

A stop is not one action.  It puts an unsubscription for each topic into the mailbox, one
after the other; then it makes the request to stop; and the worker sees the request when it
next looks.  Before, between and after these actions the worker goes on.

A `StoppableFeed` is a feed together with how far a stop of it has come.  What the worker
does of itself is `work`; it sees the request to stop only after it was made.  A `run` is any
interleaving of the stop's actions with the worker's moves.

With nothing in between the actions make up `Feed.stop` (`stop_eq_work_halted`).
-/

namespace ExchangeClient

/-- A feed, and how far a stop of it has come. -/
structure StoppableFeed (σ : Type) where
  feed : Feed σ
  /-- The topics that the stop has still to decline, in order. -/
  pending : List String
  /-- Whether the worker was asked to stop. -/
  isCancelled : Bool

/-- What happens to a feed and to a stop of it. -/
inductive StopMove (σ : Type) where
  /-- The stop declines the next topic. -/
  | declined
  /-- The stop asks the worker to stop. -/
  | cancelled
  | worked (m : FeedMove σ)

/-- Whether a move has its place in a session and does not end it by itself. -/
def StopMove.isWithinSession {σ : Type} : StopMove σ → Bool
  | .declined | .cancelled | .worked (.stirred _) | .worked .stepped => true
  | .worked _ => false

namespace StoppableFeed

variable {σ : Type}

/-- A feed that no stop has come near. -/
def ofFeed (f : Feed σ) : StoppableFeed σ := ⟨f, f.subscriber.topics, false⟩

/-! ## What the stop does -/

/-- Declines the next topic, if one is left. -/
def declineNext (f : StoppableFeed σ) : StoppableFeed σ :=
  match f.pending with
  | [] => f
  | topic :: rest =>
    { f with
      feed := { f.feed with subscriber := f.feed.subscriber.enqueue (.unsubscribe topic) }
      pending := rest }

/-- Asks the worker to stop, once every topic is declined. -/
def cancel (f : StoppableFeed σ) : StoppableFeed σ :=
  if f.pending = [] then { f with isCancelled := true } else f

/-- The feed after the next thing that a stop does with it. -/
def stopNext (f : StoppableFeed σ) : StoppableFeed σ :=
  if f.pending = [] then f.cancel else f.declineNext

/-- Whether a stop has nothing to wait for any more: the worker was asked to stop, and has
exited. -/
def isSettled (f : StoppableFeed σ) : Bool := f.isCancelled && !f.feed.manager.isRunning

/-- The feed after a stop that has waited for its worker. -/
def finish (f : StoppableFeed σ) : StoppableFeed σ :=
  { f with feed := { f.feed with manager := f.feed.manager.finish } }

/-! ## What the worker does -/

/-- Whether a move is the worker's own.  The mailbox is filled and orphaned by others, and
the request to stop is not seen before it is made. -/
def allows (f : StoppableFeed σ) : FeedMove σ → Bool
  | .enqueue _ | .orphan => false
  | .halted => f.isCancelled
  | .dialAnswered _ | .woken | .stirred _ | .stepped => true

/-- The feed after a move of the worker, and what the subscriber did. -/
def work (t : Transport σ) (f : StoppableFeed σ) (m : FeedMove σ) :
    StoppableFeed σ × List StreamEvent :=
  if f.allows m then ({ f with feed := (f.feed.move t m).1 }, (f.feed.move t m).2)
  else (f, [])

/-! ## Moves and runs -/

/-- The feed after a move, and what the subscriber did. -/
def move (t : Transport σ) (f : StoppableFeed σ) :
    StopMove σ → StoppableFeed σ × List StreamEvent
  | .declined => (f.declineNext, [])
  | .cancelled => (f.cancel, [])
  | .worked m => f.work t m

/-- The feed after some moves, and what the subscriber did meanwhile. -/
def run (t : Transport σ) (f : StoppableFeed σ) :
    List (StopMove σ) → StoppableFeed σ × List StreamEvent
  | [] => (f, [])
  | m :: ms =>
    let rest := (f.move t m).1.run t ms
    (rest.1, (f.move t m).2 ++ rest.2)

@[simp] theorem run_nil (t : Transport σ) (f : StoppableFeed σ) : f.run t [] = (f, []) := rfl

@[simp] theorem run_cons (t : Transport σ) (f : StoppableFeed σ) (m : StopMove σ)
    (ms : List (StopMove σ)) :
    f.run t (m :: ms) =
      (((f.move t m).1.run t ms).1, (f.move t m).2 ++ ((f.move t m).1.run t ms).2) := rfl

/-! ## A stop that nothing comes between -/

/-- Declining what is left puts an unsubscription for each topic into the mailbox. -/
theorem run_declined (t : Transport σ) (topics : List String) (f : Feed σ)
    (isCancelled : Bool) :
    (StoppableFeed.mk f topics isCancelled).run t (topics.map fun _ => .declined) =
      (⟨{ f with
          subscriber := topics.foldl (fun s topic => s.enqueue (.unsubscribe topic))
            f.subscriber }, [], isCancelled⟩, []) := by
  induction topics generalizing f with
  | nil => rfl
  | cons topic topics ih =>
    rw [List.map_cons, run_cons, move, declineNext]
    dsimp only
    rw [ih]
    rfl

/-- A stop declines every topic, makes its request, lets the worker see it, and waits for the
end. -/
theorem stop_eq_work_halted (t : Transport σ) (f : Feed σ) :
    let stopping := ((ofFeed f).run t (f.subscriber.topics.map fun _ => .declined)).1.cancel
    let last := (stopping.work t .halted).1.feed
    (f.stop t).1 = { last with manager := last.manager.finish } := by
  intro stopping last
  have hstopping : stopping = ⟨f.decline, [], true⟩ := by
    rw [show stopping = (StoppableFeed.mk f.decline [] false).cancel from
      congrArg (fun after => after.1.cancel) (run_declined t f.subscriber.topics f false)]
    rfl
  have hlast : last = (f.decline.halt t).1 := by
    rw [show last = (stopping.work t .halted).1.feed from rfl, hstopping]
    rfl
  rw [Feed.stop_eq_halt, hlast]

end StoppableFeed
end ExchangeClient

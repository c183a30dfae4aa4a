import ExchangeClient.Connection.Manager

/-!
# Lifespans

A connection that is kept up from the start of its manager to the end of its stop.  Its worker
is moved by what happens to it, and at some time a stop may be asked for.  The worker can see the
request from then on, but it need not see it at once, and it may exit without having seen it.  The
stop returns when the worker has exited.

A lifespan keeps all the states that were published, be it by the worker or by the manager; who
watches the manager sees no more than the last.
-/

namespace ExchangeClient

/-- What happens in a lifespan. -/
inductive LifespanMove where
  /-- Something happens to the worker. -/
  | worked (event : WorkerEvent)
  /-- A stop is asked for. -/
  | stopAsked
  /-- The stop that was asked for returns. -/
  | stopReturned
  deriving Repr, DecidableEq

/-- A manager from its start to its stop. -/
structure Lifespan where
  manager : Manager
  isCancelled : Bool
  /-- What has happened to the worker, in order. -/
  events : List WorkerEvent
  /-- The states that were published, in order. -/
  published : List ConnectionState
  deriving Repr, DecidableEq

namespace Lifespan

/-- A manager that was just started has published its state. -/
def ofManager (m : Manager) : Lifespan := ⟨m, false, [], [m.state]⟩

/-- Whether something may happen to a worker now: it cannot see a request that was not made. -/
def admits (l : Lifespan) (event : WorkerEvent) : Bool := event ≠ .stopSeen || l.isCancelled

/-- The lifespan after something has happened to the worker. -/
def work (l : Lifespan) (event : WorkerEvent) : Lifespan :=
  match l.manager.worker.bind fun w => w.react l.manager.retryMax event with
  | some (_, states) =>
    { l with
      manager := l.manager.react event
      events := l.events ++ [event]
      published := l.published ++ states }
  | none => l

/-- Whether a stop was asked for and may return. -/
def mayReturn (l : Lifespan) : Bool :=
  l.isCancelled && l.manager.worker.any Worker.hasExited

/-- The lifespan after a stop has returned. -/
def conclude (l : Lifespan) : Lifespan :=
  { l with manager := l.manager.finish, published := l.published ++ [l.manager.finish.state] }

/-- The lifespan after a move.  A move that cannot occur changes nothing. -/
def move (l : Lifespan) : LifespanMove → Lifespan
  | .worked event => if l.admits event then l.work event else l
  | .stopAsked => { l with isCancelled := true }
  | .stopReturned => if l.mayReturn then l.conclude else l

/-- The lifespan after some moves. -/
def run (l : Lifespan) (ms : List LifespanMove) : Lifespan := ms.foldl move l

@[simp] theorem run_nil (l : Lifespan) : l.run [] = l := rfl

@[simp] theorem run_cons (l : Lifespan) (m : LifespanMove) (ms : List LifespanMove) :
    l.run (m :: ms) = (l.move m).run ms := rfl

end Lifespan
end ExchangeClient

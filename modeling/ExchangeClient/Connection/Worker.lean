import ExchangeClient.Connection.State

/-!
# Workers

A worker keeps one connection up.  It dials; on a connection it runs a session; when
the session fails it tears the connection down, waits, and dials again.  A dial that
fails is repeated after the same wait, and when more dials than allowed have failed
in a row the worker gives the connection up.  Any dial that succeeds restores the
whole allowance.

A request to stop is looked for while the worker dials, in its session, and while it
waits, but not while a connection is torn down: the teardown is finished first.  A
teardown has two parts: the worker waits until the keepalive of the connection has
exited, and only then closes the connection.

`react` says what each event does in each phase.  It is partial: an event that cannot
occur in a phase has no result there.
-/

namespace ExchangeClient

/-- Why a session ended. -/
inductive SessionEnd where
  | stopped
  | failed
  deriving Repr, DecidableEq

/-- What a worker is doing. -/
inductive WorkerPhase where
  | dialing
  | inSession
  /-- The keepalive was told to stop and has not exited yet. -/
  | joining (cause : SessionEnd)
  | closing (cause : SessionEnd)
  | waiting
  | exited
  deriving Repr, DecidableEq

/-- What happens to a worker. -/
inductive WorkerEvent where
  | dialFailed
  | dialed
  | sessionFailed
  /-- The keepalive of the connection has exited. -/
  | joined
  /-- The connection is closed. -/
  | closed
  /-- The wait is over. -/
  | waited
  /-- The request to stop is seen. -/
  | stopSeen
  deriving Repr, DecidableEq

/-- A worker. -/
structure Worker where
  phase : WorkerPhase
  /-- How many dials have failed since the last that succeeded. -/
  failures : UInt32
  deriving Repr, DecidableEq

namespace Worker

/-- A worker that has just been started. -/
def fresh : Worker := ⟨.dialing, 0⟩

/-- Whether the worker has exited. -/
def hasExited (w : Worker) : Bool := w.phase == .exited

/-- The worker after a dial that failed, and what it publishes. -/
def failDial (retryMax : UInt32) (w : Worker) : Worker × List ConnectionState :=
  let failures := w.failures + 1
  if retryMax < failures then (⟨.exited, failures⟩, [.exhausted retryMax])
  else (⟨.waiting, failures⟩, [])

/-- The worker after an event, and the states that it publishes. -/
def react (retryMax : UInt32) (w : Worker) (event : WorkerEvent) :
    Option (Worker × List ConnectionState) :=
  match w.phase, event with
  | .dialing, .dialFailed => some (w.failDial retryMax)
  | .dialing, .dialed => some (⟨.inSession, 0⟩, [.connected])
  | .dialing, .stopSeen => some (⟨.exited, w.failures⟩, [.stopped])
  | .inSession, .sessionFailed => some (⟨.joining .failed, w.failures⟩, [])
  | .inSession, .stopSeen => some (⟨.joining .stopped, w.failures⟩, [])
  | .joining cause, .joined => some (⟨.closing cause, w.failures⟩, [])
  | .closing .failed, .closed => some (⟨.waiting, w.failures⟩, [.reconnecting])
  | .closing .stopped, .closed => some (⟨.exited, w.failures⟩, [.stopped])
  | .waiting, .waited => some (⟨.dialing, w.failures⟩, [])
  | .waiting, .stopSeen => some (⟨.exited, w.failures⟩, [.stopped])
  | _, _ => none

/-- The worker after some events, and all that it publishes. -/
def run (retryMax : UInt32) (w : Worker) : List WorkerEvent → Option (Worker × List ConnectionState)
  | [] => some (w, [])
  | event :: events => do
    let (w, published) ← w.react retryMax event
    let (w, more) ← w.run retryMax events
    return (w, published ++ more)

/-- Nothing happens to a worker that has exited. -/
theorem react_eq_none_of_exited {retryMax : UInt32} {w : Worker} (h : w.hasExited = true)
    (event : WorkerEvent) : w.react retryMax event = none := by
  have hp : w.phase = .exited := by simpa [hasExited] using h
  simp [react, hp]

end Worker
end ExchangeClient

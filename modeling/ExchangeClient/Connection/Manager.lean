import ExchangeClient.Connection.Config
import ExchangeClient.Connection.Endpoint
import ExchangeClient.Connection.Worker

/-!
# Managers

A manager starts the worker of a connection, stops it, and shows the state that was
published last.  A manager that was started has to be stopped before it can be
started again, even when its worker has given up meanwhile; stopping one that was
not started does nothing.
-/

namespace ExchangeClient

/-- A manager. -/
structure Manager where
  retryMax : UInt32
  /-- The state that was published last. -/
  state : ConnectionState
  worker : Option Worker
  deriving Repr, DecidableEq

namespace Manager

/-- A manager that was not started yet. -/
def ofConfig (config : ConnectionConfig) : Manager := ⟨config.retryMax, .connecting, none⟩

/-- Starts a worker for an address; a second start is refused before the address is
looked at. -/
def start (m : Manager) (address : String) : Except ClientError Manager :=
  if m.worker.isSome then .error (.config .alreadyStarted)
  else do
    let _ ← Endpoint.ofAddress address
    return { m with state := .connecting, worker := some .fresh }

/-- Whether there is a worker that has not exited. -/
def isRunning (m : Manager) : Bool := m.worker.any fun w => !w.hasExited

/-- What the worker is doing, if there is one. -/
def phase? (m : Manager) : Option WorkerPhase := m.worker.map Worker.phase

/-- The manager with some states published, one after the other. -/
def publish (m : Manager) (states : List ConnectionState) : Manager :=
  { m with state := states.getLastD m.state }

/-- The manager after an event of its worker; an event that cannot occur changes nothing. -/
def react (m : Manager) (event : WorkerEvent) : Manager :=
  match m.worker.bind fun w => w.react m.retryMax event with
  | some (worker, published) => { m.publish published with worker := some worker }
  | none => m

/-- The manager after some events. -/
def reacts (m : Manager) (events : List WorkerEvent) : Manager := events.foldl react m

/-- The manager after a stop has waited for its worker. -/
def finish (m : Manager) : Manager :=
  if m.worker.isSome then { m with state := .stopped, worker := none } else m

/-- Stops a manager whose worker is not in a session. -/
def stop (m : Manager) : Manager := (m.react .stopSeen).finish

end Manager
end ExchangeClient

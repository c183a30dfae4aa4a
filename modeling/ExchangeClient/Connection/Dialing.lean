import ExchangeClient.Connection.Config
import ExchangeClient.Connection.Worker

/-!
# What a worker does

`Worker.react` says what becomes of a worker and what it publishes.  Seen from outside a worker
does a little more: it begins dials, it waits, always as long as it was set to, and at last it
exits.  It begins each of these as it comes to a phase, so all that it does can be read off the
phases that it comes to.  A `WorkerLog` keeps a worker together with all that it has done since it
was started.

What happens to a worker is, for the most part, how its dials come out.  A dial fails, or it
succeeds and the session that follows fails after a time; `dialsOf` are the outcomes in a history,
and `DialOutcome.events` what happens from a dial to the next wait.
-/

namespace ExchangeClient

/-- What a worker does. -/
inductive WorkerAct where
  /-- A dial is begun. -/
  | dial
  /-- A wait is begun. -/
  | wait (length : Duration)
  | publish (state : ConnectionState)
  | exit
  deriving DecidableEq

namespace WorkerAct

/-- Whether a worker waits. -/
def isWait : WorkerAct → Bool
  | .wait _ => true
  | .dial | .publish _ | .exit => false

/-- Whether a worker exits or tells that the connection is over. -/
def isFinal : WorkerAct → Bool
  | .exit => true
  | .publish state => state.isTerminal
  | .dial | .wait _ => false

end WorkerAct

/-- What a worker begins as it comes to a phase. -/
def WorkerPhase.acts (config : ConnectionConfig) : WorkerPhase → List WorkerAct
  | .dialing => [.dial]
  | .waiting => [.wait config.retryWait]
  | .exited => [.exit]
  | .inSession | .joining _ | .closing _ => []

/-- A worker and what it has done since it was started, in order. -/
structure WorkerLog where
  worker : Worker
  acts : List WorkerAct
  deriving DecidableEq

namespace WorkerLog

/-- The log of a worker that has just been started: its first dial is begun. -/
def start : WorkerLog := ⟨.fresh, [.dial]⟩

/-- The log after an event, if the event can occur. -/
def react (config : ConnectionConfig) (log : WorkerLog) (event : WorkerEvent) : Option WorkerLog :=
  (log.worker.react config.retryMax event).map fun (w, states) =>
    ⟨w, log.acts ++ (states.map .publish ++ w.phase.acts config)⟩

/-- The log after some events, if they can occur one after the other. -/
def run (config : ConnectionConfig) (log : WorkerLog) : List WorkerEvent → Option WorkerLog
  | [] => some log
  | event :: events => (log.react config event).bind fun log => log.run config events

@[simp] theorem run_nil (config : ConnectionConfig) (log : WorkerLog) :
    log.run config [] = some log := rfl

theorem run_cons (config : ConnectionConfig) (log : WorkerLog) (event : WorkerEvent)
    (events : List WorkerEvent) :
    log.run config (event :: events) =
      (log.react config event).bind fun log => log.run config events := rfl

theorem run_append (config : ConnectionConfig) (log : WorkerLog) (early late : List WorkerEvent) :
    log.run config (early ++ late) =
      (log.run config early).bind fun log => log.run config late := by
  induction early generalizing log with
  | nil => rfl
  | cons event early ih =>
    rw [List.cons_append, run_cons, run_cons]
    cases log.react config event with
    | none => rfl
    | some log => exact ih log

end WorkerLog

/-! ## Dials -/

/-- How a dial comes out. -/
inductive DialOutcome where
  | failed
  | succeeded
  deriving DecidableEq

/-- The outcome of a dial that an event tells, if it tells one. -/
def WorkerEvent.dial? : WorkerEvent → Option DialOutcome
  | .dialFailed => some .failed
  | .dialed => some .succeeded
  | .sessionFailed | .joined | .closed | .waited | .stopSeen => none

/-- The outcomes of the dials in a history. -/
def dialsOf (events : List WorkerEvent) : List DialOutcome := events.filterMap WorkerEvent.dial?

/-- How many dials have failed since the last that succeeded, or since the first. -/
def failuresInRow (dials : List DialOutcome) : Nat :=
  (dials.reverse.takeWhile (· = .failed)).length

namespace DialOutcome

/-- What happens from the outcome of a dial on: a session that fails, and the teardown. -/
def events : DialOutcome → List WorkerEvent
  | .failed => [.dialFailed]
  | .succeeded => [.dialed, .sessionFailed, .joined, .closed]

/-- What happens from the outcome of a dial until the next dial is begun. -/
def round (o : DialOutcome) : List WorkerEvent := o.events ++ [.waited]

end DialOutcome

@[simp] theorem failuresInRow_nil : failuresInRow [] = 0 := rfl

@[simp] theorem failuresInRow_failed (dials : List DialOutcome) :
    failuresInRow (dials ++ [.failed]) = failuresInRow dials + 1 := by
  simp [failuresInRow]

@[simp] theorem failuresInRow_succeeded (dials : List DialOutcome) :
    failuresInRow (dials ++ [.succeeded]) = 0 := by
  simp [failuresInRow]

theorem dialsOf_append (early late : List WorkerEvent) :
    dialsOf (early ++ late) = dialsOf early ++ dialsOf late := List.filterMap_append

theorem dialsOf_events (o : DialOutcome) : dialsOf o.events = [o] := by
  cases o <;> rfl

theorem dialsOf_rounds (outcomes : List DialOutcome) :
    dialsOf (outcomes.flatMap DialOutcome.round) = outcomes := by
  induction outcomes with
  | nil => rfl
  | cons o outcomes ih =>
    rw [List.flatMap_cons, DialOutcome.round, dialsOf_append, dialsOf_append, dialsOf_events, ih]
    rfl

end ExchangeClient

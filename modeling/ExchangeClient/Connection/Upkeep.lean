import ExchangeClient.Connection.Config
import ExchangeClient.Connection.Keepalive
import ExchangeClient.Connection.Worker
import ExchangeClient.Stream.Control

/-!
# Upkeep

A worker and the keepalives of the connections that it has made.  The two are tasks of their own,
and a third asks them to stop: whatever one of them does may come between any two things that
another does.

They meet at four places.  A connection that is made gets a keepalive.  A worker that leaves its
session tells the keepalive to stop, and closes the connection only when the keepalive has exited.
A stop that is asked for reaches the worker and every keepalive, each at a time of its own.  And
the message loop and the keepalive write on the same connection: its frames go out in the order in
which they were begun.

The message loop has the connection while the worker is in its session.  What it writes there it
may choose freely, the last frames before it leaves on a stop among them.
-/

namespace ExchangeClient

/-- What the worker or the keepalive does on a connection. -/
inductive WireAct where
  /-- The handshake is complete. -/
  | opened
  /-- The message loop writes a frame. -/
  | wrote (frame : ControlFrame)
  /-- A ping is begun; it may be given up before it is written. -/
  | pingBegun
  | pingWritten
  | closeBegun
  deriving DecidableEq

/-- A connection and its keepalive. -/
structure KeptConnection where
  /-- The keepalive; there is none if it could not be scheduled. -/
  keepalive : Option Keepalive
  /-- What was done on the connection, in order. -/
  acts : List WireAct
  deriving DecidableEq

namespace KeptConnection

/-- A connection that was made at a moment. -/
def opened (config : ConnectionConfig) (now : Nat) : KeptConnection :=
  ⟨Keepalive.start? now config.pingInterval, [.opened]⟩

/-- Whether there is a keepalive that has not exited. -/
def isAttended (c : KeptConnection) : Bool := c.keepalive.any fun k => k.phase ≠ .exited

/-- The connection after something was done on it. -/
def doing (c : KeptConnection) (act : WireAct) : KeptConnection :=
  { c with acts := c.acts ++ [act] }

/-- The connection after its keepalive was told to stop. -/
def cancel (c : KeptConnection) : KeptConnection :=
  { c with keepalive := c.keepalive.map Keepalive.cancel }

/-- What a keepalive does on its connection. -/
def actsOf : KeepaliveEvent → List WireAct
  | .tick _ => [.pingBegun]
  | .pinged => [.pingWritten]
  | .pingFailed | .stopSeen => []

/-- The connection after an event of its keepalive; an event that cannot occur changes
nothing. -/
def react (c : KeptConnection) (event : KeepaliveEvent) : KeptConnection :=
  match c.keepalive.bind fun k => k.react event with
  | some k => ⟨some k, c.acts ++ actsOf event⟩
  | none => c

end KeptConnection

/-- What happens in an upkeep.  Connections are counted from the present one back. -/
inductive UpkeepMove where
  /-- A stop is asked for. -/
  | stopAsked
  /-- The stop that was asked for reaches the keepalive of a connection. -/
  | told (n : Nat)
  /-- Something happens to the worker at a moment. -/
  | worked (event : WorkerEvent) (now : Nat)
  /-- The message loop writes a frame. -/
  | wrote (frame : ControlFrame)
  /-- Something happens to the keepalive of a connection. -/
  | kept (n : Nat) (event : KeepaliveEvent)
  deriving DecidableEq

/-- A worker with the connections that it has made. -/
structure Upkeep where
  config : ConnectionConfig
  worker : Worker
  /-- Whether a stop was asked for. -/
  isCancelled : Bool
  /-- The connections, the last that was made first. -/
  connections : List KeptConnection
  deriving DecidableEq

namespace Upkeep

/-- The upkeep of a worker that has just been started. -/
def start (config : ConnectionConfig) : Upkeep := ⟨config, .fresh, false, []⟩

/-- Whether an event may happen to the worker now: a stop is seen if it was asked for, and a
keepalive is joined when it has exited. -/
def admits (u : Upkeep) : WorkerEvent → Bool
  | .stopSeen => u.isCancelled
  | .joined => !u.connections.head?.any KeptConnection.isAttended
  | _ => true

/-- The connections after the worker has come to a phase. -/
def connectionsIn (u : Upkeep) (now : Nat) : WorkerPhase → List KeptConnection
  | .inSession => .opened u.config now :: u.connections
  | .joining _ => u.connections.modifyHead .cancel
  | .closing _ => u.connections.modifyHead (·.doing .closeBegun)
  | .dialing | .waiting | .exited => u.connections

/-- The upkeep after an event of the worker. -/
def work (u : Upkeep) (event : WorkerEvent) (now : Nat) : Upkeep :=
  match u.worker.react u.config.retryMax event with
  | some (w, _) => { u with worker := w, connections := u.connectionsIn now w.phase }
  | none => u

/-- The upkeep after a move.  A move that cannot occur changes nothing. -/
def move (u : Upkeep) : UpkeepMove → Upkeep
  | .stopAsked => { u with isCancelled := true }
  | .told n => if u.isCancelled then { u with connections := u.connections.modify n .cancel } else u
  | .worked event now => if u.admits event then u.work event now else u
  | .wrote frame =>
    if u.worker.phase = .inSession then
      { u with connections := u.connections.modifyHead (·.doing (.wrote frame)) }
    else u
  | .kept n event => { u with connections := u.connections.modify n (·.react event) }

/-- The upkeep after some moves. -/
def run (u : Upkeep) (ms : List UpkeepMove) : Upkeep := ms.foldl move u

@[simp] theorem run_nil (u : Upkeep) : u.run [] = u := rfl

@[simp] theorem run_cons (u : Upkeep) (m : UpkeepMove) (ms : List UpkeepMove) :
    u.run (m :: ms) = (u.move m).run ms := rfl

theorem run_append (u : Upkeep) (ms ms' : List UpkeepMove) :
    u.run (ms ++ ms') = (u.run ms).run ms' := List.foldl_append

/-- A move leaves the settings as they are. -/
@[simp] theorem config_move (u : Upkeep) (m : UpkeepMove) : (u.move m).config = u.config := by
  cases m with
  | stopAsked | kept => rfl
  | told | wrote => rw [move]; split <;> rfl
  | worked event now =>
    rw [move]
    split
    · rw [work]; split <;> rfl
    · rfl

@[simp] theorem config_run (u : Upkeep) (ms : List UpkeepMove) : (u.run ms).config = u.config := by
  induction ms generalizing u with
  | nil => rfl
  | cons m ms ih => exact (ih (u.move m)).trans (u.config_move m)

/-- What holds of all connections holds of them when something is done to one that keeps it. -/
theorem forall_mem_modify {P : KeptConnection → Prop} {f : KeptConnection → KeptConnection}
    (hf : ∀ c, P c → P (f c)) {cs : List KeptConnection} (h : ∀ c ∈ cs, P c) (n : Nat) :
    ∀ c ∈ cs.modify n f, P c := by
  induction cs generalizing n with
  | nil => simp
  | cons c cs ih =>
    obtain ⟨hc, hcs⟩ := List.forall_mem_cons.mp h
    cases n with
    | zero => exact List.forall_mem_cons.mpr ⟨hf c hc, hcs⟩
    | succ n => exact List.forall_mem_cons.mpr ⟨hc, ih hcs n⟩

end Upkeep
end ExchangeClient

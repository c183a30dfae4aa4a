import ExchangeClient.Duration

/-!
# Keepalives

While a connection stands its keepalive pings the other side, the first time one
interval after the connection was made and then at every interval.  A ping that is due
during the one before it waits for that one, and when a ping begins late the intervals
are counted from there.  A keepalive exits when it is told to, even in the middle of a
ping, and by itself after a ping that fails: to notice a dead connection is the reader's
affair.

The schedule is kept on a clock that ends.  An interval of no length, or one that
reaches past the end of the clock, cannot be scheduled.
-/

namespace ExchangeClient

/-- The last moment of the clock, in nanoseconds. -/
def clockLimit : Nat := 0x8000000000000000 * 1000000000 - 1

/-- What a keepalive is doing. -/
inductive KeepalivePhase where
  | resting
  | pinging
  | exited
  deriving Repr, DecidableEq

/-- A keepalive. -/
structure Keepalive where
  interval : Duration
  phase : KeepalivePhase
  /-- The moment of the next ping. -/
  due : Nat
  /-- Whether it was told to stop. -/
  cancelled : Bool
  deriving Repr, DecidableEq

/-- What happens to a keepalive. -/
inductive KeepaliveEvent where
  /-- The clock has reached a moment. -/
  | tick (now : Nat)
  /-- The ping was written. -/
  | pinged
  | pingFailed
  /-- The request to stop is seen. -/
  | stopSeen
  deriving Repr, DecidableEq

namespace Keepalive

/-- The keepalive of a connection that was made at a moment; `none` if its interval
cannot be scheduled. -/
def start? (now : Nat) (interval : Duration) : Option Keepalive :=
  if interval = .zero then none
  else if clockLimit < now + interval.nanos then none
  else some ⟨interval, .resting, now + interval.nanos, false⟩

/-- The keepalive after it was told to stop. -/
def cancel (k : Keepalive) : Keepalive := { k with cancelled := true }

/-- By how much a ping may begin late, in nanoseconds, and the schedule still hold. -/
def lateness : Nat := 5000000

/-- The moment of the ping after one that begins now. -/
def dueAfter (k : Keepalive) (now : Nat) : Nat :=
  if k.due + lateness < now then now + k.interval.nanos else k.due + k.interval.nanos

/-- The keepalive after an event. -/
def react (k : Keepalive) (event : KeepaliveEvent) : Option Keepalive :=
  match k.phase, event with
  | .resting, .tick now =>
    if k.due ≤ now && !k.cancelled then some { k with phase := .pinging, due := k.dueAfter now }
    else none
  | .pinging, .pinged => some { k with phase := .resting }
  | .pinging, .pingFailed => some { k with phase := .exited }
  | .resting, .stopSeen | .pinging, .stopSeen =>
    if k.cancelled then some { k with phase := .exited } else none
  | _, _ => none

end Keepalive
end ExchangeClient

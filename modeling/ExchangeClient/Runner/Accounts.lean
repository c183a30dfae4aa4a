import ExchangeClient.Connection.State
import ExchangeClient.Stream.Topic

/-!
# The runner's accounts

The runner counts the updates of each stream it has started and watches each
stream's connection.  A monitor looks at the state of its stream: an exhausted
connection is put on record and leaves one stream less alive, and when none is left
the runner asks for its own shutdown.  Once a shutdown is asked for, monitors that
see nothing of note leave.

A stream that is started again counts from zero.
-/

namespace ExchangeClient

/-- The accounts of a runner. -/
structure Accounts where
  /-- How many updates each started stream has delivered. -/
  counters : List (ChannelKey × Nat)
  /-- The streams whose monitors are still looking. -/
  watched : List ChannelKey
  /-- How many streams were started and have not been exhausted. -/
  live : Nat
  /-- The streams whose connections were given up, in order. -/
  exhausted : List ChannelKey
  /-- Whether a shutdown was asked for. -/
  isShutdown : Bool
  deriving Repr, DecidableEq

namespace Accounts

/-- The accounts of a runner that has started nothing. -/
def empty : Accounts := ⟨[], [], 0, [], false⟩

/-- The counter of a stream, set to a number. -/
def setCounter (a : Accounts) (key : ChannelKey) (n : Nat) : Accounts :=
  { a with counters := a.counters.filter (fun entry => entry.1 ≠ key) ++ [(key, n)] }

/-- How many updates a stream has delivered. -/
def count (a : Accounts) (key : ChannelKey) : Nat := (a.counters.lookup key).getD 0

/-- The accounts after a stream was started. -/
def enroll (a : Accounts) (key : ChannelKey) : Accounts :=
  { a.setCounter key 0 with watched := a.watched ++ [key], live := a.live + 1 }

/-- The accounts after a stream has delivered some updates. -/
def deliver (a : Accounts) (key : ChannelKey) (updates : Nat) : Accounts :=
  if (a.counters.lookup key).isSome && updates ≠ 0 then a.setCounter key (a.count key + updates)
  else a

/-- The accounts after a monitor has left. -/
def dismiss (a : Accounts) (key : ChannelKey) : Accounts :=
  { a with watched := a.watched.erase key }

/-- The accounts with one stream more alive. -/
def countIn (a : Accounts) : Accounts := { a with live := a.live + 1 }

/-- The accounts with a stream watched. -/
def watch (a : Accounts) (key : ChannelKey) : Accounts :=
  { a with watched := a.watched ++ [key] }

/-- The accounts after an exhausted stream was put on record. -/
def record (a : Accounts) (key : ChannelKey) : Accounts :=
  { a with exhausted := a.exhausted ++ [key] }

/-- The accounts with one stream less alive. -/
def countOut (a : Accounts) : Accounts := { a with live := a.live - 1 }

/-- The accounts with one stream less alive; without any the runner shuts down. -/
def retire (a : Accounts) : Accounts :=
  { a with live := a.live - 1, isShutdown := a.isShutdown || a.live == 1 }

/-- The accounts after the monitor of a stream has looked at its state. -/
def look (a : Accounts) (key : ChannelKey) (state : ConnectionState) : Accounts :=
  if a.watched.contains key then
    match state with
    | .exhausted _ => ((a.record key).retire).dismiss key
    | .stopped => a.dismiss key
    | _ => if a.isShutdown then a.dismiss key else a
  else a

/-- The accounts after a shutdown was asked for. -/
def shutdown (a : Accounts) : Accounts := { a with isShutdown := true }

/-- A monitor counts its stream out, and the last one asks for a shutdown. -/
theorem retire_eq (a : Accounts) :
    a.retire = if a.live = 1 then a.countOut.shutdown else a.countOut := by
  unfold retire
  split
  · next h => simp [countOut, shutdown, h]
  · next h => simp [countOut, h]

/-- A key is found behind entries of other keys. -/
theorem lookup_filter_ne_append (entries : List (ChannelKey × Nat)) (key : ChannelKey) (n : Nat) :
    (entries.filter (fun entry => entry.1 ≠ key) ++ [(key, n)]).lookup key = some n := by
  induction entries with
  | nil => simp
  | cons entry entries ih =>
    by_cases he : entry.1 = key
    · simpa [List.filter_cons, he] using ih
    · have hb : (key == entry.1) = false := by simp [Ne.symm he]
      rw [List.filter_cons_of_pos (by simpa using he), List.cons_append, List.lookup_cons, hb]
      exact ih

/-- A stream that was just started has delivered nothing. -/
@[simp] theorem count_enroll (a : Accounts) (key : ChannelKey) : (a.enroll key).count key = 0 := by
  simp only [enroll, setCounter, count, lookup_filter_ne_append, Option.getD_some]

end Accounts
end ExchangeClient

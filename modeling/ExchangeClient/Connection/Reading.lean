import ExchangeClient.Error

/-!
# Reading from a connection

A read waits for the next frame that carries data.  Pings and pongs are passed over
and cost nothing but time: the deadline is set once, when the read begins, and no
frame extends it.  A binary frame that is text counts as text; a close, the end of
the stream and a fault of the connection end the read.

`readText` is defined on frames with the times at which they arrive, so that it can
be said what a read makes of any course of events.
-/

namespace ExchangeClient

/-- What arrives on a connection. -/
inductive Incoming where
  | text (frame : String)
  | binary (bytes : List UInt8)
  | ping
  | pong
  | close
  /-- There is nothing more to come. -/
  | ended
  | broken (fault : SocketFault)
  deriving Repr, DecidableEq

/-- Whether a frame is a matter between the two ends and no one else's. -/
def Incoming.isBeat : Incoming → Bool
  | .ping | .pong => true
  | _ => false

/-- What a read makes of a frame; nothing, if it is a ping or a pong. -/
def Incoming.outcome? : Incoming → Option (Except ClientError String)
  | .text frame => some (.ok frame)
  | .binary bytes =>
    match Text.Utf8.decode bytes with
    | .ok cs => some (.ok (String.ofList cs))
    | .error fault => some (.error (.webSocket (.binaryFrame fault)))
  | .ping | .pong => none
  | .close | .ended => some (.error .connectionClosed)
  | .broken fault => some (.error (.webSocket fault))

/-- A frame and the time from the beginning of the read to its arrival. -/
structure Arrival where
  after : Duration
  frame : Incoming
  deriving DecidableEq

/-- How a read ended, when, and what it left. -/
structure ReadEnd where
  outcome : Except ClientError String
  after : Duration
  rest : List Arrival

/-- Reads the next data that arrive within a deadline. -/
def readText (deadline : Duration) : List Arrival → ReadEnd
  | [] => ⟨.error (.timeout "read" deadline), deadline, []⟩
  | a :: rest =>
    if a.after.nanos ≤ deadline.nanos then
      match a.frame.outcome? with
      | some outcome => ⟨outcome, a.after, rest⟩
      | none => readText deadline rest
    else ⟨.error (.timeout "read" deadline), deadline, a :: rest⟩

theorem Incoming.outcome?_eq_none {frame : Incoming} :
    frame.outcome? = none ↔ frame.isBeat = true := by
  cases frame <;> simp [outcome?, isBeat]
  split <;> simp

end ExchangeClient

import ExchangeClient.Connection.Transport

/-!
# Simulated connections

A connection to an exchange that does as it is told.  What the exchange sends waits
until it is read; what the client writes arrives at once, up to the moment at which
the client has seen the exchange close.

An exchange that has nothing to say either makes a read wait, or, if it is told to
stay silent, lets the read run into its deadline.
-/

namespace ExchangeClient

/-- A simulated connection. -/
structure Link where
  /-- What the exchange has sent and the client has not read. -/
  incoming : List Incoming
  /-- What the exchange has received, in order. -/
  received : List String
  /-- Whether the client has read the last that will come. -/
  isOver : Bool
  /-- Whether the client has read that the exchange closes. -/
  sawClose : Bool
  /-- Whether the exchange stays silent for longer than any read waits. -/
  isSilent : Bool
  deriving DecidableEq

namespace Link

/-- A new connection. -/
def fresh : Link := ⟨[], [], false, false, false⟩

/-- The connection after the exchange has sent something. -/
def send (l : Link) (frames : List Incoming) : Link := { l with incoming := l.incoming ++ frames }

/-- The connection after the exchange has decided to stay silent. -/
def silence (l : Link) : Link := { l with isSilent := true }

/-- Whether nothing that a read would return is there. -/
def isIdle (l : Link) : Bool := l.incoming.all Incoming.isBeat && !l.isOver

/-- The connection after a read has taken all up to the first frame that is no ping or
pong. -/
def afterRead (l : Link) : Link :=
  match l.incoming.dropWhile Incoming.isBeat with
  | .close :: rest => { l with incoming := rest, isOver := true, sawClose := true }
  | .broken _ :: rest | .ended :: rest => { l with incoming := rest, isOver := true }
  | _ :: rest => { l with incoming := rest }
  | [] => { l with incoming := [] }

/-- What a read within a deadline returns. -/
def readOutcome (l : Link) (deadline : Duration) : Except ClientError String :=
  let arrivals := l.incoming.map (⟨.zero, ·⟩)
  let last := if l.isOver then [⟨.zero, .ended⟩] else []
  (readText deadline (arrivals ++ last)).outcome

/-- What can be done with a simulated connection. -/
def transport : Transport Link where
  write l frame :=
    if l.sawClose then (.failed (.webSocket .writtenAfterClose), l)
    else (.done (), { l with received := l.received ++ [Wire.toText frame] })
  read l deadline :=
    if l.isIdle && !l.isSilent then (.unfinished, l)
    else
      match l.readOutcome deadline with
      | .ok frame => (.done frame, l.afterRead)
      | .error cause => (.failed cause, l.afterRead)

end Link
end ExchangeClient

/-!
# States of a connection

What can be watched of a connection that is kept up: whether it is being dialled,
stands, is waited for again, or is over.  Over is over: a connection that was
stopped or given up does not come back by itself.
-/

namespace ExchangeClient

/-- The state of a connection. -/
inductive ConnectionState where
  | connecting
  | connected
  | reconnecting
  /-- Stopped on request. -/
  | stopped
  /-- Given up after so many dials that were repeated in vain. -/
  | exhausted (retries : UInt32)
  deriving Repr, DecidableEq

namespace ConnectionState

/-- Whether the connection is over. -/
def isTerminal : ConnectionState → Bool
  | .stopped | .exhausted _ => true
  | _ => false

/-- The shown form of a state. -/
def text : ConnectionState → String
  | .connecting => "Connecting"
  | .connected => "Connected"
  | .reconnecting => "Reconnecting"
  | .stopped => "Stopped"
  | .exhausted retries => s!"Exhausted \x7b retries: {retries} \x7d"

end ConnectionState
end ExchangeClient

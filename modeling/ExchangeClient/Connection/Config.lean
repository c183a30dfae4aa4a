import ExchangeClient.Duration
import ExchangeClient.Text.Quoted

/-!
# Settings of real-time connections

Where the exchange publishes, what is sent along with the handshake, and how patient
a connection is.
-/

namespace ExchangeClient

/-- How a connection is kept up. -/
structure ConnectionConfig where
  /-- How many dials may fail in a row before the connection is given up. -/
  retryMax : UInt32
  /-- The wait between two dials. -/
  retryWait : Duration
  pingInterval : Duration
  pingTimeout : Duration
  writeTimeout : Duration
  readTimeout : Duration
  deriving Repr, DecidableEq

namespace ConnectionConfig

/-- The usual patience. -/
def usual : ConnectionConfig :=
  ⟨10, .ofSecs 3, .ofSecs 5, .ofSecs 10, .ofSecs 10, .ofSecs 60⟩

/-- The shown form. -/
def shown (c : ConnectionConfig) : String :=
  s!"ConnectionConfig \x7b retry_max: {c.retryMax}, retry_wait: {c.retryWait.text}"
    ++ s!", ping_interval: {c.pingInterval.text}, ping_timeout: {c.pingTimeout.text}"
    ++ s!", write_timeout: {c.writeTimeout.text}, read_timeout: {c.readTimeout.text} \x7d"

end ConnectionConfig

/-- Settings of all real-time connections. -/
structure RealtimeConfig where
  endpoint : String
  /-- What is sent along with the handshake, in order. -/
  headers : List (String × String)
  connection : ConnectionConfig
  deriving Repr, DecidableEq

namespace RealtimeConfig

/-- Where the exchange publishes. -/
def usualEndpoint : String := "wss://ws.lightstream.bitflyer.com/json-rpc"

/-- The usual settings. -/
def usual : RealtimeConfig := ⟨usualEndpoint, [], .usual⟩

/-- The shown form. -/
def shown (c : RealtimeConfig) : String :=
  let header (pair : String × String) : String :=
    "(" ++ Text.quoted pair.1 ++ ", " ++ Text.quoted pair.2 ++ ")"
  "RealtimeConfig \x7b endpoint: " ++ Text.quoted c.endpoint ++ ", headers: ["
    ++ ", ".intercalate (c.headers.map header) ++ "], connection: " ++ c.connection.shown
    ++ " \x7d"

end RealtimeConfig
end ExchangeClient

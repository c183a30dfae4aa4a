import ExchangeClient.Connection.Config
import ExchangeClient.Rest.Client
import ExchangeClient.Stream.Topic

/-!
# Settings of the runner

What the stream runner is told: where the exchange is, how to connect, where the key
file lies, and which streams to run.  Everything has a usual value but the streams,
of which there are none unless some are named.
-/

namespace ExchangeClient

/-- The name of a kind of stream in settings and on the command line. -/
def StreamKind.selection : StreamKind → String
  | .ticker => "ticker"
  | .board => "board"
  | .boardSnapshot => "board-snapshot"
  | .executions => "executions"

/-- The kinds of streams, in the order in which they are listed. -/
def StreamKind.all : List StreamKind := [.ticker, .board, .boardSnapshot, .executions]

/-- The kind of stream with a name. -/
def StreamKind.ofSelection? (name : String) : Option StreamKind :=
  all.find? fun kind => kind.selection == name

/-- A name finds its kind. -/
@[simp] theorem StreamKind.ofSelection?_selection (kind : StreamKind) :
    ofSelection? kind.selection = some kind := by
  cases kind <;> decide

/-- A stream to run. -/
structure StreamSpec where
  productCode : ProductCode
  kind : StreamKind
  /-- Whether differences are folded into a full board; only boards can be merged. -/
  merge : Bool
  deriving Repr, DecidableEq

namespace StreamSpec

/-- The key of the stream. -/
def key (spec : StreamSpec) : ChannelKey := ⟨spec.productCode, spec.kind⟩

/-- Whether the stream is a full board kept from differences. -/
def isMerged (spec : StreamSpec) : Bool := spec.kind == .board && spec.merge

end StreamSpec

/-- The patience of connections, in whole seconds. -/
structure ConnectionSettings where
  retryMax : UInt32
  retryWaitSecs : UInt64
  pingIntervalSecs : UInt64
  pingTimeoutSecs : UInt64
  writeTimeoutSecs : UInt64
  readTimeoutSecs : UInt64
  deriving Repr, DecidableEq

namespace ConnectionSettings

/-- The usual patience. -/
def usual : ConnectionSettings := ⟨10, 3, 5, 10, 10, 60⟩

/-- The patience as durations. -/
def config (s : ConnectionSettings) : ConnectionConfig :=
  { retryMax := s.retryMax
    retryWait := .ofSecs s.retryWaitSecs.toNat
    pingInterval := .ofSecs s.pingIntervalSecs.toNat
    pingTimeout := .ofSecs s.pingTimeoutSecs.toNat
    writeTimeout := .ofSecs s.writeTimeoutSecs.toNat
    readTimeout := .ofSecs s.readTimeoutSecs.toNat }

@[simp] theorem config_usual : usual.config = .usual := by decide

end ConnectionSettings

/-- Settings of the runner. -/
structure StreamConfig where
  endpoint : String
  apiBaseUrl : String
  /-- Sent along with the handshake, in ascending order of names. -/
  headers : List (String × String)
  credentialsPath : Option String
  connection : ConnectionSettings
  streams : List StreamSpec
  deriving Repr, DecidableEq

namespace StreamConfig

/-- The usual settings, with no streams. -/
def usual : StreamConfig :=
  ⟨RealtimeConfig.usualEndpoint, Client.usualBase, [], none, .usual, []⟩

/-- What concerns the real-time connections. -/
def realtime (c : StreamConfig) : RealtimeConfig :=
  ⟨c.endpoint, c.headers, c.connection.config⟩

/-- Whether calls will be made: to check a key, or to fetch the seed of a board. -/
def needsCalls (c : StreamConfig) : Bool :=
  c.credentialsPath.isSome || c.streams.any StreamSpec.isMerged

end StreamConfig
end ExchangeClient

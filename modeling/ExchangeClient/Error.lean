import ExchangeClient.Duration
import ExchangeClient.Json.Error
import ExchangeClient.Signing.Header
import ExchangeClient.Stream.Topic
import ExchangeClient.Text.Utf8
import ExchangeClient.Url.Error

/-!
# What can go wrong

Everything the client can report, by cause.  `ClientError` has a constructor for
each kind of failure and each kind its own type of causes where there are several;
the wording is in the `message` functions alone.

Two questions are asked of an error.  `isRetryable`: might the same call succeed on
a fresh connection?  `isConfigError`: is the configuration at fault, so that no
repetition helps?  No error answers yes to both.
-/

namespace ExchangeClient

/-- What is wrong with a key file. -/
inductive KeyFileFault where
  | missing
  /-- Others than the owner may use the file, or the owner may run it. -/
  | insecure (mode : Nat)
  | directory
  | notText
  /-- There are no two lines with something on them. -/
  | incomplete
  deriving Repr, DecidableEq

/-- The wording of a fault of the key file at `path`. -/
def KeyFileFault.message (path : String) : KeyFileFault → String
  | .missing => s!"api key file {path} not found: No such file or directory (os error 2)"
  | .insecure mode =>
    s!"api key file {path} has insecure permission " ++ String.ofList (Nat.toDigits 8 mode)
      ++ " (expected 600)"
  | .directory => s!"can not read api key file {path}: Is a directory (os error 21)"
  | .notText => s!"can not read api key file {path}: stream did not contain valid UTF-8"
  | .incomplete => s!"can not parse api key file {path}"

/-- What is wrong with a configuration. -/
inductive ConfigFault where
  /-- A private call on a client without a key. -/
  | noKey
  /-- The value of a signing header cannot be sent. -/
  | signingHeader (name : String)
  | headerName (name : String)
  | headerValue (name : String)
  /-- A connection manager was started twice. -/
  | alreadyStarted
  /-- A merged board was asked for without a client to fetch its seed. -/
  | noSeedClient
  | keyFile (path : String) (fault : KeyFileFault)
  | other (text : String)
  deriving Repr, DecidableEq

/-- The wording of a fault. -/
def ConfigFault.message : ConfigFault → String
  | .noKey => "private endpoint requires an authenticator"
  | .signingHeader name => s!"invalid {name} header value: failed to parse header value"
  | .headerName name => s!"invalid header name {name}: invalid HTTP header name"
  | .headerValue name =>
    "invalid header value for " ++ Header.canonical name ++ ": failed to parse header value"
  | .alreadyStarted => "connection manager already started"
  | .noSeedClient => "merged board requires a REST client"
  | .keyFile path fault => fault.message path
  | .other text => text

/-- Why a request cannot be built. -/
inductive RequestFault where
  | cancelChildBy (id : IdType)
  | childOrdersByParentAcceptance
  | executionsBy (id : IdType)
  | parentBy (id : IdType)
  | legCount (method : OrderMethod) (given : Nat)
  | other (text : String)
  deriving Repr, DecidableEq

/-- The wording of a fault. -/
def RequestFault.message : RequestFault → String
  | .cancelChildBy id => s!"cannot cancel child order by {id.label}"
  | .childOrdersByParentAcceptance =>
    "cannot look up child orders by parent order acceptance id"
  | .executionsBy id => s!"cannot look up executions by {id.label}"
  | .parentBy id => s!"parent orders are not addressed by {id.label}"
  | .legCount method given => s!"{method.label} takes {method.legCount} parameters, got {given}"
  | .other text => text

/-- Why an address cannot be connected to. -/
inductive AddressFault where
  | url (fault : UrlError)
  | scheme (name : String)
  | other (text : String)
  deriving Repr, DecidableEq

/-- The wording of a fault. -/
def AddressFault.message : AddressFault → String
  | .url fault => fault.message
  | .scheme name => s!"unsupported scheme {name}"
  | .other text => text

/-- What went wrong on a connection. -/
inductive SocketFault where
  | closedNormally
  | alreadyClosed
  | textEncoding
  | attack
  /-- The other side went away without a word. -/
  | reset
  /-- Something was written after the other side had closed. -/
  | writtenAfterClose
  /-- A binary frame that is no text. -/
  | binaryFrame (fault : Text.Utf8.Malformed)
  | unreachable
  | refused
  /-- The other side answered something else than a handshake. -/
  | rejected (status : Nat)
  | other (text : String)
  deriving Repr, DecidableEq

/-- The wording of a fault. -/
def SocketFault.message : SocketFault → String
  | .closedNormally => "Connection closed normally"
  | .alreadyClosed => "Trying to work with closed connection"
  | .textEncoding => "UTF-8 encoding error"
  | .attack => "Attack attempt detected"
  | .reset => "WebSocket protocol error: Connection reset without closing handshake"
  | .writtenAfterClose => "WebSocket protocol error: Sending after closing is not allowed"
  | .binaryFrame fault => "non-utf8 binary frame: " ++ fault.message
  | .unreachable => "IO error: Network is unreachable (os error 101)"
  | .refused => "IO error: Connection refused (os error 111)"
  | .rejected status => s!"HTTP error: {status}"
  | .other text => text

/-- What can go wrong. -/
inductive ClientError where
  /-- A request could not be sent, or got no answer. -/
  | http
  /-- A request was answered with another status than success. -/
  | api (status : Nat) (body : String)
  | json (cause : Json.DecodeError)
  | url (fault : UrlError)
  | webSocket (fault : SocketFault)
  | invalidAddress (address : String) (fault : AddressFault)
  | alreadyExists (key : ChannelKey)
  | notFound (key : ChannelKey)
  | config (fault : ConfigFault)
  | invalidRequest (fault : RequestFault)
  | timeout (operation : String) (after : Duration)
  | connectionClosed
  deriving Repr

namespace ClientError

/-- The kind of an error. -/
def kind : ClientError → String
  | .http => "Http"
  | .api _ _ => "Api"
  | .json _ => "Json"
  | .url _ => "UrlParse"
  | .webSocket _ => "WebSocket"
  | .invalidAddress _ _ => "InvalidAddress"
  | .alreadyExists _ => "AlreadyExists"
  | .notFound _ => "NotFound"
  | .config _ => "Config"
  | .invalidRequest _ => "InvalidRequest"
  | .timeout _ _ => "Timeout"
  | .connectionClosed => "ConnectionClosed"

/-- The wording of an error, if it has one of its own. -/
def message? : ClientError → Option String
  | .http => none
  | .api status body => some (s!"API error (status {status}): " ++ body)
  | .json (.mismatch cause) => some cause.message
  | .json _ => none
  | .url fault => some ("Invalid URL: " ++ fault.message)
  | .webSocket fault => some ("WebSocket error: " ++ fault.message)
  | .invalidAddress address fault =>
    some ("Invalid endpoint address " ++ address ++ ": " ++ fault.message)
  | .alreadyExists key => some ("Stream already exists: " ++ key.text)
  | .notFound key => some ("Stream not found: " ++ key.text)
  | .config fault => some ("Configuration error: " ++ fault.message)
  | .invalidRequest fault => some ("Invalid request: " ++ fault.message)
  | .timeout operation after => some (operation ++ " timed out after " ++ after.text)
  | .connectionClosed => some "Connection closed"

/-- Whether the same call may succeed on a fresh connection. -/
def isRetryable : ClientError → Bool
  | .http | .webSocket _ | .timeout _ _ | .connectionClosed => true
  | .api status _ => status == 429 || 500 ≤ status
  | _ => false

/-- Whether the configuration is at fault. -/
def isConfigError : ClientError → Bool
  | .config _ | .invalidAddress _ _ => true
  | _ => false

/-- What a repetition may mend is not the configuration's fault. -/
theorem isConfigError_eq_false {e : ClientError} (h : e.isRetryable = true) :
    e.isConfigError = false := by
  cases e <;> simp_all [isRetryable, isConfigError]

end ClientError
end ExchangeClient

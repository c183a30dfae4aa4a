import ExchangeClient.Config.Settings
import ExchangeClient.Json.Value

/-!
# Reading settings

Settings come from two kinds of trees, which differ in what counts as a text, a
number or a record.  `Reading` says for a kind of tree how each is read, and
`StreamConfig.read` reads settings by it; so the two agree on which settings there
are, which have a usual value, and which must be given.
-/

namespace ExchangeClient

/-- How a kind of tree is read. -/
structure Reading (τ : Type) where
  text? : τ → Option String
  flag? : τ → Option Bool
  /-- A whole number below a power of two. -/
  number? : (bits : Nat) → τ → Option Nat
  /-- A value that may be missing: `some none` if it says so. -/
  optional? : τ → Option (Option τ)
  items? : τ → Option (List τ)
  /-- The values of some fields, in their order. -/
  record? : (fields : List String) → τ → Option (List (Option τ))
  /-- The entries of a dictionary, in the order in which they count. -/
  dictionary? : τ → Option (List (String × τ))
  /-- One of some names. -/
  choice? : (names : List String) → τ → Option String

namespace Reading

variable {τ : Type} (r : Reading τ)

/-- The value of a field, or the usual one if the field is not given. -/
def field {α : Type} (read : τ → Option α) (usual : α) : Option τ → Option α
  | some t => read t
  | none => some usual

/-- The value of a field that must be given. -/
def required {α : Type} (read : τ → Option α) : Option τ → Option α
  | some t => read t
  | none => none

/-- A number of seconds. -/
def seconds? (t : τ) : Option UInt64 := (r.number? 64 t).map UInt64.ofNat

/-- The patience of connections. -/
def connection? (t : τ) : Option ConnectionSettings := do
  let usual := ConnectionSettings.usual
  let fields ← r.record? ["retry_max", "retry_wait_secs", "ping_interval_secs",
    "ping_timeout_secs", "write_timeout_secs", "read_timeout_secs"] t
  match fields with
  | [retryMax, retryWait, pingInterval, pingTimeout, writeTimeout, readTimeout] =>
    return {
      retryMax := ← field (fun t => (r.number? 32 t).map UInt32.ofNat) usual.retryMax retryMax
      retryWaitSecs := ← field r.seconds? usual.retryWaitSecs retryWait
      pingIntervalSecs := ← field r.seconds? usual.pingIntervalSecs pingInterval
      pingTimeoutSecs := ← field r.seconds? usual.pingTimeoutSecs pingTimeout
      writeTimeoutSecs := ← field r.seconds? usual.writeTimeoutSecs writeTimeout
      readTimeoutSecs := ← field r.seconds? usual.readTimeoutSecs readTimeout }
  | _ => none

/-- The kind of a stream. -/
def kind? (t : τ) : Option StreamKind :=
  (r.choice? (StreamKind.all.map StreamKind.selection) t).bind StreamKind.ofSelection?

/-- A stream to run. -/
def stream? (t : τ) : Option StreamSpec := do
  match ← r.record? ["product_code", "stream", "merge"] t with
  | [product, kind, merge] =>
    return ⟨← required r.text? product, ← required r.kind? kind, ← field r.flag? false merge⟩
  | _ => none

/-- Headers in ascending order of names; of two with one name the last counts. -/
def headers? (t : τ) : Option (List (String × String)) := do
  let entries ← r.dictionary? t
  let pairs ← entries.mapM fun (name, t) => (r.text? t).map fun value => (name, value)
  return Json.sortMembers pairs

/-- A path that may be missing. -/
def path? (t : τ) : Option (Option String) := do
  match ← r.optional? t with
  | none => return none
  | some t => (r.text? t).map some

/-- Settings of the runner. -/
def config? (t : τ) : Option StreamConfig := do
  let usual := StreamConfig.usual
  let fields ← r.record? ["endpoint", "api_base_url", "headers", "credentials_path", "connection",
    "streams"] t
  match fields with
  | [endpoint, apiBaseUrl, headers, credentialsPath, connection, streams] =>
    return {
      endpoint := ← field r.text? usual.endpoint endpoint
      apiBaseUrl := ← field r.text? usual.apiBaseUrl apiBaseUrl
      headers := ← field r.headers? usual.headers headers
      credentialsPath := ← field r.path? usual.credentialsPath credentialsPath
      connection := ← field r.connection? usual.connection connection
      streams := ← field (fun t => (r.items? t).bind fun ts => ts.mapM r.stream?) usual.streams
        streams }
  | _ => none

end Reading
end ExchangeClient

import ExchangeClient.Feed.Client
import ExchangeClient.Signing.Credentials

/-!
# What the runner sets out with

From its settings the runner makes a client for feeds and, only if calls will be made,
a client for calls.  The base address of the calls is looked at before the key file.
What goes wrong on the way is reported with the stage at which it went wrong.
-/

namespace ExchangeClient

/-- A stage of a run. -/
inductive RunStage where
  | createClient
  | loadKey (path : String)
  | verifyKey
  | startStream (key : ChannelKey)
  deriving Repr, DecidableEq

/-- The name of a stage in a report. -/
def RunStage.text : RunStage → String
  | .createClient => "create REST client"
  | .loadKey path => s!"load credentials from {path}"
  | .verifyKey => "verify API credentials"
  | .startStream key => "start stream " ++ key.text

/-- What went wrong, and at which stage. -/
structure RunFailure where
  stage : RunStage
  cause : ClientError
  deriving Repr

/-- What happened at a stage. -/
def RunStage.attempt {α : Type} (stage : RunStage) (r : Except ClientError α) :
    Except RunFailure α :=
  r.mapError fun cause => ⟨stage, cause⟩

namespace StreamConfig

/-- The client for calls, if any will be made. -/
def callClient (c : StreamConfig) (keyFile : String → KeyFile) :
    Except RunFailure (Option Client) :=
  if !c.needsCalls then .ok none
  else do
    let client ← RunStage.createClient.attempt (Client.ofBase c.apiBaseUrl)
    match c.credentialsPath with
    | none => return some client
    | some path =>
      let key ← (RunStage.loadKey path).attempt (ApiKey.load path (keyFile path))
      return some (client.withKey key)

/-- The client for feeds, with the client for calls. -/
def feedClient {α : Type} (c : StreamConfig) (keyFile : String → KeyFile) :
    Except RunFailure (FeedClient α) :=
  (c.callClient keyFile).map fun calls => FeedClient.ofConfig c.realtime calls

end StreamConfig
end ExchangeClient

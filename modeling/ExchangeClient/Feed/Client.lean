import ExchangeClient.Config.Settings
import ExchangeClient.Stream.Handler

/-!
# The feed client

The feed client runs at most one stream for each key.  A start enters the stream
under its key, a stop takes it out; whatever fails leaves the client as it was.

The start of a merged board has two parts with a call between them.  First it is
looked whether the key is taken and whether there is a client for the call; then the
seed is fetched, while other starts and stops go on; then the stream is entered, and
there the key is looked at once more.

The streams themselves are of any type, so that the rules of entering and taking out
can be stated by themselves.
-/

namespace ExchangeClient

/-- A client for real-time feeds, with streams of type `α`. -/
structure FeedClient (α : Type) where
  config : RealtimeConfig
  /-- The client that fetches seeds of merged boards. -/
  calls : Option Client
  /-- The running streams, the oldest first. -/
  streams : List (ChannelKey × α)

namespace FeedClient

variable {α : Type}

/-- A client without streams. -/
def ofConfig (config : RealtimeConfig) (calls : Option Client) : FeedClient α :=
  ⟨config, calls, []⟩

/-- The shown form, which leaves the streams out. -/
def shown (c : FeedClient α) : String :=
  let calls :=
    match c.calls with
    | some calls => "Some(" ++ calls.shown ++ ")"
    | none => "None"
  "RealtimeClient \x7b config: " ++ c.config.shown ++ ", rest: " ++ calls ++ ", .. \x7d"

/-- The stream with a key. -/
def find? (c : FeedClient α) (key : ChannelKey) : Option α := c.streams.lookup key

/-- Whether a stream with a key is running. -/
def isRunning (c : FeedClient α) (key : ChannelKey) : Bool := (c.find? key).isSome

/-- The keys of the running streams. -/
def keys (c : FeedClient α) : List ChannelKey := c.streams.map (·.1)

/-- What is looked at before the seed of a merged board is fetched. -/
def seedCalls (c : FeedClient α) (key : ChannelKey) : Except ClientError Client :=
  if c.isRunning key then .error (.alreadyExists key)
  else
    match c.calls with
    | some calls => .ok calls
    | none => .error (.config .noSeedClient)

/-- Enters a stream under a key that is not taken, unless it cannot be made. -/
def enter (c : FeedClient α) (key : ChannelKey) (make : Except ClientError α) :
    Except ClientError (FeedClient α) :=
  if c.isRunning key then .error (.alreadyExists key)
  else do
    return { c with streams := c.streams ++ [(key, ← make)] }

/-- Takes a stream out. -/
def take (c : FeedClient α) (key : ChannelKey) : Except ClientError (α × FeedClient α) :=
  match c.find? key with
  | some stream => .ok (stream, { c with streams := c.streams.filter fun entry => entry.1 ≠ key })
  | none => .error (.notFound key)

/-- The handler of a stream without a seed. -/
def plainHandler : StreamKind → Handler
  | .ticker => .ticker
  | .boardSnapshot => .boardSnapshot
  | .board => .board
  | .executions => .executions

@[simp] theorem plainHandler_kind (kind : StreamKind) : (plainHandler kind).kind = kind := by
  cases kind <;> rfl

/-- A stream that was entered is running, and so are all those before it. -/
theorem isRunning_enter {c c' : FeedClient α} {key other : ChannelKey}
    {make : Except ClientError α} (h : c.enter key make = .ok c') :
    c'.isRunning other = (c.isRunning other || other == key) := by
  unfold enter at h
  split at h
  · cases h
  · cases hm : make with
    | error e => simp [hm, bind, Except.bind] at h
    | ok a =>
      simp only [hm, bind, Except.bind, pure, Except.pure, Except.ok.injEq] at h
      subst h
      simp only [isRunning, find?, List.lookup_append, Option.isSome_or]
      congr 1
      simp only [List.lookup_cons]
      split <;> simp_all

end FeedClient
end ExchangeClient

import ExchangeClient.Runner.Clients
import ExchangeClient.Simulation.World

/-!
# Running streams

The runner starts streams one after the other, up to the first that fails, and enters
each that was started into its accounts.  A run ends with a shutdown that stops all
streams; what is left is the summary.
-/

namespace ExchangeClient
namespace World

/-- Starts a stream and enters it into the accounts. -/
def startWatched (w : World) (spec : StreamSpec) : Except RunFailure Unit × World :=
  match w.start spec with
  | (.error cause, w) => (.error ⟨.startStream spec.key, cause⟩, w)
  | (.ok (), w) => (.ok (), { w with accounts := w.accounts.enroll spec.key })

/-- Starts streams in order, up to the first that fails. -/
def startAll : List StreamSpec → World → Except RunFailure Unit × World
  | [], w => (.ok (), w)
  | spec :: specs, w =>
    match w.startWatched spec with
    | (.ok (), w) => startAll specs w
    | (.error failure, w) => (.error failure, w)

/-- Asks for a shutdown and stops all streams. -/
def shutdown (w : World) : World :=
  { w with accounts := w.accounts.shutdown }.look.stopAll.2

end World

/-- What is left of a run. -/
structure RunSummary where
  /-- How many updates each stream has delivered. -/
  updates : List (ChannelKey × Nat)
  /-- The streams whose connections were given up. -/
  exhausted : List ChannelKey
  deriving Repr, DecidableEq

/-- The summary of a run. -/
def World.summary (w : World) : RunSummary := ⟨w.accounts.counters, w.accounts.exhausted⟩

end ExchangeClient

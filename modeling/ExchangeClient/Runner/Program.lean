import ExchangeClient.Config.Layered
import ExchangeClient.Runner.CommandLine
import ExchangeClient.Runner.LogLine
import ExchangeClient.Runner.Run

/-!
# The program

A run of the stream runner from the command line to the exit code.  The order is fixed:
the log filter, the settings, whether there are any streams, the dry run, the clients,
the key, the streams.  The first thing that goes wrong ends the run and names itself.

A run that got its streams started ends when its time is up or when every connection
was given up, whichever comes first; in the second case it fails.
-/

namespace ExchangeClient

/-- What a run finds around it. -/
structure Surroundings where
  /-- The content of a file of settings, if it exists. -/
  settings : String → Option String
  /-- The variables of the environment. -/
  environment : List (String × String)
  keyFile : String → KeyFile
  exchange : Exchange
  /-- The time that calls are signed with. -/
  timestamp : String

/-- Why a run failed. -/
inductive ProgramFault where
  | logLevel
  | settings (path : String)
  | noStreams
  | failure (failure : RunFailure)
  | exhausted (streams : Nat)
  deriving Repr

/-- The report of a failed run. -/
def ProgramFault.text : ProgramFault → String
  | .logLevel => "invalid log level"
  | .settings path => s!"load config from {path}"
  | .noStreams => "no streams configured; pass --product-code or list streams in --config"
  | .failure f => f.stage.text
  | .exhausted streams => s!"{streams} stream(s) exhausted their reconnect attempts"

/-- How a run ended. -/
structure ProgramEnd where
  fault : Option ProgramFault
  /-- The events that the log filter let pass, in order. -/
  log : List LogEvent
  exchange : Exchange

namespace ProgramEnd

/-- The code that the run ends with. -/
def exitCode (e : ProgramEnd) : UInt8 := if e.fault.isSome then 1 else 0

end ProgramEnd

namespace Options

/-- The settings of a run. -/
def settings? (o : Options) (s : Surroundings) : Except ProgramFault StreamConfig :=
  match o.configPath with
  | none => .ok (o.apply .usual)
  | some path =>
    match StreamConfig.ofLayers? (s.settings path) s.environment with
    | some c => .ok (o.apply c)
    | none => .error (.settings path)

/-- How many retry waits a run can take: those that end before its time is up, or all. -/
def waits (o : Options) (w : World) : Nat :=
  match o.durationSecs with
  | some secs => w.waitsWithin (.ofSecs secs.toNat)
  | none => w.client.config.connection.retryMax.toNat

/-- Runs the streams of some settings to the end. -/
def runStreams (o : Options) (c : StreamConfig) (w : World) :
    Option ProgramFault × List LogEvent × Exchange :=
  match World.startAll c.streams w with
  | (.error failure, w) => (some (.failure failure), [], w.shutdown.exchange)
  | (.ok (), w) =>
    let (w, deliveries) := w.settle (o.waits w)
    let w := w.shutdown
    let summary := w.summary
    let events := .streamsStarted :: deliveries.map (fun d => .update d.key d.update)
      ++ [.shutdownRequested] ++ summary.updates.map fun (key, n) => .streamSummary key n
    if summary.exhausted.isEmpty then (none, events ++ [.shutdownComplete], w.exchange)
    else (some (.exhausted summary.exhausted.length), events, w.exchange)

/-- Checks the key with a call, if there is one. -/
def verifyKey (s : Surroundings) (calls : Option Client) :
    Except RunFailure (List LogEvent) × Exchange :=
  match calls with
  | some client =>
    if client.isAuthenticated then
      let (answer, exchange) := s.exchange.ask client s.timestamp .permissions
      (RunStage.verifyKey.attempt (answer.map fun v =>
        [.credentialsVerified (Wire.ofValue v : List String).length]), exchange)
    else (.ok [], s.exchange)
  | none => (.ok [], s.exchange)

/-- Makes the clients, checks the key and runs the streams. -/
def runClients (o : Options) (c : StreamConfig) (s : Surroundings) :
    Option ProgramFault × List LogEvent × Exchange :=
  match c.callClient s.keyFile with
  | .error failure => (some (.failure failure), [], s.exchange)
  | .ok calls =>
    match verifyKey s calls with
    | (.error failure, exchange) => (some (.failure failure), [], exchange)
    | (.ok events, exchange) =>
      let w := World.ofClient (FeedClient.ofConfig c.realtime calls) exchange
      let (fault, more, exchange) := o.runStreams c w
      (fault, events ++ more, exchange)

/-- All that happens once the settings are read. -/
def runSettings (o : Options) (c : StreamConfig) (s : Surroundings) :
    Option ProgramFault × List LogEvent × Exchange :=
  let loaded := LogEvent.configurationLoaded c.endpoint c.streams.length
  if c.streams.isEmpty then (some .noStreams, [loaded], s.exchange)
  else if o.dryRun then (none, [loaded, .dryRun], s.exchange)
  else
    let (fault, events, exchange) := o.runClients c s
    (fault, loaded :: events, exchange)

/-- Runs the program. -/
def run (o : Options) (s : Surroundings) : ProgramEnd :=
  match LogFilter.ofText? o.logFilterText with
  | none => ⟨some .logLevel, [], s.exchange⟩
  | some filter =>
    match o.settings? s with
    | .error fault => ⟨some fault, [], s.exchange⟩
    | .ok c =>
      let (fault, events, exchange) := o.runSettings c s
      ⟨fault, events.filter fun e => e.passes filter, exchange⟩

end Options
end ExchangeClient

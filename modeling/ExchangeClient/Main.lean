import ExchangeClient.Runner.Program

/-!
# The command

Reads what a run finds around it, runs the program, and prints what it says: the log on
the standard output, a fault on the standard error, each with its exit code.

The command opens no sockets.  It runs against an exchange to which there is no way,
so that dry runs and faults of the settings come out as they are, and everything else
ends where the network would be needed.  Nor can it see the permissions of a file; it
takes the key file for private.
-/

namespace ExchangeClient
namespace Command

/-- The text of a file, if it can be read. -/
def readText? (path : String) : IO (Option String) := do
  try
    return some (← IO.FS.readFile path)
  catch _ =>
    return none

/-- What stands at the path of a key file. -/
def readKeyFile (path : String) : IO KeyFile := do
  try
    return .file 0o600 (← IO.FS.readBinFile path).toList
  catch
    | .noFileOrDirectory .. => return .missing
    | _ => return .directory 0o600

/-- The variables among the bytes of an environment, each of which ends in a zero. -/
def variablesOfBytes (bytes : List UInt8) : List (String × String) :=
  let text := Text.Utf8.decodeLossy bytes
  (Text.pieces (Char.ofNat 0) text).filterMap fun entry =>
    match Text.cut '=' entry with
    | (name, some value) => some (String.ofList name, String.ofList value)
    | _ => none

/-- The variables of the environment. -/
def readVariables : IO (List (String × String)) := do
  try
    return variablesOfBytes (← IO.FS.readBinFile "/proc/self/environ").toList
  catch _ =>
    return []

/-- What a run finds around it. -/
def surroundings (o : Options) : IO Surroundings := do
  let settings ←
    match o.configPath with
    | some path => readText? path
    | none => pure none
  let s : Surroundings :=
    { settings := fun _ => settings
      environment := ← readVariables
      keyFile := fun _ => .missing
      exchange := .unreachable
      timestamp := toString (← IO.monoNanosNow) }
  match o.settings? s with
  | .ok { credentialsPath := some path, .. } =>
    let file ← readKeyFile path
    return { s with keyFile := fun _ => file }
  | _ => return s

/-- What is printed when help is asked for. -/
def usage : String :=
  "Usage: bitflyer-stream [--config PATH] [--product-code CODE] [--stream KIND] [--merge]\n"
    ++ "                       [--duration-secs SECS] [--log-level LEVEL] [--dry-run]"

/-- What is printed when the version is asked for. -/
def version : String := "bitflyer-stream 0.1.0"

/-- Runs the command. -/
def run (args : List String) : IO UInt32 := do
  match Options.ofArgs args with
  | .error _ =>
    IO.eprintln usage
    return 2
  | .ok (.info .help) =>
    IO.println usage
    return 0
  | .ok (.info .version) =>
    IO.println version
    return 0
  | .ok (.run options) =>
    let e := options.run (← surroundings options)
    for event in e.log do
      IO.println event.line
    match e.fault with
    | some fault => IO.eprintln ("Error: " ++ fault.text)
    | none => pure ()
    return e.exitCode.toUInt32

end Command
end ExchangeClient

/-- The command. -/
def main (args : List String) : IO UInt32 := ExchangeClient.Command.run args

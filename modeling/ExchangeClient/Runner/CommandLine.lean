import ExchangeClient.Config.Settings

/-!
# The command line

What the runner can be told in words.  Options are read from left to right and the
first thing that is wrong decides: an unknown word, a value that is missing or does
not fit, an option given twice.  Asking for help or for the version ends the
reading, and what comes after it is not looked at.

A value stands in the next word or behind a sign of equality.  In the next word it
must not look like an option; only a single dash is a value.
-/

namespace ExchangeClient

/-- An option with a value. -/
inductive ValueOption where
  | config
  | productCode
  | stream
  | durationSecs
  | logLevel
  deriving Repr, DecidableEq

/-- An option without a value. -/
inductive SwitchOption where
  | merge
  | dryRun
  deriving Repr, DecidableEq

/-- An option that ends the reading. -/
inductive InfoOption where
  | help
  | version
  deriving Repr, DecidableEq

/-- The options by name. -/
inductive OptionKind where
  | value (option : ValueOption)
  | switch (option : SwitchOption)
  | info (option : InfoOption)
  deriving Repr, DecidableEq

/-- The option with a long name. -/
def OptionKind.ofName? : String → Option OptionKind
  | "config" => some (.value .config)
  | "product-code" => some (.value .productCode)
  | "stream" => some (.value .stream)
  | "duration-secs" => some (.value .durationSecs)
  | "log-level" => some (.value .logLevel)
  | "merge" => some (.switch .merge)
  | "dry-run" => some (.switch .dryRun)
  | "help" => some (.info .help)
  | "version" => some (.info .version)
  | _ => none

/-- What the runner was told. -/
structure Options where
  configPath : Option String
  productCode : Option String
  stream : Option StreamKind
  durationSecs : Option UInt64
  logLevel : Option String
  merge : Bool
  dryRun : Bool
  deriving Repr, DecidableEq

/-- What is wrong with a command line. -/
inductive UsageFault where
  | unknown (word : String)
  | missingValue (option : ValueOption)
  | badValue (option : ValueOption) (value : String)
  | unexpectedValue (word : String)
  | repeatedValue (option : ValueOption)
  | repeatedSwitch (option : SwitchOption)
  deriving Repr, DecidableEq

/-- What a command line asks for. -/
inductive Invocation where
  | run (options : Options)
  | info (option : InfoOption)
  deriving Repr, DecidableEq

namespace Options

/-- Nothing was said. -/
def unsaid : Options := ⟨none, none, none, none, none, false, false⟩

/-- The number of seconds that a value writes. -/
def seconds? (value : String) : Option UInt64 :=
  let cs := value.toList
  let digits := if cs.head? = some '+' then cs.tail else cs
  if digits.isEmpty || !digits.all Char.isDigit then none
  else
    let n := digits.foldl (fun n c => n * 10 + (c.toNat - 48)) 0
    if n < UInt64.size then some (UInt64.ofNat n) else none

/-- Whether an option was given its value already. -/
def isGiven (o : Options) : ValueOption → Bool
  | .config => o.configPath.isSome
  | .productCode => o.productCode.isSome
  | .stream => o.stream.isSome
  | .durationSecs => o.durationSecs.isSome
  | .logLevel => o.logLevel.isSome

/-- Sets an option to a value that fits. -/
def assign? (o : Options) (option : ValueOption) (value : String) : Option Options :=
  match option with
  | .config => if value.isEmpty then none else some { o with configPath := some value }
  | .productCode => some { o with productCode := some value }
  | .stream =>
    (StreamKind.ofSelection? value).map fun kind => { o with stream := some kind }
  | .durationSecs => (seconds? value).map fun n => { o with durationSecs := some n }
  | .logLevel => some { o with logLevel := some value }

/-- Sets an option that was not set before. -/
def set (o : Options) (option : ValueOption) (value : String) : Except UsageFault Options :=
  if o.isGiven option then .error (.repeatedValue option)
  else
    match o.assign? option value with
    | some o => .ok o
    | none => .error (.badValue option value)

/-- Turns a switch on that was not turned on before. -/
def turnOn (o : Options) : SwitchOption → Except UsageFault Options
  | .merge =>
    if o.merge then .error (.repeatedSwitch .merge) else .ok { o with merge := true }
  | .dryRun =>
    if o.dryRun then .error (.repeatedSwitch .dryRun) else .ok { o with dryRun := true }

/-- Whether a word looks like an option. -/
def isOptionLike (word : String) : Bool :=
  word.toList.head? = some '-' && word ≠ "-"

/-- A word that looks like an option: its short letter, or its name and value. -/
inductive Word where
  | short (letter : Option Char)
  | long (name : String) (value : Option String)

/-- Takes a word apart that looks like an option. -/
def Word.ofText (word : String) : Word :=
  match word.toList with
  | '-' :: '-' :: rest =>
    let (name, value) := Text.cut '=' rest
    .long (String.ofList name) (value.map String.ofList)
  | _ :: rest => .short rest.head?
  | [] => .short none

/-- Reads the words that are left, with the option that still lacks its value. -/
def read (o : Options) (pending : Option ValueOption) : List String → Except UsageFault Invocation
  | [] =>
    match pending with
    | some option => .error (.missingValue option)
    | none => .ok (.run o)
  | word :: rest =>
    match pending with
    | some option =>
      if isOptionLike word then .error (.missingValue option)
      else do (← o.set option word).read none rest
    | none =>
      if !isOptionLike word then .error (.unknown word)
      else if word = "--" then
        match rest with
        | [] => .ok (.run o)
        | extra :: _ => .error (.unknown extra)
      else
        match Word.ofText word with
        | .short (some 'h') => .ok (.info .help)
        | .short (some 'V') => .ok (.info .version)
        | .short _ => .error (.unknown word)
        | .long name value =>
          match OptionKind.ofName? name, value with
          | none, _ => .error (.unknown word)
          | some (.value option), some value => do (← o.set option value).read none rest
          | some (.value option), none => o.read (some option) rest
          | some (.switch option), none => do (← o.turnOn option).read none rest
          | some (.info option), none => .ok (.info option)
          | some _, some _ => .error (.unexpectedValue word)

/-- Reads a command line. -/
def ofArgs (args : List String) : Except UsageFault Invocation := unsaid.read none args

/-- The one stream that was named on the command line, if any was. -/
def namedStream (o : Options) : Option StreamSpec :=
  o.productCode.map fun product => ⟨product, o.stream.getD .ticker, o.merge⟩

/-- The settings with the stream that was named instead of those that are configured. -/
def apply (o : Options) (c : StreamConfig) : StreamConfig :=
  match o.namedStream with
  | some spec => { c with streams := [spec] }
  | none => c

/-- How much of the log is wanted. -/
def logFilterText (o : Options) : String := o.logLevel.getD "info"

end Options
end ExchangeClient

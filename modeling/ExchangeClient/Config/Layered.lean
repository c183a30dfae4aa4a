import ExchangeClient.Config.File
import ExchangeClient.Config.Reading
import ExchangeClient.Double.Text
import ExchangeClient.Text.LowerCase

/-!
# Settings in layers

The settings of a file are overlaid with those of the environment.  Both become trees
of values first: the file says by its spelling which scalars are flags and numbers,
and the environment tries the same readings of each variable.  The overlay then sets
values one by one at their paths.

Reading is generous here.  A number is a flag, a flag is a number or a text, and a text
is either if it is spelled that way, in any case.
-/

namespace ExchangeClient

namespace Setting

/-! ## The environment -/

/-- What names of variables start with, in lower case. -/
def variableStem : String := "bitflyer__"

/-- A text with each pair of underscores read as the point of a path. -/
def pointed : List Char → List Char
  | '_' :: '_' :: rest => '.' :: pointed rest
  | c :: rest => c :: pointed rest
  | [] => []

/-- The path of a variable, if it is one of the settings. -/
def variablePath? (name : String) : Option String :=
  let cs := Text.lowerCase name.toList
  let stem := variableStem.toList
  if stem.isPrefixOf cs then some (String.ofList (pointed (cs.drop stem.length))) else none

/-- The value of a variable. -/
def ofVariable (s : String) : Setting :=
  let word := String.ofList (Text.lowerCase s.toList)
  if word = "true" then .flag true
  else if word = "false" then .flag false
  else
    match whole? s.toList with
    | some n => .whole n
    | none =>
      match Double.ofDecimal? s.toList with
      | some x => .double x
      | none => .text s

/-- The settings of an environment. -/
def ofEnvironment (environment : List (String × String)) : List (String × Setting) :=
  environment.filterMap fun (name, value) =>
    (variablePath? name).map fun path => (path, ofVariable value)

/-! ## The generous reading -/

/-- A word for yes, for no, or neither. -/
def answerWord? (s : String) : Option Bool :=
  let word := String.ofList (Text.lowerCase s.toList)
  if ["true", "on", "yes"].contains word then some true
  else if ["false", "off", "no"].contains word then some false
  else none

/-- The whole number nearest to a double, a half away from zero, within sixty-four
unsigned bits. -/
def nearestWhole (x : Float) : Nat := x.round.toUInt64.toNat

/-- The generous reading. -/
def generous : Reading Setting where
  text?
    | .text s => some s
    | .flag b => some (toString b)
    | .whole n => some (toString n)
    | .double x => some (Double.toPlain x)
    | _ => none
  flag?
    | .flag b => some b
    | .whole n => some (n != 0)
    | .double x => some (x != 0.0)
    | .text s => if s = "1" then some true else if s = "0" then some false else answerWord? s
    | _ => none
  number? bits setting := do
    let n ←
      match setting with
      | .flag b => some (if b then 1 else 0)
      | .whole n => if 0 ≤ n then some n.toNat else none
      | .double x => some (nearestWhole x)
      | .text s =>
        match answerWord? s with
        | some b => some (if b then 1 else 0)
        | none =>
          let cs := s.toList
          let digits := if cs.head? = some '+' then cs.tail else cs
          if digits.isEmpty || !digits.all Char.isDigit then none
          else
            let n := Double.digitsValue digits
            if n < UInt64.size then some n else none
      | _ => none
    if n < Nat.pow 2 bits then some n else none
  optional?
    | .nothing => some none
    | setting => some (some setting)
  items?
    | .list items => some items
    | _ => none
  record? fields
    | .table entries => some (fields.map fun field => entries.lookup field)
    | .list items => some ((List.range fields.length).map fun i => items[i]?)
    | _ => none
  dictionary?
    | .table entries => some entries
    | _ => none
  choice? names
    | .text s => if names.contains s then some s else none
    | .table [(key, _)] => if names.contains key then some key else none
    | _ => none

end Setting

/-- The settings that a file and an environment write; `none` if the file does not exist
or either cannot be read. -/
def StreamConfig.ofLayers? (file : Option String) (environment : List (String × String)) :
    Option StreamConfig := do
  let entries ← FileValue.entries? (← file)
  let base := Setting.overlay (.table []) entries
  Setting.generous.config? (Setting.overlay base (Setting.ofEnvironment environment))

end ExchangeClient

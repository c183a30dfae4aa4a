import ExchangeClient.Runner.LogPattern
import ExchangeClient.Text.Alphanumeric
import ExchangeClient.Text.Blank
import ExchangeClient.Text.Pieces

/-!
# Log filters

A filter is a list of directives with commas between them.  A directive gives a level,
alone or for the targets that start with a text: `info`, `runner=debug`, `runner`
alone for everything of that target.  Part of a directive may be bound to a span in
brackets; outside of spans such a directive enables nothing.

Of the directives that apply to an event the most specific one decides: the one with
the longest target, then one that asks for a field, then the one whose words are
greater, and of two that say the same the last.  Without any directive only errors are
enabled.
-/

namespace ExchangeClient

/-- How much of a log is wanted, in ascending order. -/
inductive LogLevel where
  | off
  | error
  | warn
  | info
  | debug
  | trace
  deriving Repr, DecidableEq

namespace LogLevel

/-- The place of a level in the order. -/
def rank : LogLevel → Nat
  | .off => 0
  | .error => 1
  | .warn => 2
  | .info => 3
  | .debug => 4
  | .trace => 5

/-- The levels in ascending order. -/
def all : List LogLevel := [.off, .error, .warn, .info, .debug, .trace]

/-- The name of a level. -/
def name : LogLevel → String
  | .off => "off"
  | .error => "error"
  | .warn => "warn"
  | .info => "info"
  | .debug => "debug"
  | .trace => "trace"

/-- The level with a name, in capitals or not, or with a rank. -/
def ofText? (cs : List Char) : Option LogLevel :=
  let digits := if cs.head? = some '+' then cs.tail else cs
  if !digits.isEmpty && digits.all Char.isDigit then
    let n := digits.foldl (fun n c => n * 10 + (c.toNat - 48)) 0
    all.find? fun level => level.rank = n
  else
    let word := String.ofList (cs.map Char.toLower)
    if word.isEmpty then some .error else all.find? fun level => level.name = word

end LogLevel

/-- A field that an event must have. -/
structure LogField where
  name : List Char
  /-- Whether a value is asked for too. -/
  hasValue : Bool
  deriving Repr, DecidableEq

/-- A directive of a log filter. -/
structure LogDirective where
  /-- The targets that the directive is about start with this. -/
  target : Option (List Char)
  /-- The span that the directive is about. -/
  span : Option (List Char)
  field : Option LogField
  level : LogLevel
  deriving Repr, DecidableEq

namespace LogDirective

/-- A character that a directive may start with, a bracket aside. -/
def isStart (c : Char) : Bool :=
  c == '-' || c == ':' || c == '_' || Text.isAlphanumeric c

/-! ## Reading

A directive is read with the blanks around it left out.  What its parts say is cut out
of the text with the blanks, at the places where they stand without, so a blank in
front shifts every part.
-/

/-- What a directive has come to.  Each part under way remembers where it started. -/
inductive Progress where
  | start
  | word (first : Nat)
  | span (first : Nat)
  | field (first : Nat)
  | afterField
  | afterSpan
  | level (first : Nat)
  deriving Repr, DecidableEq

/-- The characters of a text from one byte up to another. -/
def bytesBetween (first last : Nat) : (place : Nat) → List Char → List Char
  | _, [] => []
  | place, c :: rest =>
    let rest := bytesBetween first last (place + c.utf8Size) rest
    if first ≤ place && place < last then c :: rest else rest

/-- The field that a text writes; a value has to be something that can be looked
for. -/
def field? (cs : List Char) : Option LogField :=
  match Text.pieces '=' cs with
  | [] => none
  | [name] => if name.isEmpty then none else some ⟨name, false⟩
  | name :: value :: _ => if LogPattern.isValue value then some ⟨name, true⟩ else none

/-- The level behind the sign of equality; nothing there means everything. -/
def levelAfter? (cs : List Char) : Option LogLevel :=
  if cs.isEmpty then some .trace else LogLevel.ofText? cs

/-- Takes the character at a place of the text. -/
def advance (text : List Char) (d : LogDirective) (place : Nat) (c : Char) :
    Progress → Option (LogDirective × Progress)
  | .start =>
    if c = '[' then some (d, .span (place + 1))
    else if isStart c then some (d, .word place)
    else none
  | .word first =>
    if c = '=' then
      some ({ d with target := some (bytesBetween first place 0 text) }, .level (place + 1))
    else if c = '[' then
      some ({ d with target := some (bytesBetween first place 0 text) }, .span (place + 1))
    else some (d, .word first)
  | .span first =>
    let name := bytesBetween first place 0 text
    if c = ']' then some ({ d with span := some name }, .afterSpan)
    else if c = '\x7b' then
      some ({ d with span := if name.isEmpty then none else some name }, .field (place + 1))
    else some (d, .span first)
  | .field first =>
    if c = '\x7d' then
      (field? (bytesBetween first place 0 text)).map fun field =>
        ({ d with field := some field }, .afterField)
    else some (d, .field first)
  | .afterField => if c = ']' then some (d, .afterSpan) else none
  | .afterSpan => if c = '=' then some (d, .level (place + 1)) else none
  | .level first => some (d, .level first)

/-- Takes all characters from a place on. -/
def advanceAll (text : List Char) (d : LogDirective) (progress : Progress) :
    (place : Nat) → List Char → Option (LogDirective × Progress)
  | _, [] => some (d, progress)
  | place, c :: rest =>
    match d.advance text place c progress with
    | some (d, progress) => advanceAll text d progress (place + c.utf8Size) rest
    | none => none

/-- What a directive says at its end. -/
def finish? (text : List Char) (d : LogDirective) : Progress → Option LogDirective
  | .word first =>
    let word := bytesBetween first (String.ofList text).utf8ByteSize 0 text
    match LogLevel.ofText? word with
    | some level => some { d with level }
    | none => some { d with target := some word }
  | .level first =>
    (levelAfter? (bytesBetween first (String.ofList text).utf8ByteSize 0 text)).map fun level =>
      { d with level }
  | .afterSpan => some d
  | _ => none

/-- The directive that a text writes. -/
def ofText? (text : List Char) : Option LogDirective :=
  match advanceAll text ⟨none, none, none, .trace⟩ .start 0 (Text.trimBlank text) with
  | some (d, progress) => d.finish? text progress
  | none => none

/-! ## Deciding -/

/-- Whether a directive is about events wherever they happen.  One that names a span, or
the value of a field, is about what happens in spans. -/
def isStatic (d : LogDirective) : Bool :=
  d.span.isNone && d.field.all fun field => !field.hasValue

/-- Whether a directive applies to an event outside of all spans. -/
def applies (d : LogDirective) (target : List Char) (fields : List (List Char)) : Bool :=
  d.isStatic && (d.target.all fun t => t.isPrefixOf target)
    && d.field.all fun field => fields.contains field.name

/-- How specific a directive is: first by the length of its target, then by whether it
asks for a field. -/
def weight (d : LogDirective) : Nat × Nat :=
  (match d.target with
    | some t => (String.ofList t).utf8ByteSize + 1
    | none => 0, if d.field.isSome then 1 else 0)

/-- What decides between equally specific directives: their words, the greater first. -/
def words (d : LogDirective) : String × String :=
  (String.ofList (d.target.getD []), String.ofList ((d.field.map LogField.name).getD []))

/-- Whether a directive comes before another, or has its place. -/
def precedes (d other : LogDirective) : Bool :=
  let lexicographic (less equal : Bool) (next : Bool) : Bool := less || (equal && next)
  lexicographic (other.weight.1 < d.weight.1) (other.weight.1 == d.weight.1) <|
    lexicographic (other.weight.2 < d.weight.2) (other.weight.2 == d.weight.2) <|
      lexicographic (other.words.1 < d.words.1) (other.words.1 == d.words.1) <|
        !(d.words.2 < other.words.2)

end LogDirective

/-- A log filter. -/
structure LogFilter where
  directives : List LogDirective
  deriving Repr, DecidableEq

namespace LogFilter

/-- The filter that a text writes. -/
def ofText? (text : String) : Option LogFilter :=
  let parts := (Text.pieces ',' text.toList).filter fun part => !part.isEmpty
  (parts.mapM LogDirective.ofText?).map fun directives =>
    if directives.isEmpty then ⟨[⟨none, none, none, .error⟩]⟩ else ⟨directives⟩

/-- The level up to which events of a target with some fields are wanted. -/
def levelOf (f : LogFilter) (target : String) (fields : List String) : LogLevel :=
  let applying := f.directives.filter fun d =>
    d.applies target.toList (fields.map String.toList)
  match applying with
  | [] => .off
  | d :: rest => (rest.foldl (fun best d => if d.precedes best then d else best) d).level

/-- Whether an event is wanted. -/
def enables (f : LogFilter) (level : LogLevel) (target : String) (fields : List String) : Bool :=
  level.rank ≤ (f.levelOf target fields).rank

end LogFilter
end ExchangeClient

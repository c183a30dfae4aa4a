import ExchangeClient.Config.Reading
import ExchangeClient.Yaml.Read

/-!
# Settings from YAML, strictly

Here a value has to be written as what it is: `true` is a flag and `yes` is not, `3`
is a number and `'3'` is not.  A text is any scalar, as it stands.  What is not written
is an empty list or an empty record, but not a text.  A record names each of its
fields at most once.  An alias is looked up where it is read, and not if nobody asks.
-/

namespace ExchangeClient
namespace Yaml

/-- A tag of the standard. -/
def isCore (core : String) (tag : Tag) : Bool := tag.full == Tag.coreStem ++ core

/-- The text of a scalar that may stand for a flag or a number: not a quoted one, and a
block only if its tag says so. -/
def literal? (core : String) : Node → Option String
  | .scalar _ .plain _ text => some text
  | .scalar _ .literal (some tag) text => if isCore core tag then some text else none
  | _ => none

/-- The flag that a word writes. -/
def flagWord? (s : String) : Option Bool :=
  if ["true", "True", "TRUE"].contains s then some true
  else if ["false", "False", "FALSE"].contains s then some false
  else none

/-- The number that digits of a base write; there must be one at least. -/
def digits? (base : Nat) (cs : List Char) : Option Nat :=
  if cs.isEmpty then none
  else cs.foldlM (fun n c => (Text.hexValue? c).bind fun d =>
    if d < base then some (n * base + d) else none) 0

/-- The whole number that a word writes.  A leading zero makes a decimal number a
text. -/
def wholeWord? (s : String) : Option Nat :=
  let cs := s.toList
  let cs := if cs.head? = some '+' then cs.tail else cs
  match cs with
  | '0' :: 'x' :: digits => digits? 16 digits
  | '0' :: 'o' :: digits => digits? 8 digits
  | '0' :: 'b' :: digits => digits? 2 digits
  | '0' :: _ :: _ => none
  | digits => digits? 10 digits

/-- What is not written. -/
def isUnwritten : Node → Bool
  | .scalar _ .plain _ text => text.isEmpty
  | _ => false

/-- The value that is written as nothing, if its tag allows it. -/
def writtenOption? : Node → Option (Option Node)
  | .scalar number .plain none text =>
    if text.isEmpty || isNullWord text then some none
    else some (some (.scalar number .plain none text))
  | .scalar number .plain (some tag) text =>
    if isCore "null" tag then
      if isNullWord text then some none else none
    else some (some (.scalar number .plain (some tag) text))
  | node => some (some node)

/-- The choice that a local tag names. -/
def taggedChoice? (tag : Tag) : Option String :=
  match tag.full.toList with
  | '!' :: c :: name => some (String.ofList (c :: name))
  | _ => none

/-- The choice that a scalar names: by its tag, in front of nothing, or by itself. -/
def choiceOf? (names : List String) : Node → Option String
  | .scalar _ style tag text =>
    match tag.bind taggedChoice? with
    | some name =>
      if style = .plain && (text.isEmpty || isNullWord text) && names.contains name then some name
      else none
    | none => if names.contains text then some text else none
  | _ => none

section Names

variable (names : List (Nat × Node))

/-- The entries of a mapping whose keys are scalars. -/
def namedEntries? : List (Node × Node) → Option (List (String × Node))
  | [] => some []
  | (key, value) :: rest =>
    match key.resolve names with
    | .scalar _ _ _ text => (namedEntries? rest).map ((text, value) :: ·)
    | _ => none

/-- The entries of a mapping, if it is one or is not written. -/
def entries? (node : Node) : Option (List (String × Node)) :=
  match node.resolve names with
  | .mapping _ entries => namedEntries? names entries
  | node => if isUnwritten node then some [] else none

/-- The value of a field; `none` if it is given twice. -/
def fieldOf? (entries : List (String × Node)) (field : String) : Option (Option Node) :=
  match entries.filter fun (key, _) => key == field with
  | [] => some none
  | [(_, value)] => some (some value)
  | _ => none

/-- The strict reading of a document whose nodes have some names. -/
def strict : Reading Node where
  text? node :=
    match node.resolve names with
    | .scalar _ _ _ text => some text
    | _ => none
  flag? node := (literal? "bool" (node.resolve names)).bind flagWord?
  number? bits node := do
    let n ← (literal? "int" (node.resolve names)).bind wholeWord?
    if n < Nat.pow 2 bits then some n else none
  optional? node := writtenOption? (node.resolve names)
  items? node :=
    match node.resolve names with
    | .sequence _ items => some items
    | node => if isUnwritten node then some [] else none
  record? fields node := (entries? names node).bind fun entries => fields.mapM (fieldOf? entries)
  dictionary? := entries? names
  choice? choices node := choiceOf? choices (node.resolve names)

end Names

end Yaml

/-- The settings that a text writes; a text without a document writes the usual ones. -/
def StreamConfig.ofYaml? (text : String) : Option StreamConfig :=
  match Yaml.single? .v11 text.toList with
  | some none => some .usual
  | some (some node) => (Yaml.strict node.named).config? node
  | none => none

end ExchangeClient

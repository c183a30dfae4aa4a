import ExchangeClient.Config.Setting
import ExchangeClient.Text.Hex
import ExchangeClient.Yaml.Read

/-!
# Settings in files

The spelling of a scalar in a file says what it is: a plain word may be a flag, a whole
number, a number with a point, or nothing, and everything else is a text.  A tag asks for
one of these; a word that is not what its tag asks for has no value.

A key without a value is as if it had not been written, and what follows takes its place,
so that keys and values are told apart by counting.  No table names a key twice.
-/

namespace ExchangeClient

/-- What a node of a file is read as. -/
inductive FileValue where
  /-- A word that is not what its tag asks for, or a node inside itself. -/
  | invalid
  | nothing
  | flag (b : Bool)
  | whole (n : Int)
  /-- A number with a point, as it is spelled. -/
  | real (word : String)
  | text (s : String)
  | list (items : List FileValue)
  | table (entries : List (FileValue × FileValue))
  deriving Inhabited

namespace FileValue

mutual

/-- Whether two values are the same.  Numbers with a point are if they are spelled the
same. -/
def same : FileValue → FileValue → Bool
  | .invalid, .invalid => true
  | .nothing, .nothing => true
  | .flag a, .flag b => a == b
  | .whole a, .whole b => a == b
  | .real a, .real b => a == b
  | .text a, .text b => a == b
  | .list as, .list bs => sameItems as bs
  | .table as, .table bs => sameEntries as bs
  | _, _ => false

/-- Whether the items of two lists are the same. -/
def sameItems : List FileValue → List FileValue → Bool
  | [], [] => true
  | a :: as, b :: bs => same a b && sameItems as bs
  | _, _ => false

/-- Whether the entries of two tables are the same, in the same order. -/
def sameEntries : List (FileValue × FileValue) → List (FileValue × FileValue) → Bool
  | [], [] => true
  | (k, v) :: as, (l, w) :: bs => same k l && same v w && sameEntries as bs
  | _, _ => false

end

/-! ## Scalars -/

/-- The whole number that digits of a base write, with or without a sign. -/
def wholeIn? (base : Nat) (cs : List Char) : Option Int :=
  let (negative, digits) :=
    match cs with
    | '-' :: digits => (true, digits)
    | '+' :: digits => (false, digits)
    | digits => (false, digits)
  if digits.isEmpty then none
  else do
    let size ← digits.foldlM (fun n c => (Text.hexValue? c).bind fun d =>
      if d < base then some (n * base + d) else none) 0
    let n : Int := if negative then -(size : Int) else size
    if -0x8000000000000000 ≤ n && n < 0x8000000000000000 then some n else none

/-- The whole number that a word with a mark of its base, or with a sign, writes. -/
def markedWhole? : List Char → Option Int
  | '0' :: 'x' :: digits => wholeIn? 16 digits
  | '0' :: 'o' :: digits => wholeIn? 8 digits
  | '+' :: digits => Setting.whole? digits
  | _ => none

/-- Words for infinity and for no number. -/
def isRealWord (s : String) : Bool :=
  [".inf", ".Inf", ".INF", "+.inf", "+.Inf", "+.INF", "-.inf", "-.Inf", "-.INF", ".nan", ".NaN",
    ".NAN"].contains s

/-- Whether a word writes a number with a point: it is a word for one, or has a digit and can
be read. -/
def isReal (s : String) : Bool :=
  isRealWord s || (s.toList.any Char.isDigit && (Double.ofDecimal? s.toList).isSome)

/-- The value of a plain word. -/
def ofPlain (s : String) : FileValue :=
  match markedWhole? s.toList with
  | some n => .whole n
  | none =>
    if ["", "~", "null"].contains s then .nothing
    else if ["true", "True", "TRUE"].contains s then .flag true
    else if ["false", "False", "FALSE"].contains s then .flag false
    else
      match Setting.whole? s.toList with
      | some n => .whole n
      | none => if isReal s then .real s else .text s

/-- The value of a plain word with a tag of the standard. -/
def ofTagged (core s : String) : FileValue :=
  match core with
  | "bool" => if s = "true" then .flag true else if s = "false" then .flag false else .invalid
  | "int" => (Setting.whole? s.toList).elim .invalid .whole
  | "float" => if isReal s then .real s else .invalid
  | "null" => if s = "~" || s = "null" then .nothing else .invalid
  | _ => .text s

/-- The value of a scalar. -/
def ofScalar (style : Yaml.Style) (tag : Option Yaml.Tag) (s : String) : FileValue :=
  match style, tag with
  | .plain, none => ofPlain s
  | .plain, some tag => if tag.stem = Yaml.Tag.coreStem then ofTagged tag.name s else .text s
  | _, _ => .text s

/-! ## Trees -/

/-- A table that is being read, with the key that waits for its value. -/
structure OpenTable where
  pending : Option FileValue
  entries : List (FileValue × FileValue)

namespace OpenTable

/-- A table of which nothing has been read. -/
def empty : OpenTable := ⟨none, []⟩

/-- The table with one more node, which is a key or the value of the key that waits. -/
def add? (t : OpenTable) (v : FileValue) : Option OpenTable :=
  match t.pending with
  | none =>
    match v with
    | .invalid => some t
    | v => some { t with pending := some v }
  | some key =>
    if t.entries.any fun (k, _) => k.same key then none
    else some ⟨none, t.entries ++ [(key, v)]⟩

end OpenTable

/-- The values of the named nodes that have ended. -/
abbrev Names := List (Nat × FileValue)

/-- Gives a value the name of its node. -/
def name (number : Option Nat) (v : FileValue) (names : Names) : FileValue × Names :=
  (v, number.toList.map (fun n => (n, v)) ++ names)

mutual

/-- The value of a node, and the names it adds. -/
def ofNode? (names : Names) : Yaml.Node → Option (FileValue × Names)
  | .scalar number style tag s => some (name number (ofScalar style tag s) names)
  | .alias number => some ((names.lookup number).getD .invalid, names)
  | .sequence number items =>
    (ofItems? names items).map fun (vs, names) => name number (.list vs) names
  | .mapping number entries =>
    (ofEntries? names .empty entries).map fun (t, names) => name number (.table t.entries) names

/-- The values of the items of a sequence. -/
def ofItems? (names : Names) : List Yaml.Node → Option (List FileValue × Names)
  | [] => some ([], names)
  | item :: rest =>
    match ofNode? names item with
    | none => none
    | some (v, names) => (ofItems? names rest).map fun (vs, names) => (v :: vs, names)

/-- The table of the entries of a mapping, behind what has been read of it. -/
def ofEntries? (names : Names) (t : OpenTable) :
    List (Yaml.Node × Yaml.Node) → Option (OpenTable × Names)
  | [] => some (t, names)
  | (key, value) :: rest =>
    match ofNode? names key with
    | none => none
    | some (k, names) =>
      match t.add? k with
      | none => none
      | some t =>
        match ofNode? names value with
        | none => none
        | some (v, names) =>
          match t.add? v with
          | none => none
          | some t => ofEntries? names t rest

end

/-! ## Settings -/

/-- The name that a key gives.  Numbers with a point keep their spelling, and whole ones are
written anew. -/
def keyName? : FileValue → Option String
  | .text s => some s
  | .whole n => some (toString n)
  | .flag b => some (toString b)
  | .real word => some word
  | _ => none

mutual

/-- The setting that a value writes.  Words for infinity and for no number write none. -/
def setting? : FileValue → Option Setting
  | .invalid => some .nothing
  | .nothing => some .nothing
  | .flag b => some (.flag b)
  | .whole n => some (.whole n)
  | .real word => (Double.ofDecimal? word.toList).map .double
  | .text s => some (.text s)
  | .list items => (settings? items).map .list
  | .table entries => (settingEntries? [] entries).map .table

/-- The settings that the items of a list write. -/
def settings? : List FileValue → Option (List Setting)
  | [] => some []
  | v :: rest =>
    match setting? v, settings? rest with
    | some s, some ss => some (s :: ss)
    | _, _ => none

/-- The settings that the entries of a table write, behind others.  Of two keys that give one
name the last counts. -/
def settingEntries? (entries : List (String × Setting)) :
    List (FileValue × FileValue) → Option (List (String × Setting))
  | [] => some entries
  | (key, value) :: rest =>
    match keyName? key, setting? value with
    | some k, some v => settingEntries? (Setting.replaceEntry k v entries) rest
    | _, _ => none

end

/-- The settings that a text writes, which is a table or no document.  A mark of the order of
bytes may stand in front of it. -/
def entries? (text : String) : Option (List (String × Setting)) := do
  let cs := text.toList
  let cs := if cs.head? = some '\uFEFF' then cs.tail else cs
  match ← Yaml.single? .v12 cs with
  | none => return []
  | some node =>
    let (value, _) ← ofNode? [] node
    match ← setting? value with
    | .table entries => return entries
    | _ => none

end FileValue
end ExchangeClient

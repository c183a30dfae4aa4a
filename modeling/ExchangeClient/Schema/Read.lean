import ExchangeClient.Json.Reader
import ExchangeClient.Schema.Decode

/-!
# Values of a shape straight from text

This is the decoder for response bodies: it reads a text into a shape without
building the JSON value in between.  A fault is reported where it stands, so a
member of the wrong type is noticed before a later slip in the grammar, and a key
given twice before its second value.  The value of a member that no field has is
passed over and not read, unless the record has an embedded group, which may want
it.

The decoder of JSON values and this one agree on every text whose objects list
each key once; they may differ in which of two faults they report.
-/

namespace ExchangeClient

open Json (DecodeError Mismatch Found Input Reader skipSpace expectWord expectColon readString
  readNumber readList readObject readValue skipValue)
open Schema

namespace Schema

/-- Passes a mismatch on. -/
def orMismatch {α : Type} : Except Mismatch α → Except DecodeError α
  | .ok v => .ok v
  | .error m => .error (.mismatch m)

/-- The error for an input whose next value is not of the kind expected.  Words,
strings and numbers are read, so that the message can show them. -/
def unexpected (label : String) (cs : Input) : DecodeError :=
  let found (r : Except DecodeError Found) : DecodeError :=
    match r with
    | .ok f => .mismatch (.kind f label)
    | .error e => e
  match cs with
  | [] => .truncated
  | c :: rest =>
    if c = 'n' then found ((expectWord ['u', 'l', 'l'] rest).map fun _ => .null)
    else if c = 't' then found ((expectWord ['r', 'u', 'e'] rest).map fun _ => .bool true)
    else if c = 'f' then found ((expectWord ['a', 'l', 's', 'e'] rest).map fun _ => .bool false)
    else if c = '"' then found ((readString rest).map fun p => .string (String.ofList p.1))
    else if c = '-' || c.isDigit then
      found ((readNumber (c :: rest)).map fun p => (Json.number p.1).found)
    else if c = '[' then .mismatch (.kind .sequence label)
    else if c = '{' then .mismatch (.kind .map label)
    else .malformed

/-- Reads a string. -/
def readText (label : String) : Reader String := fun cs =>
  match skipSpace cs with
  | '"' :: rest => (readString rest).map fun p => (String.ofList p.1, p.2)
  | cs => .error (unexpected label cs)

/-- Reads a value of an integer type. -/
def readInteger (type : IntegerType) : Reader type.Carrier := fun cs =>
  match skipSpace cs with
  | [] => .error .truncated
  | c :: rest =>
    if c = '-' || c.isDigit then do
      let (n, cs) ← readNumber (c :: rest)
      return (← orMismatch (integerOfNumber type n), cs)
    else .error (unexpected type.label (c :: rest))

/-- Reads a decimal, from a number or from a string. -/
def readDecimal : Reader Decimal := fun cs =>
  match skipSpace cs with
  | [] => .error .truncated
  | c :: rest =>
    if c = '-' || c.isDigit then do
      let (n, cs) ← readNumber (c :: rest)
      return (← orMismatch (decimalOfNumber n), cs)
    else if c = '"' then do
      let (s, cs) ← readString rest
      return (← orMismatch (decimalOfText (String.ofList s)), cs)
    else .error (unexpected decimalLabel (c :: rest))

/-- Reads the null that follows a name in the object form of a choice. -/
def readUnit : Reader Unit := fun cs =>
  match skipSpace cs with
  | 'n' :: rest => (expectWord ['u', 'l', 'l'] rest).map fun cs => ((), cs)
  | cs => .error (unexpected "unit" cs)

/-- Reads one of the names of a choice.  `depth` containers may still be opened. -/
def readChoice (names : List String) (depth : Nat) : Reader (Fin names.length) := fun cs =>
  match skipSpace cs with
  | [] => .error .truncated
  | c :: rest =>
    if c = '"' then do
      let (s, cs) ← readString rest
      return (← orMismatch (variant names (String.ofList s)), cs)
    else if c = '{' then
      if depth = 0 then .error .malformed
      else do
        let (s, cs) ← readText "variant identifier" rest
        let i ← orMismatch (variant names s)
        let ((), cs) ← readUnit (← expectColon cs)
        match skipSpace cs with
        | [] => throw .truncated
        | c :: rest => if c = '}' then return (i, rest) else throw .malformed
    else .error .malformed

/-- What a list of fields has next: an item, or its end. -/
inductive NextItem where
  | item (cs : Input)
  | closed (cs : Input)

/-- Looks for the next item of a list.  At its end the bracket is not passed. -/
def nextItem (first : Bool) (cs : Input) : Except DecodeError NextItem :=
  match skipSpace cs with
  | [] => .error .truncated
  | c :: rest =>
    if c = ']' then .ok (.closed (c :: rest))
    else if first then .ok (.item (c :: rest))
    else if c = ',' then
      match skipSpace rest with
      | [] => .error .truncated
      | d :: rest => if d = ']' then .error .malformed else .ok (.item (d :: rest))
    else .error .malformed

/-- Passes the bracket at the end of a list of fields. -/
def closeList (cs : Input) : Except DecodeError Input :=
  match skipSpace cs with
  | [] => .error .truncated
  | c :: rest => if c = ']' then .ok rest else .error .malformed

end Schema

/-- Fills a field's slot with what `value` reads behind the colon.  A slot that has
a value already is an error before the colon is looked for. -/
def Fields.readFill {α : Type} (key : String) (slot : Option α) (value : Reader α) :
    Reader (Option α) := fun cs =>
  match slot with
  | some _ => .error (.mismatch (.duplicateField key))
  | none => do
    let (v, cs) ← value (← expectColon cs)
    return (some v, cs)

/-- Reads what follows a key that no field has.  With `keep` the value is read and
kept, otherwise it is passed over. -/
def Fields.readOther (depth : Nat) (keep : Bool) (key : String)
    (others : List (String × Json)) : Reader (List (String × Json)) := fun cs => do
  let cs ← expectColon cs
  if keep then
    let (j, cs) ← readValue depth cs
    return (others ++ [(key, j)], cs)
  else
    return (others, ← skipValue cs)

/-- Reads what follows a key of a record.  `find` gives the reader of a field, if one has
the key, for the values `σ` that have been read so far. -/
def Fields.readInto {σ : Type} (depth : Nat) (keep : Bool)
    (find : String → σ → Option (Reader σ)) (key : String) (state : σ × List (String × Json)) :
    Reader (σ × List (String × Json)) := fun cs =>
  match find key state.1 with
  | some read => do
    let (slots, cs) ← read cs
    return ((slots, state.2), cs)
  | none => do
    let (others, cs) ← Fields.readOther depth keep key state.2 cs
    return ((state.1, others), cs)

mutual

/-- Reads a value of a shape.  `depth` containers may still be opened. -/
def Shape.read : (s : Shape) → (depth : Nat) → Reader s.Value
  | .text, _ => readText "a string"
  | .integer type, _ => readInteger type
  | .decimal, _ => readDecimal
  | .quantity, _ => readDecimal
  | .choice names, depth => readChoice names depth
  | .any, depth => readValue depth
  | .optional inner, depth => fun cs =>
    match skipSpace cs with
    | 'n' :: rest => (expectWord ['u', 'l', 'l'] rest).map fun cs => (none, cs)
    | cs => (inner.read depth cs).map fun p => (some p.1, p.2)
  | .list item, depth => fun cs =>
    match skipSpace cs with
    | '[' :: rest =>
      match depth with
      | 0 => .error .malformed
      | depth + 1 => readList (item.read depth) rest
    | cs => .error (unexpected "a sequence" cs)
  | .record name fields, depth => fun cs =>
    match skipSpace cs with
    | [] => .error .truncated
    | c :: rest =>
      if c = '{' then
        match depth with
        | 0 => .error .malformed
        | depth + 1 => do
          let member := Fields.readInto depth fields.hasGroup fun key slots =>
            fields.readMember key depth slots
          let ((slots, others), cs) ← readObject member (fields.noSlots, []) rest
          let v ← orMismatch
            (Fields.unlessMissing (fields.missing? slots) (fields.build slots others))
          return (v, cs)
      else if c = '[' && !fields.hasGroup then
        match depth with
        | 0 => .error .malformed
        | depth + 1 => fields.readItems (lengthLabel name fields.size) 0 depth rest
      else .error (unexpected (recordLabel name) (c :: rest))

/-- The reader of what follows a key, or `none` if no field has it. -/
def Fields.readMember : (fields : Fields) → (key : String) → (depth : Nat) → fields.Slots →
    Option (Reader fields.Slots)
  | .nil, _, _, _ => none
  | .cons k _ shape rest, key, depth, (slot, slots) =>
    if key = k then
      some fun cs => (Fields.readFill k slot (shape.read depth) cs).map fun p => ((p.1, slots), p.2)
    else
      (rest.readMember key depth slots).map fun read cs =>
        (read cs).map fun p => ((slot, p.1), p.2)
  | .embed _ rest, key, depth, slots => rest.readMember key depth slots

/-- Reads the fields of a record from a list of them, past its bracket.  `label` is
what the record is called and `index` the place of the first field here. -/
def Fields.readItems : (fields : Fields) → (label : String) → (index depth : Nat) →
    Reader fields.Value
  | .nil, _, _, _ => fun cs => (closeList cs).map fun cs => ((), cs)
  | .cons _ presence shape rest, label, index, depth => fun cs => do
    match ← nextItem (index == 0) cs with
    | .closed cs =>
      match if presence.mayLackItem then shape.absent? else none with
      | none => throw (.mismatch (.length index label))
      | some v =>
        let (vs, cs) ← rest.readItems label (index + 1) depth cs
        return ((v, vs), cs)
    | .item cs =>
      let (v, cs) ← shape.read depth cs
      let (vs, cs) ← rest.readItems label (index + 1) depth cs
      return ((v, vs), cs)
  | .embed _ _, label, index, _ => fun _ => .error (.mismatch (.length index label))

end

/-- The value of a shape that a text writes. -/
def Shape.ofText (s : Shape) (text : String) : Except DecodeError s.Value :=
  Json.finish (s.read Json.maxDepth text.toList)

/-- The value of a shape that a text writes, by way of the JSON value. -/
def Shape.ofTextValue (s : Shape) (text : String) : Except DecodeError s.Value := do
  orMismatch (s.decode (← Json.ofText text))

end ExchangeClient

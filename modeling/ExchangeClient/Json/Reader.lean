import ExchangeClient.Json.Lexer

/-!
# Reading JSON values

`readValue` reads any value into `Json`; `skipValue` passes over one.  Between the
two stands the difference explained in `Json.Lexer`, and a second one: reading
allows a bounded number of containers to be open at once, while skipping keeps
its own list of open containers and has no bound.

An object that has been read keeps its members in ascending order of their keys and
each key once.  What was written is more than that, and a decoder that reads a text
member by member sees it all.  `readGathering` is therefore told how a member joins
those before it.

## Loops over items and members

`readItems` and `readMembers` are the two loops that every reader of a list or an
object uses, this module's and the typed ones of `Json.Shape`.  They take the
reader of one item, or of what follows one key.  Every turn reads at least one
character, so the length of the input bounds the number of turns.
-/

namespace ExchangeClient
namespace Json

/-- How many containers may be open at once. -/
def maxDepth : Nat := 127

/-- Reads an item and the items behind it. -/
def readItem {α : Type} (item : Reader α) (items : Reader (List α)) :
    Reader (List α) := fun cs => do
  let (x, cs) ← item cs
  let (xs, cs) ← items cs
  return (x :: xs, cs)

/-- Reads the items of a list up to its closing bracket.  `first` says that no
item has been read; `turns` bounds the turns. -/
def readItems {α : Type} (item : Reader α) : (turns : Nat) → (first : Bool) → Reader (List α)
  | 0, _, _ => .error .truncated
  | turns + 1, first, cs =>
    match skipSpace cs with
    | [] => .error .truncated
    | c :: rest =>
      if c = ']' then .ok ([], rest)
      else if first then readItem item (readItems item turns false) (c :: rest)
      else if c = ',' then readItem item (readItems item turns false) rest
      else .error .malformed

/-- Reads a list from behind its opening bracket. -/
def readList {α : Type} (item : Reader α) : Reader (List α) := fun cs =>
  readItems item (cs.length + 1) true cs

/-- Reads a key from behind its opening quote, what follows it, and the members behind. -/
def readMember {σ : Type} (member : String → σ → Reader σ) (members : σ → Reader σ) (state : σ) :
    Reader σ := fun cs => do
  let (key, cs) ← readString cs
  let (state, cs) ← member (String.ofList key) state cs
  members state cs

/-- Reads members up to the closing brace.  `member` reads what follows a key, the
colon included, and carries on a state. -/
def readMembers {σ : Type} (member : String → σ → Reader σ) :
    (turns : Nat) → (first : Bool) → σ → Reader σ
  | 0, _, _, _ => .error .truncated
  | turns + 1, first, state, cs =>
    match skipSpace cs with
    | [] => .error .truncated
    | c :: rest =>
      if c = '}' then .ok (state, rest)
      else if first then
        if c = '"' then readMember member (readMembers member turns false) state rest
        else .error .malformed
      else if c = ',' then
        match skipSpace rest with
        | [] => .error .truncated
        | q :: rest =>
          if q = '"' then readMember member (readMembers member turns false) state rest
          else .error .malformed
      else .error .malformed

/-- Reads an object from behind its opening brace. -/
def readObject {σ : Type} (member : String → σ → Reader σ) (start : σ) : Reader σ := fun cs =>
  readMembers member (cs.length + 1) true start cs

/-- Reads what follows a key, the colon included, and adds the member to those that an
object has so far. -/
def readInto (put : String → Json → List (String × Json) → List (String × Json))
    (item : Reader Json) (key : String) (members : List (String × Json)) :
    Reader (List (String × Json)) := fun cs => do
  let (value, cs) ← item (← expectColon cs)
  return (put key value members, cs)

/-- Reads a value.  `put` adds a member to those that an object has so far, and
`nested` reads the values inside it, unless no further container may be opened. -/
def readWith (put : String → Json → List (String × Json) → List (String × Json))
    (nested : Option (Reader Json)) : Reader Json := fun cs =>
  match skipSpace cs with
  | [] => .error .truncated
  | c :: rest =>
    if c = 'n' then (expectWord ['u', 'l', 'l'] rest).map fun cs => (.null, cs)
    else if c = 't' then (expectWord ['r', 'u', 'e'] rest).map fun cs => (.bool true, cs)
    else if c = 'f' then (expectWord ['a', 'l', 's', 'e'] rest).map fun cs => (.bool false, cs)
    else if c = '"' then (readString rest).map fun p => (.string (String.ofList p.1), p.2)
    else if c = '-' || c.isDigit then (readNumber (c :: rest)).map fun p => (.number p.1, p.2)
    else if c = '[' then
      match nested with
      | none => .error .malformed
      | some item => (readList item rest).map fun p => (.array p.1, p.2)
    else if c = '{' then
      match nested with
      | none => .error .malformed
      | some item => (readObject (readInto put item) [] rest).map fun p => (.object p.1, p.2)
    else .error .malformed

/-- Reads any value, of which at most `depth` containers may be open at once. -/
def readGathering (put : String → Json → List (String × Json) → List (String × Json)) :
    (depth : Nat) → Reader Json
  | 0 => readWith put none
  | depth + 1 => readWith put (some (readGathering put depth))

/-- Reads any value; of members with one key the last stands. -/
def readValue (depth : Nat) : Reader Json :=
  readGathering insertMember depth

/-! ## Passing over a value -/

/-- A container that has been entered and not left. -/
inductive Frame where
  | list
  | object
  deriving Repr, DecidableEq

/-- Where a walk over a value stands. -/
inductive SkipPoint where
  /-- A value follows. -/
  | value
  /-- The innermost container has just been entered. -/
  | entered
  /-- A value has just ended. -/
  | ended
  deriving Repr, DecidableEq

/-- Passes over a key and its colon. -/
def skipKey (cs : Input) : Except DecodeError Input :=
  match skipSpace cs with
  | [] => .error .truncated
  | c :: rest => if c = '"' then do expectColon (← skipString rest) else .error .malformed

/-- The character that leaves a container. -/
def Frame.closing : Frame → Char
  | .list => ']'
  | .object => '}'

/-- Passes over what precedes a value in a container. -/
def Frame.lead : Frame → Input → Except DecodeError Input
  | .list, cs => .ok cs
  | .object, cs => skipKey cs

/-- Walks to the end of the outermost value.  `steps` bounds the walk. -/
def skipSteps : (steps : Nat) → SkipPoint → List Frame → Input → Except DecodeError Input
  | 0, _, _, _ => .error .truncated
  | _ + 1, .ended, [], cs => .ok cs
  | _ + 1, .entered, [], _ => .error .malformed
  | steps + 1, .ended, frame :: frames, cs =>
    match skipSpace cs with
    | [] => .error .truncated
    | c :: rest =>
      if c = ',' then do skipSteps steps .value (frame :: frames) (← frame.lead rest)
      else if c = frame.closing then skipSteps steps .ended frames rest
      else .error .malformed
  | steps + 1, .entered, frame :: frames, cs =>
    match skipSpace cs with
    | [] => .error .truncated
    | c :: rest =>
      if c = frame.closing then skipSteps steps .ended frames rest
      else do skipSteps steps .value (frame :: frames) (← frame.lead (c :: rest))
  | steps + 1, .value, frames, cs =>
    match skipSpace cs with
    | [] => .error .truncated
    | c :: rest =>
      if c = 'n' then do skipSteps steps .ended frames (← expectWord ['u', 'l', 'l'] rest)
      else if c = 't' then do skipSteps steps .ended frames (← expectWord ['r', 'u', 'e'] rest)
      else if c = 'f' then do
        skipSteps steps .ended frames (← expectWord ['a', 'l', 's', 'e'] rest)
      else if c = '"' then do skipSteps steps .ended frames (← skipString rest)
      else if c = '-' || c.isDigit then do
        skipSteps steps .ended frames (← skipNumber (c :: rest))
      else if c = '[' then skipSteps steps .entered (.list :: frames) rest
      else if c = '{' then skipSteps steps .entered (.object :: frames) rest
      else .error .malformed

/-- Passes over one value.  Every step but the first and the last of a container
reads a character, so twice the length suffices. -/
def skipValue (cs : Input) : Except DecodeError Input :=
  skipSteps (2 * cs.length + 2) .value [] cs

/-! ## Whole texts -/

/-- Only space may follow the value of a text. -/
def finish {α : Type} (r : Except DecodeError (α × Input)) : Except DecodeError α := do
  let (x, rest) ← r
  if (skipSpace rest).isEmpty then return x else .error .malformed

/-- The value that a text writes. -/
def ofText (text : String) : Except DecodeError Json :=
  finish (readValue maxDepth text.toList)

end Json
end ExchangeClient

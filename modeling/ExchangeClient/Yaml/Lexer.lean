import ExchangeClient.Yaml.Place
import ExchangeClient.Yaml.Token

/-!
# The state of a lexer

A lexer reads a text from left to right.  Two things it learns only later: that a block
collection has started, when its first entry is seen, and that what was read is the key
of a mapping, when the colon behind it is.  For the first it keeps the columns of the
collections that are open; for the second it remembers, for each level of brackets, where
a key may have started, and inserts the token of the key there.

A key must stand on one line with its colon and be short.  Where an entry of a block has
to start, a key is required.
-/

namespace ExchangeClient
namespace Yaml

/-- A key that may have started. -/
structure KeyMark where
  possible : Bool
  required : Bool
  /-- How many tokens stand in front. -/
  number : Nat
  index : Nat
  line : Nat
  column : Nat
  deriving Repr, DecidableEq

/-- No key has started. -/
def KeyMark.none : KeyMark := ⟨false, false, 0, 0, 0, 0⟩

/-- A column that an open collection has replaced.  Not every such collection ends with a
token: what belongs to an entry is indented by one column without one. -/
structure Indent where
  column : Int
  isBlock : Bool
  deriving Repr, DecidableEq

/-- The state of a lexer. -/
structure Lexer where
  place : Place
  tokens : Array Token
  /-- A key may start here. -/
  keyAllowed : Bool
  /-- The key that may have started, for each level of brackets, the innermost first, and
  for the blocks around them all. -/
  keys : List KeyMark
  /-- The column of the innermost block. -/
  indent : Int
  indents : List Indent
  /-- Where a colon may stand without a blank behind it. -/
  adjacentAt : Nat
  /-- The entries of a mapping in brackets have been announced. -/
  mappingStarted : Bool
  /-- For each open sequence in brackets, whether a mapping of one entry is open in it. -/
  pairOpen : List Bool
  /-- More turns than any reader takes in the text. -/
  turns : Nat

/-- A step of a lexer.  It fails where the text is malformed. -/
abbrev Lexing := StateT Lexer Option

namespace Lexer

/-- A lexer at the start of a text. -/
def start (cs : List Char) : Lexer :=
  ⟨.start cs, #[], true, [.none], -1, [], 0, false, [], cs.length + 2⟩

/-- Whether a lexer stands inside brackets. -/
def inFlow (l : Lexer) : Bool := 1 < l.keys.length

/-- Takes back an indentation that is no block if the column of an entry shows that it is
not needed. -/
def settle (column : Nat) (l : Lexer) : Lexer :=
  match l.indents with
  | i :: rest =>
    if l.indent ≤ column && !i.isBlock then { l with indent := i.column, indents := rest } else l
  | [] => l

end Lexer

namespace Lexing

/-- How many turns a reader may take. -/
def turns : Lexing Nat := return (← get).turns

/-- The place of the lexer. -/
def place : Lexing Place := return (← get).place

/-- Moves to another place. -/
def move (p : Place) : Lexing Unit := modify fun l => { l with place := p }

/-- Moves on by some characters. -/
def skip (n : Nat) : Lexing Unit := modify fun l => { l with place := l.place.skip n }

/-- Appends a token. -/
def emit (t : Token) : Lexing Unit := modify fun l => { l with tokens := l.tokens.push t }

/-- Inserts a token behind the first `number`. -/
def insertAt (number : Nat) (t : Token) : Lexing Unit :=
  modify fun l => { l with tokens := l.tokens.insertIdxIfInBounds number t }

/-- Says whether a key may start. -/
def allowKey (allowed : Bool) : Lexing Unit := modify fun l => { l with keyAllowed := allowed }

/-- Reads what stands here and moves behind it. -/
def read {α : Type} (reader : Place → Option (α × Place)) : Lexing α := fun l =>
  (reader l.place).map fun (a, p) => (a, { l with place := p })

/-- Requires a condition. -/
def require (condition : Bool) : Lexing Unit := if condition then pure () else failure

/-! ## Keys -/

/-- The key that may have started on this level of brackets. -/
def key : Lexing KeyMark := return (← get).keys.headD .none

/-- Puts a key in the place of that of this level. -/
def setKey (key : KeyMark) : Lexing Unit := modify fun l => { l with keys := key :: l.keys.tail }

/-- Forgets the key of this level; one that is required must not be missed. -/
def dropKey : Lexing Unit := do
  let key ← key
  require !(key.possible && key.required)
  setKey { key with possible := false }

/-- Remembers that a key may start here. -/
def markKey (required : Bool) : Lexing Unit := do
  let l ← get
  setKey ⟨true, required, l.tokens.size, l.place.index, l.place.line, l.place.column⟩

/-- A key that started on another line than `p`, or too far in front of it, is none. -/
def staleKey? (p : Place) (key : KeyMark) : Option KeyMark :=
  if key.possible && (key.line < p.line || key.index + 1024 < p.index) then
    if key.required then none else some { key with possible := false }
  else some key

/-- Forgets the keys that are out of reach. -/
def dropStaleKeys : Lexing Unit := do
  let l ← get
  match l.keys.mapM (staleKey? l.place) with
  | some keys => set { l with keys := keys }
  | none => failure

/-- Enters a level of brackets. -/
def enter : Lexing Unit := modify fun l => { l with keys := .none :: l.keys }

/-- Leaves a level of brackets, if there is one. -/
def leave : Lexing Unit :=
  modify fun l => if l.inFlow then { l with keys := l.keys.tail } else l

/-! ## Blocks -/

/-- Closes the collections that stand to the right of a column. -/
def closeTo (column : Int) : List Indent → Int → Array Token → List Indent × Int × Array Token
  | [], indent, tokens => ([], indent, tokens)
  | i :: rest, indent, tokens =>
    if column < indent then
      closeTo column rest i.column (if i.isBlock then tokens.push .blockEnd else tokens)
    else (i :: rest, indent, tokens)

/-- Closes the blocks that stand to the right of a column.  Brackets keep them open. -/
def unroll (column : Int) : Lexing Unit :=
  modify fun l =>
    if l.inFlow then l
    else
      let (indents, indent, tokens) := closeTo column l.indents l.indent l.tokens
      { l with indents := indents, indent := indent, tokens := tokens }

/-- Opens a block in a column unless one is open there.  Its token is put behind the first
`number`. -/
def roll (column number : Nat) (opening : Token) : Lexing Unit := do
  if (← get).inFlow then return
  modify (Lexer.settle column)
  let l ← get
  if l.indent < column then
    set { l with indents := ⟨l.indent, true⟩ :: l.indents, indent := (column : Int) }
    insertAt number opening

/-- Opens a block in the column of the lexer. -/
def rollHere (opening : Token) : Lexing Unit := do
  let l ← get
  roll l.place.column l.tokens.size opening

/-- Ends all blocks: a document starts or ends here. -/
def closeAll : Lexing Unit := do
  unroll (-1)
  dropKey
  allowKey false

end Lexing

/-! ## Steps -/

/-- Repeats a step until it says that the text has ended. -/
def Lexing.repeat (step : Lexing Bool) : (turns : Nat) → Lexing Unit
  | 0 => failure
  | turns + 1 => do
    if ← step then Lexing.repeat step turns

/-- The tokens that a lexer finds in a text.  Each step passes over something, so there are
no more of them than characters. -/
def Lexing.tokens? (step : Lexing Bool) (cs : List Char) : Option (List Token) :=
  let l := Lexer.start cs
  ((Lexing.repeat step l.turns).run l).map fun (_, l) => l.tokens.toList

end Yaml
end ExchangeClient

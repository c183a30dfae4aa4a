import ExchangeClient.Yaml.Lexer
import ExchangeClient.Yaml.Scalar
import ExchangeClient.Yaml.Uri

/-!
# The lexer of YAML 1.1

Inside brackets this edition takes a question mark or a colon for a sign whatever stands
behind it.  A text may start, and each of its lines, with a mark of the order of bytes,
which takes up a column.
-/

namespace ExchangeClient
namespace Yaml
namespace Lexer11

open Lexing

/-- A character that may stand in a text. -/
def isAllowed (c : Char) : Bool :=
  let n := c.toNat
  n == 0x09 || n == 0x0A || n == 0x0D || (0x20 ≤ n && n ≤ 0x7E) || n == 0x85
    || (0xA0 ≤ n && n ≤ 0xD7FF) || (0xE000 ≤ n && n ≤ 0xFFFD) || 0x10000 ≤ n

/-- A character of the name of a tag. -/
def isTagChar (c : Char) : Bool := isWordChar c || ";/?:@&=+$.%!~*'()".toList.contains c

/-- A character of a URI. -/
def isUriChar (c : Char) : Bool := isTagChar c || c == ',' || c == '[' || c == ']'

/-- The head of a text ends the name of an anchor. -/
def endsAnchor (cs : List Char) : Bool :=
  Edition.v11.atGap cs || cs.head?.any fun c => "?:,]\x7d%@`".toList.contains c

/-! ## Between tokens -/

/-- The place behind blanks, comments and breaks, and whether a key may start there.  Tabs
are no indentation: they are passed over only where no key may start. -/
def gapEnd (flow : Bool) : (turns : Nat) → (keyAllowed : Bool) → Place → Bool × Place
  | 0, keyAllowed, p => (keyAllowed, p)
  | turns + 1, keyAllowed, p =>
    match p.rest with
    | [] => (keyAllowed, p)
    | c :: _ =>
      if c = '\uFEFF' && p.column = 0 then gapEnd flow turns keyAllowed (p.skip 1)
      else if c = ' ' || (c = '\t' && (flow || !keyAllowed)) then
        gapEnd flow turns keyAllowed p.skipBlank
      else if c = '#' then gapEnd flow turns keyAllowed (p.lineEnd .v11)
      else if Edition.v11.isBreak c then gapEnd flow turns (keyAllowed || !flow) p.newLine
      else (keyAllowed, p)

/-- Passes over blanks, comments and breaks. -/
def skipGap : Lexing Unit :=
  modify fun l =>
    let (keyAllowed, p) := gapEnd l.inFlow l.turns l.keyAllowed l.place
    { l with keyAllowed := keyAllowed, place := p }

/-- Passes over blanks and a comment to the end of the line. -/
def skipLine : Lexing Unit := do
  let p := (← place).skipBlanks
  let p := if p.head? = some '#' then p.lineEnd .v11 else p
  require (Edition.v11.atBreak p.rest)
  move (p.skipBreak .v11)

/-- Remembers that a key may start here if it may. -/
def saveKey : Lexing Unit := do
  let l ← get
  if l.keyAllowed then
    dropKey
    markKey (!l.inFlow && l.indent == l.place.column)

/-! ## Tokens -/

/-- Reads a line that tells how a document is to be read. -/
def directive : Lexing Unit := do
  closeAll
  skip 1
  let name ← read (some <| ·.span isWordChar)
  require (!name.isEmpty && Edition.v11.atGap (← place).rest)
  move (← place).skipBlanks
  if name = "YAML".toList then
    let (major, minor) ← read versionAt
    emit (.version major minor)
  else if name = "TAG".toList then
    let handle ← read definedHandleAt
    require ((← place).head?.any isBlank)
    move (← place).skipBlanks
    let stem ← read (uriAt .v11 isUriChar (← turns))
    require (!stem.isEmpty && Edition.v11.atGap (← place).rest)
    emit (.handle (String.ofList handle) (String.ofList stem))
  else failure
  skipLine

/-- Reads the mark of the start or the end of a document. -/
def documentMark (t : Token) : Lexing Unit := do
  closeAll
  skip 3
  emit t

/-- Reads an opening bracket. -/
def openBracket (t : Token) : Lexing Unit := do
  saveKey
  enter
  allowKey true
  skip 1
  emit t

/-- Reads a closing bracket. -/
def closeBracket (t : Token) : Lexing Unit := do
  dropKey
  leave
  allowKey false
  skip 1
  emit t

/-- Reads a comma. -/
def comma : Lexing Unit := do
  dropKey
  allowKey true
  skip 1
  emit .comma

/-- Opens a block here, where a key must be allowed, unless inside brackets. -/
def openBlock (t : Token) : Lexing Unit := do
  let l ← get
  if !l.inFlow then
    require l.keyAllowed
    rollHere t

/-- Reads the dash of an item. -/
def item : Lexing Unit := do
  openBlock .blockSequence
  dropKey
  allowKey true
  skip 1
  emit .item

/-- Reads the question mark of a key. -/
def explicitKey : Lexing Unit := do
  openBlock .blockMapping
  dropKey
  allowKey !(← get).inFlow
  skip 1
  emit .key

/-- Reads the colon of a value. -/
def value : Lexing Unit := do
  let start ← key
  if start.possible then
    insertAt start.number .key
    roll start.column start.number .blockMapping
    setKey { start with possible := false }
    allowKey false
  else
    openBlock .blockMapping
    allowKey !(← get).inFlow
  skip 1
  emit .value

/-- Reads the name of an anchor or an alias. -/
def anchor (token : String → Token) : Lexing Unit := do
  saveKey
  allowKey false
  skip 1
  let name ← read (some <| ·.span isWordChar)
  require (!name.isEmpty && endsAnchor (← place).rest)
  emit (token (String.ofList name))

/-- Reads a tag. -/
def tag : Lexing Unit := do
  saveKey
  allowKey false
  let n ← turns
  let whole := (← place).rest[1]? = some '<'
  let (handle, name) ←
    read (if whole then verbatimAt .v11 isUriChar n else shorthandAt .v11 isTagChar n)
  require !name.isEmpty
  let l ← get
  require (Edition.v11.atGap l.place.rest || (l.inFlow && l.place.head? = some ','))
  emit (.tag (String.ofList handle) (String.ofList name))

/-- Reads a scalar that is a block.  Its indentation is given or that of its first line,
but not less than that of the block around it. -/
def blockScalar (joined : Bool) : Lexing Unit := do
  dropKey
  allowKey true
  skip 1
  let head ← read blockHeadAt
  skipLine
  let l ← get
  let given := head.indent.map fun n => if 0 ≤ l.indent then l.indent.toNat + n else n
  match blockGapAt .v11 given l.turns l.place with
  | none => failure
  | some gap =>
    let indent := given.getD (gap.widest.max ((l.indent + 1).toNat.max 1))
    match blockLines .v11 joined indent l.turns false ⟨[], [], gap.breaks, gap.place⟩ with
    | none => failure
    | some block =>
      let tail :=
        match head.chomp with
        | .strip => []
        | .clip => block.last
        | .keep => block.last ++ block.empty
      move block.place
      emit (.scalar (if joined then .folded else .literal) (block.text tail))

/-- Reads a quoted scalar. -/
def quotedScalar (quote : Char) : Lexing Unit := do
  saveKey
  allowKey false
  let text ← read (quotedAt .v11 0 quote (← turns))
  emit (.scalar .quoted text)

/-- How plain scalars are read: inside brackets no colon may stand in front of a sign. -/
def plainRule (flow : Bool) (indent : Int) : PlainRule where
  flow := flow
  indent := indent
  tab _ := none
  ends
    | ':' :: rest => Edition.v11.atGap rest
    | c :: _ => flow && isFlowSign c
    | [] => true
  refused
    | ':' :: c :: _ => flow && (c == '?' || isFlowSign c)
    | _ => false
  refusedAtWord _ := false

/-- Reads a plain scalar. -/
def plainScalar : Lexing Unit := do
  saveKey
  allowKey false
  let l ← get
  match plainAt .v11 (plainRule l.inFlow (l.indent + 1)) l.turns l.place with
  | none => failure
  | some plain =>
    move plain.place
    if plain.broken then allowKey true
    emit (.scalar .plain plain.text)

/-- Whether a plain scalar starts with a character and what stands behind it. -/
def startsPlain (flow : Bool) (c : Char) (rest : List Char) : Bool :=
  if c = '-' then !rest.head?.any isBlank
  else if c = '?' || c = ':' then !flow && !Edition.v11.atGap rest
  else !(isFlowSign c || Edition.v11.isGap c || "#&*!|>'\"%@`".toList.contains c)

/-- Reads the token that starts with a character. -/
def readToken (flow : Bool) (p : Place) (c : Char) (rest : List Char) : Lexing Unit :=
  let alone := Edition.v11.atGap rest
  if p.column = 0 && c = '%' then directive
  else if p.atMark .v11 '-' then documentMark .documentStart
  else if p.atMark .v11 '.' then documentMark .documentEnd
  else if c = '[' then openBracket .flowSequence
  else if c = '\x7b' then openBracket .flowMapping
  else if c = ']' then closeBracket .flowSequenceEnd
  else if c = '\x7d' then closeBracket .flowMappingEnd
  else if c = ',' then comma
  else if c = '-' && alone then item
  else if c = '?' && (flow || alone) then explicitKey
  else if c = ':' && (flow || alone) then value
  else if c = '*' then anchor .alias
  else if c = '&' then anchor .anchor
  else if c = '!' then tag
  else if c = '|' && !flow then blockScalar false
  else if c = '>' && !flow then blockScalar true
  else if c = '\'' || c = '"' then quotedScalar c
  else if startsPlain flow c rest then plainScalar
  else failure

/-- Reads the next token; says whether there was one. -/
def step : Lexing Bool := do
  skipGap
  dropStaleKeys
  unroll (← place).column
  let l ← get
  match l.place.rest with
  | [] =>
    closeAll
    return false
  | c :: rest =>
    readToken l.inFlow l.place c rest
    return true

end Lexer11

/-- The tokens of a text of YAML 1.1. -/
def tokens11? (text : List Char) : Option (List Token) :=
  if text.all Lexer11.isAllowed then
    Lexing.tokens? Lexer11.step (Edition.v11.unifyBreaks text)
  else none

end Yaml
end ExchangeClient

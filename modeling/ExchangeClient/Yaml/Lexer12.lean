import ExchangeClient.Yaml.Lexer
import ExchangeClient.Yaml.Scalar
import ExchangeClient.Yaml.Uri

/-!
# The lexer of YAML 1.2

This edition asks for a blank in front of each comment and for indentation where the other
does not: what belongs to an entry stands one column further right than the entry, also
inside brackets and in the lines of scalars.

An entry among the items of a sequence in brackets is a mapping of its own.  The lexer
brackets it by the tokens of such a mapping, and ends it at the next comma or bracket.
-/

namespace ExchangeClient
namespace Yaml
namespace Lexer12

open Lexing

/-- A character of a URI. -/
def isUriChar (c : Char) : Bool :=
  c.isAlphanum || "-#;/?:@&=+$,_.!~*'()[]%".toList.contains c

/-- A character of the name of a tag. -/
def isTagChar (c : Char) : Bool := isUriChar c && !isFlowSign c && c != '!'

/-- A character of the name of an anchor. -/
def isAnchorChar (c : Char) : Bool :=
  !isBlank c && c != '\n' && c != '\uFEFF' && !isFlowSign c

/-! ## Between tokens -/

/-- The blanks of a line and the comment behind them. -/
structure LineGap where
  blanks : List Char
  place : Place

/-- The rest of a line up to the next token; `none` if a comment follows without a blank. -/
def lineGapAt (p : Place) : Option LineGap :=
  let blanks := p.rest.takeWhile isBlank
  let behind := p.skipBlanks
  if behind.head? = some '#' then
    if blanks.isEmpty then none else some ⟨blanks, behind.lineEnd .v12⟩
  else some ⟨blanks, behind⟩

/-- The end of a line of which nothing is left but blanks and a comment. -/
def emptyLineEnd (p : Place) : Option Place := do
  let gap ← lineGapAt p
  if Edition.v12.atBreak gap.place.rest then some gap.place else none

/-- The place behind blanks, comments and breaks, and whether a key may start there.  In a
block, tabs to the left of its column may stand on empty lines only. -/
def gapEnd (flow : Bool) (indent : Option Int) : (turns : Nat) → (keyAllowed : Bool) → Place →
    Option (Bool × Place)
  | 0, _, _ => none
  | turns + 1, keyAllowed, p =>
    match p.rest with
    | [] => some (keyAllowed, p)
    | c :: _ =>
      if c = '\t' && p.fresh && indent.any ((p.column : Int) < ·) then
        (emptyLineEnd p).bind (gapEnd flow indent turns keyAllowed)
      else if isBlank c then gapEnd flow indent turns keyAllowed p.skipBlank
      else if c = '\n' then gapEnd flow indent turns (keyAllowed || !flow) p.newLine
      else if c = '#' then gapEnd flow indent turns keyAllowed (p.lineEnd .v12)
      else some (keyAllowed, p)

/-- Passes over blanks, comments and breaks. -/
def skipGap : Lexing Unit := do
  let l ← get
  let indent := if l.indents.isEmpty then none else some l.indent
  match gapEnd l.inFlow indent l.turns l.keyAllowed l.place with
  | some (keyAllowed, p) => set { l with keyAllowed := keyAllowed, place := p }
  | none => failure

/-- Passes over blanks and a comment on the line; gives the blanks. -/
def skipLineGap : Lexing (List Char) :=
  read fun p => (lineGapAt p).map fun gap => (gap.blanks, gap.place)

/-- Passes over blanks and a comment to the end of the line. -/
def skipLine : Lexing Unit := do
  discard skipLineGap
  require (Edition.v12.atBreak (← place).rest)

/-- Spaces, breaks and comments behind the question mark of a key. -/
def keyGapEnd (flow : Bool) : (turns : Nat) → (keyAllowed : Bool) → Place → Bool × Place
  | 0, keyAllowed, p => (keyAllowed, p)
  | turns + 1, keyAllowed, p =>
    match p.rest with
    | ' ' :: _ => keyGapEnd flow turns keyAllowed p.skipBlank
    | '\n' :: _ => keyGapEnd flow turns (keyAllowed || !flow) p.newLine
    | '#' :: _ => keyGapEnd flow turns keyAllowed (p.lineEnd .v12)
    | _ => (keyAllowed, p)

/-! ## Keys and blocks -/

/-- Remembers that a key may start here if it may. -/
def saveKey : Lexing Unit := do
  let l ← get
  if l.keyAllowed then
    markKey (!l.inFlow && l.indent == l.place.column && l.indents.head?.any Indent.isBlock)

/-- Indents what follows by a column, once, in a block. -/
def indentOne : Lexing Unit :=
  modify fun l =>
    if !l.inFlow && l.indents.head?.any Indent.isBlock then
      { l with indents := ⟨l.indent, false⟩ :: l.indents, indent := l.indent + 1 }
    else l

/-- Takes back indentations that are no blocks. -/
def dropIndents : List Indent → Int → List Indent × Int
  | [], indent => ([], indent)
  | i :: rest, indent => if i.isBlock then (i :: rest, indent) else dropIndents rest i.column

/-- Goes back to the column of the innermost block. -/
def unindent : Lexing Unit :=
  modify fun l =>
    let (indents, indent) := dropIndents l.indents l.indent
    { l with indents := indents, indent := indent }

/-- Ends the mapping of one entry that may be open in the innermost sequence in brackets. -/
def endPair : Lexing Unit := do
  match (← get).pairOpen with
  | true :: rest =>
    modify fun l => { l with pairOpen := false :: rest, mappingStarted := false }
    emit .flowMappingEnd
  | _ => pure ()

/-! ## Tokens -/

/-- Reads a line that tells how a document is to be read.  Lines of an unknown kind count as
one that defines nothing. -/
def directive : Lexing Unit := do
  closeAll
  skip 1
  let name ← read (some <| ·.span isWordChar)
  require (!name.isEmpty && Edition.v12.atGap (← place).rest)
  if name = "YAML".toList then
    move (← place).skipBlanks
    let (major, minor) ← read versionAt
    emit (.version major minor)
  else if name = "TAG".toList then
    move (← place).skipBlanks
    let handle ← read definedHandleAt
    move (← place).skipBlanks
    require ((← place).head?.any fun c => c == '!' || isTagChar c)
    let stem ← read (uriAt .v12 isUriChar (← turns))
    require (Edition.v12.atGap (← place).rest)
    emit (.handle (String.ofList handle) (String.ofList stem))
  else
    move ((← place).lineEnd .v12)
    emit (.handle "" "")
  skipLine
  move ((← place).skipBreak .v12)

/-- Reads the mark of the start of a document. -/
def documentStart : Lexing Unit := do
  closeAll
  skip 3
  emit .documentStart

/-- Reads the mark of the end of a document, with nothing behind it on the line. -/
def documentEnd : Lexing Unit := do
  closeAll
  skip 3
  emit .documentEnd
  skipLine

/-- Brackets may be nested this deep. -/
def maxDepth : Nat := 255

/-- Reads an opening bracket. -/
def openBracket (t : Token) : Lexing Unit := do
  saveKey
  indentOne
  require ((← get).keys.length ≤ maxDepth)
  enter
  allowKey true
  skip 1
  if t = .flowMapping then modify fun l => { l with mappingStarted := true }
  else modify fun l => { l with pairOpen := false :: l.pairOpen }
  discard skipLineGap
  emit t

/-- Reads a closing bracket.  If it is inside others, it may be that of a key, and the colon
may follow at once. -/
def closeBracket (t : Token) : Lexing Unit := do
  dropKey
  leave
  allowKey false
  if t = .flowSequenceEnd then
    endPair
    modify fun l => { l with pairOpen := l.pairOpen.tail }
  skip 1
  discard skipLineGap
  modify fun l => if l.inFlow then { l with adjacentAt := l.place.index } else l
  emit t

/-- Reads a comma. -/
def comma : Lexing Unit := do
  dropKey
  allowKey true
  endPair
  skip 1
  discard skipLineGap
  emit .comma

/-- Reads the dash of an item. -/
def item : Lexing Unit := do
  let l ← get
  require (!l.inFlow && l.keyAllowed)
  rollHere .blockSequence
  skip 1
  let blanks ← skipLineGap
  let rest := (← place).rest
  require !(blanks.contains '\t' && rest.head? == some '-' && Edition.v12.atGap rest.tail)
  if rest.head?.any fun c => c == '\n' || isFlowSign c then indentOne
  dropKey
  allowKey true
  emit .item

/-- Opens a mapping in a column, where a key must be allowed, unless inside brackets. -/
def openMapping (column : Nat) : Lexing Unit := do
  let l ← get
  if !l.inFlow then
    require l.keyAllowed
    roll column l.tokens.size .blockMapping

/-- Reads the question mark of a key. -/
def explicitKey : Lexing Unit := do
  openMapping (← place).column
  modify fun l => if l.inFlow then { l with mappingStarted := true } else l
  dropKey
  allowKey !(← get).inFlow
  skip 1
  let l ← get
  let (keyAllowed, p) := keyGapEnd l.inFlow l.turns l.keyAllowed l.place
  require (l.place.head?.any fun c => c == ' ' || c == '\n')
  require (p.head? != some '\t')
  set { l with keyAllowed := keyAllowed, place := p }
  emit .key

/-- Reads the colon of a value.  A word must not follow with nothing but tabs between. -/
def value : Lexing Unit := do
  let start ← key
  let p ← place
  let l ← get
  let pair := !l.pairOpen.isEmpty && !l.mappingStarted
  if pair then modify fun l => { l with pairOpen := true :: l.pairOpen.tail }
  skip 1
  if (← place).head? = some '\t' then
    let blanks ← skipLineGap
    require (blanks.contains ' ' || !(← place).head?.any isWordChar)
  if start.possible then
    insertAt start.number .key
    if pair then
      require (start.line == p.line)
      insertAt start.number .flowMapping
    roll start.column start.number .blockMapping
    indentOne
    setKey { start with possible := false }
    allowKey false
  else
    if pair then emit .flowMapping
    openMapping p.column
    indentOne
    allowKey !l.inFlow
  emit .value

/-- Reads the name of an anchor or an alias. -/
def anchor (token : String → Token) : Lexing Unit := do
  saveKey
  allowKey false
  skip 1
  let name ← read (some <| ·.span isAnchorChar)
  require !name.isEmpty
  emit (token (String.ofList name))

/-- Reads a tag. -/
def tag : Lexing Unit := do
  saveKey
  allowKey false
  let n ← turns
  let whole := (← place).rest[1]? = some '<'
  let (handle, name) ←
    read (if whole then verbatimAt .v12 isUriChar n else shorthandAt .v12 isTagChar n)
  let l ← get
  require (Edition.v12.atGap l.place.rest || (l.inFlow && l.place.head?.any isFlowSign))
  emit (.tag (String.ofList handle) (String.ofList name))

/-- What a block without content reads as.  `first` is the break behind its head. -/
def emptyBlock (chomp : Chomp) (first empty : List Char) : List Char :=
  match chomp with
  | .strip => []
  | .clip => first
  | .keep => if first.isEmpty || empty.isEmpty then first else empty

/-- The breaks at the end of a block in column `indent`.  A last line that the text ends in
counts as ended by a break. -/
def blockTail (chomp : Chomp) (indent : Nat) (block : Block) : List Char :=
  let last :=
    if block.place.rest.isEmpty && indent.max 1 ≤ block.place.column then block.last ++ ['\n']
    else block.last
  match chomp with
  | .strip => []
  | .clip => last
  | .keep => last ++ block.empty

/-- Reads the text of a scalar that is a block, from behind its head. -/
def blockText (joined : Bool) (head : BlockHead) (first : List Char) : Lexing String := do
  let l ← get
  let given := head.indent.map fun n => if 0 ≤ l.indent then l.indent.toNat + n else n
  match blockGapAt .v12 given l.turns l.place with
  | none => failure
  | some gap =>
    let p := gap.place
    let indent := given.getD (gap.widest.max (l.indent + 1).toNat)
    if p.rest.isEmpty then
      move p
      return String.ofList (emptyBlock head.chomp first gap.breaks)
    else
      require !(p.column < indent && l.indent < p.column)
      match blockLines .v12 joined indent l.turns false ⟨[], [], gap.breaks, p⟩ with
      | none => failure
      | some block =>
        move block.place
        return block.text (blockTail head.chomp indent block)

/-- Reads a scalar that is a block. -/
def blockScalar (joined : Bool) : Lexing Unit := do
  saveKey
  allowKey true
  skip 1
  unindent
  let head ← read blockHeadAt
  skipLine
  let first := (← place).rest.take 1
  move ((← place).skipBreak .v12)
  require ((← place).head? != some '\t')
  let text ← blockText joined head first
  emit (.scalar (if joined then .folded else .literal) text)

/-- What may stand behind a quoted scalar on its line: nothing, the colon of a value, or a sign
of the brackets around it.  The scalar of a key in a block must stand on one line. -/
def mayFollowQuoted (flow sameLine : Bool) : List Char → Bool
  | [] => true
  | c :: _ =>
    c == '\n' || (c == ':' && (flow || sameLine)) || (flow && (c == ',' || c == ']' || c == '\x7d'))

/-- Reads a quoted scalar.  If it is a key, the colon may follow at once. -/
def quotedScalar (quote : Char) : Lexing Unit := do
  saveKey
  allowKey false
  let l ← get
  let text ← read (quotedAt .v12 l.indent quote l.turns)
  discard skipLineGap
  let p ← place
  require (mayFollowQuoted l.inFlow (l.place.line == p.line) p.rest)
  skipGap
  modify fun l => { l with adjacentAt := l.place.index }
  emit (.scalar .quoted text)

/-- How plain scalars are read. -/
def plainRule (flow : Bool) (indent : Int) : PlainRule where
  flow := flow
  indent := indent
  tab := emptyLineEnd
  ends
    | ':' :: rest => Edition.v12.atGap rest || (flow && rest.head?.any isFlowSign)
    | c :: _ => flow && isFlowSign c
    | [] => true
  refused _ := false
  refusedAtWord
    | '-' :: rest => flow && rest.head?.any isFlowSign
    | _ => false

/-- Reads a plain scalar. -/
def plainScalar : Lexing Unit := do
  saveKey
  allowKey false
  unindent
  let l ← get
  let indent := l.indent + 1
  require !(l.inFlow && l.place.column < indent)
  match plainAt .v12 (plainRule l.inFlow indent) l.turns l.place with
  | none => failure
  | some plain =>
    move plain.place
    if plain.broken then allowKey true
    emit (.scalar .plain plain.text)

/-- Reads the token that starts with a character. -/
def readToken (flow adjacent : Bool) (c : Char) (rest : List Char) : Lexing Unit :=
  let alone := Edition.v12.atGap rest
  if c = '[' then openBracket .flowSequence
  else if c = '\x7b' then openBracket .flowMapping
  else if c = ']' then closeBracket .flowSequenceEnd
  else if c = '\x7d' then closeBracket .flowMappingEnd
  else if c = ',' then comma
  else if c = '-' && alone then item
  else if c = '?' && alone then explicitKey
  else if c = ':' && (alone || (flow && (adjacent || rest.head?.any isFlowSign))) then value
  else if c = '*' then anchor .alias
  else if c = '&' then anchor .anchor
  else if c = '!' then tag
  else if c = '|' && !flow then blockScalar false
  else if c = '>' && !flow then blockScalar true
  else if c = '\'' || c = '"' then quotedScalar c
  else if c = '%' || c = '@' || c = '\x60' then failure
  else plainScalar

/-- Reads the next token; says whether there was one. -/
def step : Lexing Bool := do
  skipGap
  if !(← get).inFlow then dropStaleKeys
  unroll (← place).column
  let l ← get
  let p := l.place
  match p.rest with
  | [] =>
    require (l.keys.all fun key => !(key.possible && key.required))
    unroll (-1)
    return false
  | c :: rest =>
    if p.column = 0 && c = '%' then directive
    else if p.atMark .v12 '-' then documentStart
    else if p.atMark .v12 '.' then documentEnd
    else if p.column < l.indent then failure
    else readToken l.inFlow (p.index == l.adjacentAt) c rest
    return true

end Lexer12

/-- The tokens of a text of YAML 1.2.  A null character ends it. -/
def tokens12? (text : List Char) : Option (List Token) :=
  Lexing.tokens? Lexer12.step (Edition.v12.unifyBreaks (text.takeWhile (· != '\x00')))

end Yaml
end ExchangeClient

import ExchangeClient.Yaml.Place
import ExchangeClient.Yaml.Token

/-!
# From tokens to documents

The tokens of a document are read as a tree by recursive descent.  The editions read the
same trees, but for three things: what a node that is not written reads as, whether a value
may stand without a key, and what a tag without a known handle is.

Every call reads a token before the next of its kind, so their number is bounded by the
number of tokens.
-/

namespace ExchangeClient
namespace Yaml

/-- What is left of the tokens, and what has been defined. -/
structure Parser where
  tokens : List Token
  /-- What the handles of tags stand for. -/
  handles : List (String × String)
  /-- The numbers of the names of nodes. -/
  names : List (String × Nat)

/-- A step of reading a tree. -/
abbrev Parsing := StateT Parser Option

namespace Parsing

/-- The next token. -/
def peek : Parsing (Option Token) := return (← get).tokens.head?

/-- Passes over a token. -/
def advance : Parsing Unit := modify fun r => { r with tokens := r.tokens.tail }

/-- The next token is one of some. -/
def atOne (ts : List Token) : Parsing Bool := return (← get).tokens.head?.any ts.contains

/-! ## Names and tags -/

/-- Numbers a name.  In the older edition a name that is given again does not count, so two
nodes may get one number. -/
def nameNode (e : Edition) (name : String) : Parsing Nat := do
  let r ← get
  let number := r.names.length
  let others := if e = .v11 then r.names.filter fun (n, _) => n != name else r.names
  set { r with names := (name, number) :: others }
  return number

/-- The alias of a node that has a name. -/
def aliasOf (name : String) : Parsing Node := do
  match (← get).names.lookup name with
  | some number => return .alias number
  | none => failure

/-- The tag that a handle and a name write. -/
def tagOf? (e : Edition) (handles : List (String × String)) (handle name : String) : Option Tag :=
  match e with
  | .v11 =>
    if handle = "" then some ⟨"", name⟩ else (handles.lookup handle).map fun stem => ⟨stem, name⟩
  | .v12 =>
    match handles.lookup handle with
    | some stem => some ⟨stem, name⟩
    | none =>
      if handle = "!!" then some ⟨Tag.coreStem, name⟩
      else if 2 ≤ handle.length && handle.endsWith "!" then none
      else some ⟨handle, name⟩

/-- What stands in front of a node. -/
structure Properties where
  number : Option Nat
  tag : Option Tag

/-- Reads a name in front of a node. -/
def readName (e : Edition) : Parsing (Option Nat) := do
  match ← peek with
  | some (.anchor name) =>
    advance
    return some (← nameNode e name)
  | _ => return none

/-- Reads a tag in front of a node. -/
def readTag (e : Edition) : Parsing (Option Tag) := do
  match ← peek with
  | some (.tag handle name) =>
    advance
    match tagOf? e (← get).handles handle name with
    | some tag => return some tag
    | none => failure
  | _ => return none

/-- Reads a name and a tag in front of a node, in either order. -/
def readProperties (e : Edition) : Parsing Properties := do
  match ← readName e with
  | some number => return ⟨some number, ← readTag e⟩
  | none =>
    match ← readTag e with
    | some tag => return ⟨← readName e, some tag⟩
    | none => return ⟨none, none⟩

/-- A node that is not written where one may be left out. -/
def missing (e : Edition) : Node :=
  .scalar none .plain none (match e with | .v11 => "" | .v12 => "~")

/-- The node of which only properties are written. -/
def Properties.bare (props : Properties) : Parsing Node :=
  if props.number.isNone && props.tag.isNone then failure
  else return .scalar props.number .plain props.tag ""

/-! ## Nodes -/

mutual

/-- Reads a node.  `block` says that it may be a block, and `dashes` that it may be a sequence
of items in the column of the block around it. -/
def node (e : Edition) : (turns : Nat) → (block dashes : Bool) → Parsing Node
  | 0, _, _ => failure
  | turns + 1, block, dashes => do
    if let some (.alias name) ← peek then
      advance
      aliasOf name
    else
      let props ← readProperties e
      match ← peek with
      | some (.scalar style text) =>
        advance
        return .scalar props.number style props.tag text
      | some .flowSequence =>
        advance
        return .sequence props.number (← flowItems e turns true)
      | some .flowMapping =>
        advance
        return .mapping props.number (← flowEntries e turns true)
      | some .blockSequence =>
        if block then
          advance
          return .sequence props.number (← blockItems e turns)
        else props.bare
      | some .blockMapping =>
        if block then
          advance
          return .mapping props.number (← blockEntries e turns)
        else props.bare
      | some .item =>
        if dashes then return .sequence props.number (← looseItems e turns) else props.bare
      | _ => props.bare

/-- Reads a node unless one of some tokens follows, in front of which it is left out. -/
def nodeUnless (e : Edition) : (turns : Nat) → (ends : List Token) → (block dashes : Bool) →
    Parsing Node
  | 0, _, _, _ => failure
  | turns + 1, ends, block, dashes => do
    if ← atOne ends then return missing e else node e turns block dashes

/-- Reads the value of an entry, if there is one. -/
def valueUnless (e : Edition) : (turns : Nat) → (ends : List Token) → (block dashes : Bool) →
    Parsing Node
  | 0, _, _, _ => failure
  | turns + 1, ends, block, dashes => do
    if ← atOne [.value] then
      advance
      nodeUnless e turns ends block dashes
    else return missing e

/-- Reads the items of a sequence in brackets, and the closing bracket. -/
def flowItems (e : Edition) : (turns : Nat) → (first : Bool) → Parsing (List Node)
  | 0, _ => failure
  | turns + 1, first => do
    if !first && (← atOne [.comma]) then
      advance
      flowItems e turns true
    else if ← atOne [.flowSequenceEnd] then
      advance
      return []
    else if !first then failure
    else if ← atOne [.key] then
      advance
      let item ← flowPair e turns
      return item :: (← flowItems e turns false)
    else
      let item ← node e turns false false
      return item :: (← flowItems e turns false)

/-- Reads an entry among the items of a sequence in brackets.  A token in front of which its
key is left out is passed over. -/
def flowPair (e : Edition) : (turns : Nat) → Parsing Node
  | 0 => failure
  | turns + 1 => do
    let leftOut ← atOne [.value, .comma, .flowSequenceEnd]
    let key ← nodeUnless e turns [.value, .comma, .flowSequenceEnd] false false
    if leftOut then advance
    let value ← valueUnless e turns [.comma, .flowSequenceEnd] false false
    return .mapping none [(key, value)]

/-- Reads the entries of a mapping in brackets, and the closing bracket. -/
def flowEntries (e : Edition) : (turns : Nat) → (first : Bool) → Parsing (List (Node × Node))
  | 0, _ => failure
  | turns + 1, first => do
    if !first && (← atOne [.comma]) then
      advance
      flowEntries e turns true
    else if ← atOne [.flowMappingEnd] then
      advance
      return []
    else if !first then failure
    else if ← atOne [.key] then
      advance
      let key ← nodeUnless e turns [.value, .comma, .flowMappingEnd] false false
      let value ← valueUnless e turns [.comma, .flowMappingEnd] false false
      return (key, value) :: (← flowEntries e turns false)
    else if e = .v12 && (← atOne [.value]) then
      let value ← valueUnless e turns [.comma, .flowMappingEnd] false false
      return (missing e, value) :: (← flowEntries e turns false)
    else
      let key ← node e turns false false
      return (key, missing e) :: (← flowEntries e turns false)

/-- Reads the items of a block, and its end. -/
def blockItems (e : Edition) : (turns : Nat) → Parsing (List Node)
  | 0 => failure
  | turns + 1 => do
    if ← atOne [.item] then
      advance
      let item ← nodeUnless e turns [.item, .blockEnd] true false
      return item :: (← blockItems e turns)
    else if ← atOne [.blockEnd] then
      advance
      return []
    else failure

/-- Reads items in the column of the block around them; whatever is no item ends them. -/
def looseItems (e : Edition) : (turns : Nat) → Parsing (List Node)
  | 0 => failure
  | turns + 1 => do
    if ← atOne [.item] then
      advance
      let item ← nodeUnless e turns [.item, .key, .value, .blockEnd] true false
      return item :: (← looseItems e turns)
    else return []

/-- Reads the entries of a block, and its end. -/
def blockEntries (e : Edition) : (turns : Nat) → Parsing (List (Node × Node))
  | 0 => failure
  | turns + 1 => do
    if ← atOne [.key] then
      advance
      let key ← nodeUnless e turns [.key, .value, .blockEnd] true true
      let value ← valueUnless e turns [.key, .value, .blockEnd] true true
      return (key, value) :: (← blockEntries e turns)
    else if e = .v12 && (← atOne [.value]) then
      let value ← valueUnless e turns [.key, .value, .blockEnd] true true
      return (missing e, value) :: (← blockEntries e turns)
    else if ← atOne [.blockEnd] then
      advance
      return []
    else failure

end

/-! ## Documents -/

/-- The handles that stand for something in every document. -/
def usualHandles : Edition → List (String × String)
  | .v11 => [("!", "!"), ("!!", Tag.coreStem)]
  | .v12 => []

/-- Reads the directives of a document.  The older edition takes only texts of its own kind
and the next, and no handle may be defined twice.  In the newer one each directive takes the
place of those in front. -/
def readDirectives (e : Edition) : (turns : Nat) → (version : Bool) →
    (handles : List (String × String)) → Parsing (List (String × String))
  | 0, _, _ => failure
  | turns + 1, version, handles => do
    match ← peek with
    | some (.version major minor) =>
      if version || (e == .v11 && !(major == 1 && (minor == 1 || minor == 2))) then failure
      advance
      readDirectives e turns true (if e = .v11 then handles else [])
    | some (.handle handle stem) =>
      if e = .v11 && (handles.lookup handle).isSome then failure
      advance
      readDirectives e turns version
        ((handle, stem) :: (if e = .v11 then handles else []))
    | _ => return handles

/-- Reads the directives of a document, which are all it knows. -/
def startDocument (e : Edition) : Parsing Unit := do
  let turns := (← get).tokens.length + 1
  let handles ← readDirectives e turns false []
  modify fun r => { r with handles := handles ++ usualHandles e, names := [] }

/-- Passes over the marks of the ends of documents. -/
def skipEnds : Parsing Unit :=
  modify fun r => { r with tokens := r.tokens.dropWhile (· == .documentEnd) }

/-- The document that may start here has a mark of its start, or lines in front of it. -/
def atMarked : Parsing Bool :=
  return (← peek).any fun t => t.isDirective || t == .documentStart

/-- Reads a document.  `free` says that it may do without a mark of its start. -/
def document (e : Edition) (free : Bool) : Parsing Node := do
  let turns := 4 * (← get).tokens.length + 4
  let marked ← atMarked
  if !marked && !free then failure
  startDocument e
  if marked then
    if !(← atOne [.documentStart]) then failure
    advance
    match ← peek with
    | none => return missing e
    | some t =>
      if t.isDirective || t == .documentStart || t == .documentEnd then return missing e
      else node e turns true false
  else node e turns true false

/-- Reads documents.  In the older edition only the first may do without a mark of its start,
and marks of ends may not stand in front of it; in the newer one this goes for a document
behind such a mark as well, and no directive may stand behind a document without one. -/
def documents (e : Edition) : (turns : Nat) → (free : Bool) → Parsing (List Node)
  | 0, _ => failure
  | turns + 1, free => do
    if e = .v12 || !free then skipEnds
    if (← peek).isNone then return []
    let first ← document e free
    let ended ← atOne [.documentEnd]
    if ended then advance
    else if e = .v12 && (← peek).any Token.isDirective then failure
    return first :: (← documents e turns (e == .v12 && ended))

end Parsing

/-- The documents that tokens write; `none` if they write none. -/
def documentsOf? (e : Edition) (tokens : List Token) : Option (List Node) :=
  ((Parsing.documents e (tokens.length + 1) true).run ⟨tokens, [], []⟩).map (·.1)

end Yaml
end ExchangeClient

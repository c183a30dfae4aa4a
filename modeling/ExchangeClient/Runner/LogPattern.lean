import ExchangeClient.Double.Decimal
import ExchangeClient.Text.Alphanumeric
import ExchangeClient.Text.Blank
import ExchangeClient.Text.Hex

/-!
# Patterns of log filters

A filter may ask for the value of a field: a number, a flag, or a pattern that the value
matches.  Here it only counts whether there is such a pattern, a regular expression
without looking around and without word boundaries of Unicode.  Commas, signs of
equality and closing braces never stand in one, since they end it, so repetitions that
count are out of reach.

Reading keeps the flags of each open group, because some escapes depend on them, and
whether something stands in front that can be repeated.
-/

namespace ExchangeClient
namespace LogPattern

/-- The flags that decide what is well formed. -/
structure Flags where
  /-- Characters are Unicode's rather than bytes. -/
  unicode : Bool
  /-- Blanks and comments do not count. -/
  verbose : Bool

/-! ## Escapes -/

/-- What an escape stands for. -/
inductive Escape where
  | letter (c : Char)
  /-- Any of several characters. -/
  | set
  /-- A place between characters. -/
  | edge

/-- How many digits an escape by number has. -/
def escapeDigits? (c : Char) : Option Nat :=
  match c with
  | 'x' => some 2
  | 'u' => some 4
  | 'U' => some 8
  | _ => none

/-- The letter of an escape by number, and the rest. -/
def numbered? (f : Flags) (digits : Nat) (cs : List Char) : Option (Escape × List Char) :=
  let word := cs.take digits
  if word.length < digits || !word.all fun c => (Text.hexValue? c).isSome then none
  else
    let n := word.foldl (fun n c => 16 * n + (Text.hexValue? c).getD 0) 0
    if 0x10FFFF < n || (0xD800 ≤ n && n ≤ 0xDFFF) || (!f.unicode && 0x7F < n) then none
    else some (.letter (Char.ofNat n), cs.drop digits)

/-- What an escape stands for, from behind its backslash, and the rest. -/
def escape? (f : Flags) : List Char → Option (Escape × List Char)
  | [] => none
  | c :: rest =>
    match escapeDigits? c with
    | some digits => numbered? f digits rest
    | none =>
      if c == 'p' || c == 'P' then
        match rest with
        | property :: rest =>
          if f.unicode && "clmnpsz".toList.contains property.toLower then some (.set, rest)
          else none
        | [] => none
      else if "dsw".toList.contains c || (f.unicode && "DSW".toList.contains c) then
        some (.set, rest)
      else if c == 'A' || c == 'z' || (!f.unicode && "bB<>".toList.contains c) then
        some (.edge, rest)
      else
        match c with
        | 'a' => some (.letter (Char.ofNat 7), rest)
        | 'f' => some (.letter (Char.ofNat 12), rest)
        | 'n' => some (.letter '\n', rest)
        | 'r' => some (.letter '\r', rest)
        | 't' => some (.letter '\t', rest)
        | 'v' => some (.letter (Char.ofNat 11), rest)
        | c =>
          if c.toNat < 0x80 && !c.isAlphanum && c != '<' && c != '>' then
            some (.letter c, rest)
          else none

/-! ## Classes -/

/-- A text behind the blanks that do not count. -/
def skipBlank (f : Flags) (cs : List Char) : List Char :=
  if f.verbose then cs.dropWhile Text.isBlank else cs

/-- The names of the classes between colons. -/
def classNames : List String :=
  ["alnum", "alpha", "ascii", "blank", "cntrl", "digit", "graph", "lower", "print", "punct",
    "space", "upper", "word", "xdigit"]

/-- The text behind a class between colons. -/
def namedClass? : List Char → Option (List Char)
  | '[' :: ':' :: rest =>
    let rest := if rest.head? = some '^' then rest.tail else rest
    let name := rest.takeWhile Char.isAlpha
    match rest.drop name.length with
    | ':' :: ']' :: behind =>
      if classNames.contains (String.ofList name) then some behind else none
    | _ => none
  | _ => none

/-- The text behind the opening of a class: its sign of negation, and the hyphens or the
bracket that are letters because they come first. -/
def openClass? (f : Flags) (cs : List Char) : Option (List Char) :=
  let cs := skipBlank f cs
  let negated := cs.head? = some '^'
  let cs := skipBlank f (if negated then cs.tail else cs)
  if negated && !f.unicode then none
  else
    match cs with
    | ']' :: rest => some rest
    | '-' :: _ => some (cs.dropWhile (· == '-'))
    | _ => some cs

/-- An item of a class, and the rest: a letter or several. -/
def classItem? (f : Flags) : List Char → Option (Option Char × List Char)
  | [] => none
  | '\\' :: rest =>
    match escape? f rest with
    | some (.letter c, rest) => some (some c, rest)
    | some (.set, rest) => some (none, rest)
    | _ => none
  | c :: rest => if !f.unicode && 0x80 ≤ c.toNat then none else some (some c, rest)

/-- The text behind an item or a range of a class. -/
def classRange? (f : Flags) (cs : List Char) : Option (List Char) :=
  match classItem? f cs with
  | none => none
  | some (first, rest) =>
    match skipBlank f rest with
    | '-' :: more =>
      match skipBlank f more with
      | ']' :: _ | '-' :: _ => some ('-' :: more)
      | more =>
        match first, classItem? f more with
        | some a, some (some b, rest) => if a ≤ b then some rest else none
        | _, _ => none
    | rest => some rest

/-- The text behind a class, of which `depth` more are open.  `turns` bounds the number
of items. -/
def closeClass? (f : Flags) : (turns depth : Nat) → List Char → Option (List Char)
  | 0, _, _ => none
  | turns + 1, depth, cs =>
    match skipBlank f cs with
    | [] => none
    | ']' :: rest => if depth = 0 then some rest else closeClass? f turns (depth - 1) rest
    | '&' :: '&' :: rest | '-' :: '-' :: rest | '~' :: '~' :: rest =>
      closeClass? f turns depth rest
    | '[' :: rest =>
      match namedClass? ('[' :: rest) with
      | some rest => closeClass? f turns depth rest
      | none => (openClass? f rest).bind (closeClass? f turns (depth + 1))
    | cs => (classRange? f cs).bind (closeClass? f turns depth)

/-! ## Groups -/

/-- The flags that letters set, from behind the question mark: whether a group opens
with them, and the rest. -/
def flags? : (seen : List Char) → (negated last : Bool) → Flags → List Char →
    Option (Flags × Bool × List Char)
  | _, _, _, _, [] => none
  | seen, negated, last, f, c :: rest =>
    if c == ':' || c == ')' then
      if last || (c == ')' && seen.isEmpty) then none else some (f, c == ':', rest)
    else if c == '-' then if negated then none else flags? ('-' :: seen) true true f rest
    else if seen.contains c || !("imsUuRx".toList.contains c) then none
    else
      let f := if c == 'u' then { f with unicode := !negated } else f
      let f := if c == 'x' then { f with verbose := !negated } else f
      flags? (c :: seen) negated false f rest

/-- The name of a group, and the rest. -/
def groupName? (cs : List Char) : Option (List Char × List Char) :=
  let name := cs.takeWhile (· != '>')
  let isFirst (c : Char) : Bool := c == '_' || (Text.isAlphanumeric c && !c.isDigit)
  let isNext (c : Char) : Bool := "_.[]".toList.contains c || Text.isAlphanumeric c
  match name, cs.drop name.length with
  | c :: more, _ :: rest => if isFirst c && more.all isNext then some (name, rest) else none
  | _, _ => none

/-- What is open while a pattern is read. -/
structure Open where
  /-- The flags outside of each open group, the innermost first. -/
  groups : List Flags
  /-- The names of groups so far. -/
  names : List (List Char)
  flags : Flags
  /-- Something stands in front that can be repeated. -/
  repeatable : Bool

/-- The state behind the opening of a group, and the rest. -/
def openGroup? (s : Open) (cs : List Char) : Option (Open × List Char) :=
  let named (rest : List Char) : Option (Open × List Char) :=
    match groupName? rest with
    | some (name, rest) =>
      if s.names.contains name then none
      else some ({ s with groups := s.flags :: s.groups, names := name :: s.names,
                          repeatable := false }, rest)
    | none => none
  match skipBlank s.flags cs with
  | '?' :: 'P' :: '<' :: rest => named rest
  | '?' :: '<' :: rest => named rest
  | '?' :: rest =>
    match flags? [] false false s.flags rest with
    | some (f, true, rest) =>
      some ({ s with groups := s.flags :: s.groups, flags := f, repeatable := false }, rest)
    | some (f, false, rest) => some ({ s with flags := f, repeatable := false }, rest)
    | none => none
  | rest => some ({ s with groups := s.flags :: s.groups, repeatable := false }, rest)

/-- The state behind the next part of a pattern, and the rest. -/
def step? (s : Open) (c : Char) (rest : List Char) : Option (Open × List Char) :=
  let item : Open := { s with repeatable := true }
  if s.flags.verbose && Text.isBlank c then some (s, rest)
  else if s.flags.verbose && c == '#' then some (s, (rest.dropWhile (· != '\n')).tail)
  else
    match c with
    | '\\' => (escape? s.flags rest).map fun (_, rest) => (item, rest)
    | '[' =>
      ((openClass? s.flags rest).bind (closeClass? s.flags (rest.length + 1) 0)).map fun rest =>
        (item, rest)
    | '(' => openGroup? s rest
    | ')' =>
      match s.groups with
      | f :: groups => some ({ item with groups := groups, flags := f }, rest)
      | [] => none
    | '|' => some ({ s with repeatable := false }, rest)
    | '*' | '+' | '?' =>
      if s.repeatable then some (s, if rest.head? = some '?' then rest.tail else rest) else none
    | '\x7b' => none
    | '.' => if s.flags.unicode then some (item, rest) else none
    | _ => some (item, rest)

/-- Whether the rest of a pattern is well formed.  `turns` bounds the number of parts. -/
def isWellFormed : (turns : Nat) → Open → List Char → Bool
  | _, s, [] => s.groups.isEmpty
  | 0, _, _ :: _ => false
  | turns + 1, s, c :: rest =>
    match step? s c rest with
    | some (s, rest) => isWellFormed turns s rest
    | none => false

/-- Whether a text is a pattern. -/
def isPattern (cs : List Char) : Bool :=
  isWellFormed cs.length ⟨[], [], ⟨true, false⟩, false⟩ cs

/-- Whether a text is a value that can be looked for.  A number with a sign in front is
none of the patterns; all other numbers and flags are. -/
def isValue (cs : List Char) : Bool :=
  (Double.ofDecimal? cs).isSome || isPattern cs

end LogPattern
end ExchangeClient

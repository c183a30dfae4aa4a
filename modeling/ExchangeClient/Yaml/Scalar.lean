import ExchangeClient.Text.Hex
import ExchangeClient.Yaml.Node
import ExchangeClient.Yaml.Place

/-!
# YAML scalars

A scalar may run over several lines.  Where it does, blanks around a line break do
not count; a single break reads as a space and each further one as itself.  Plain
scalars end where a comment or the value of a mapping starts; quoted ones end at
their quote; blocks end where the indentation does.

The editions agree on what a scalar means.  They differ in which indentation they ask of
its lines, which is left to whoever calls these readers.

A reader passes over at least one character in each of its turns, so it has as many as
there are characters left, and one more to stop.
-/

namespace ExchangeClient
namespace Yaml

/-! ## Gaps -/

/-- What stands between two words: blanks, or breaks with the blanks around them left
out. -/
structure Gap where
  blanks : List Char
  breaks : List Char
  place : Place

/-- What a gap reads as. -/
def Gap.text (gap : Gap) : List Char :=
  if gap.breaks.isEmpty then gap.blanks else joinBreaks gap.breaks

/-- A gap that goes on, with what has been read of it backwards.  `broken` says that a line
has ended in it.  A tab to the left of column `indent` is passed over by `tab`, which may
refuse it. -/
def gapFrom (e : Edition) (indent : Int) (tab : Place → Option Place) : (turns : Nat) →
    (broken : Bool) → (blanks breaks : List Char) → Place → Option Gap
  | 0, _, _, _, _ => none
  | turns + 1, broken, blanks, breaks, p =>
    match p.rest with
    | [] => some ⟨blanks.reverse, breaks.reverse, p⟩
    | c :: _ =>
      if e.isBreak c then gapFrom e indent tab turns true [] (c :: breaks) p.newLine
      else if !isBlank c then some ⟨blanks.reverse, breaks.reverse, p⟩
      else if !broken then gapFrom e indent tab turns false (c :: blanks) breaks p.skipBlank
      else if c = '\t' && p.column < indent then
        (tab p).bind (gapFrom e indent tab turns true blanks breaks)
      else gapFrom e indent tab turns true blanks breaks p.skipBlank

/-! ## Plain scalars -/

/-- A scalar that has been read. -/
structure Plain where
  /-- Its text, backwards. -/
  back : List Char
  /-- Nothing of the line behind it has been read. -/
  broken : Bool
  place : Place

/-- The text of a scalar. -/
def Plain.text (read : Plain) : String := String.ofList read.back.reverse

/-- How the words of a plain scalar are told from what stands behind it. -/
structure PlainRule where
  /-- Inside brackets. -/
  flow : Bool
  /-- The least column of a line that continues the scalar. -/
  indent : Int
  /-- Passes over a tab in the indentation. -/
  tab : Place → Option Place
  /-- A text whose head ends the scalar. -/
  ends : List Char → Bool
  /-- A text whose head may not stand in the scalar. -/
  refused : List Char → Bool
  /-- A text whose head may not start a word of the scalar. -/
  refusedAtWord : List Char → Bool

/-- A word of a plain scalar; `none` if it has a part that is refused. -/
def plainWord (e : Edition) (rule : PlainRule) : List Char → Option (List Char)
  | [] => some []
  | c :: rest =>
    if e.isGap c then some []
    else if rule.refused (c :: rest) then none
    else if rule.ends (c :: rest) then some []
    else (plainWord e rule rest).map (c :: ·)

/-- A plain scalar that goes on with a word. -/
def plainFrom (e : Edition) (rule : PlainRule) : (turns : Nat) → Plain → (gap : List Char) →
    Option Plain
  | 0, _, _ => none
  | turns + 1, read, gap =>
    let p := read.place
    if p.atMarker e || p.head? = some '#' then some read
    else if rule.refusedAtWord p.rest then none
    else
      match plainWord e rule p.rest with
      | none => none
      | some word =>
        let read : Plain :=
          if word.isEmpty then read
          else ⟨word.reverse ++ (gap.reverse ++ read.back), false, p.skip word.length⟩
        if !read.place.head?.any e.isGap then some read
        else
          match gapFrom e rule.indent rule.tab (turns + 1) read.broken [] [] read.place with
          | none => none
          | some next =>
            let broken := read.broken || !next.breaks.isEmpty
            let read : Plain := ⟨read.back, broken, next.place⟩
            if !rule.flow && next.place.column < rule.indent then some read
            else plainFrom e rule turns read next.text

/-- The plain scalar at a place. -/
def plainAt (e : Edition) (rule : PlainRule) (turns : Nat) (p : Place) : Option Plain :=
  plainFrom e rule turns ⟨[], false, p⟩ []

/-! ## Quoted scalars -/

/-- A number of hexadecimal digits at the head of a text. -/
def hexAt (n : Nat) (cs : List Char) : Option Nat :=
  if (cs.take n).length < n then none
  else (cs.take n).foldlM (fun sum c => (Text.hexValue? c).map (sum * 16 + ·)) 0

/-- The character of a code point. -/
def charOfCode? (n : Nat) : Option Char :=
  if n < 0x110000 && !(0xD800 ≤ n && n ≤ 0xDFFF) then some (Char.ofNat n) else none

/-- The character that an escape of one letter stands for. -/
def escapeChar? (c : Char) : Option Char :=
  match c with
  | '0' => some (Char.ofNat 0)
  | 'a' => some (Char.ofNat 7)
  | 'b' => some (Char.ofNat 8)
  | 't' | '\t' => some '\t'
  | 'n' => some '\n'
  | 'v' => some (Char.ofNat 11)
  | 'f' => some (Char.ofNat 12)
  | 'r' => some '\r'
  | 'e' => some (Char.ofNat 27)
  | ' ' | '"' | '/' | '\\' => some c
  | 'N' => some (Char.ofNat 0x85)
  | '_' => some (Char.ofNat 0xA0)
  | 'L' => some (Char.ofNat 0x2028)
  | 'P' => some (Char.ofNat 0x2029)
  | _ => none

/-- How many digits an escape by number has. -/
def escapeDigits? (c : Char) : Option Nat :=
  match c with
  | 'x' => some 2
  | 'u' => some 4
  | 'U' => some 8
  | _ => none

/-- The character that an escape stands for, from behind its sign, and the length of the
escape without the sign. -/
def escapeAt : List Char → Option (Char × Nat)
  | [] => none
  | c :: rest =>
    match escapeChar? c, escapeDigits? c with
    | some d, _ => some (d, 1)
    | none, some n => do some (← charOfCode? (← hexAt n rest), n + 1)
    | none, none => none

/-- The part of a quoted scalar up to a gap, a quote or an escaped break. -/
structure QuotedWord where
  /-- The text, backwards. -/
  back : List Char
  /-- The line ends in an escape, behind which the place is. -/
  escaped : Bool
  place : Place

/-- A part of a quoted scalar that goes on, behind the text `back`.  A single quote inside
single quotes is written twice; inside double quotes there are escapes. -/
def quotedWord (e : Edition) (quote : Char) : (turns : Nat) → (back : List Char) → Place →
    Option QuotedWord
  | 0, _, _ => none
  | turns + 1, back, p =>
    match p.rest with
    | [] => some ⟨back, false, p⟩
    | c :: rest =>
      if e.isGap c then some ⟨back, false, p⟩
      else if c = quote then
        if quote = '\'' && rest.head? = some '\'' then
          quotedWord e quote turns (c :: back) (p.skip 2)
        else some ⟨back, false, p⟩
      else if c = '\\' && quote = '"' then
        if rest.head?.any e.isBreak then some ⟨back, true, (p.skip 1).newLine⟩
        else
          match escapeAt rest with
          | some (d, n) => quotedWord e quote turns (d :: back) (p.skip (n + 1))
          | none => none
      else quotedWord e quote turns (c :: back) (p.skip 1)

/-- A quoted scalar that goes on with a word; gives its text and the place behind it.  Words
and tabs in front of them must not stand to the left of column `indent`. -/
def quotedFrom (e : Edition) (indent : Int) (quote : Char) : (turns : Nat) → (back : List Char) →
    Place → Option (String × Place)
  | 0, _, _ => none
  | turns + 1, back, p =>
    if p.atMarker e || p.rest.isEmpty || p.column < indent then none
    else
      match quotedWord e quote (turns + 1) back p with
      | none => none
      | some word =>
        if word.place.head? = some quote then
          some (String.ofList word.back.reverse, word.place.skip 1)
        else
          match gapFrom e indent (fun _ => none) (turns + 1) word.escaped [] [] word.place with
          | none => none
          | some gap =>
            let filling := if word.escaped then gap.breaks else gap.text
            quotedFrom e indent quote turns (filling.reverse ++ word.back) gap.place

/-- The quoted scalar at a place, with its quotes. -/
def quotedAt (e : Edition) (indent : Int) (quote : Char) (turns : Nat) (p : Place) :
    Option (String × Place) :=
  quotedFrom e indent quote turns [] (p.skip 1)

/-! ## Blocks -/

/-- What becomes of the line breaks at the end of a block. -/
inductive Chomp where
  | strip
  | clip
  | keep
  deriving Repr, DecidableEq

/-- The head of a block: how its end is treated, and by how much it is indented if that is
given. -/
structure BlockHead where
  chomp : Chomp
  indent : Option Nat
  deriving Repr, DecidableEq

/-- The sign of an end at the head of a text. -/
def chompAt : List Char → Option Chomp
  | '-' :: _ => some .strip
  | '+' :: _ => some .keep
  | _ => none

/-- The digit of an indentation at the head of a text. -/
def indentAt : List Char → Option Nat
  | c :: _ => if c.isDigit then some (c.toNat - 48) else none
  | [] => none

/-- The head of a block at the head of a text, its two parts in either order, and its length.
An indentation by nothing is none. -/
def blockHead? (cs : List Char) : Option (BlockHead × Nat) :=
  let read : BlockHead × Nat :=
    match chompAt cs, indentAt cs with
    | some chomp, _ =>
      match indentAt cs.tail with
      | some n => (⟨chomp, some n⟩, 2)
      | none => (⟨chomp, none⟩, 1)
    | none, some n =>
      match chompAt cs.tail with
      | some chomp => (⟨chomp, some n⟩, 2)
      | none => (⟨.clip, some n⟩, 1)
    | none, none => (⟨.clip, none⟩, 0)
  if read.1.indent = some 0 then none else some read

/-- The head of a block at a place, and the place behind it. -/
def blockHeadAt (p : Place) : Option (BlockHead × Place) :=
  (blockHead? p.rest).map fun (head, n) => (head, p.skip n)

/-- The empty lines in front of a line of a block, the widest indentation among them and the
next line, and the place behind its indentation. -/
structure BlockGap where
  breaks : List Char
  widest : Nat
  place : Place

/-- Empty lines that go on, with their breaks backwards.  No more blanks are passed than
`limit` columns allow; the older edition refuses tabs among them. -/
def blockGapFrom (e : Edition) (limit : Option Nat) : (turns : Nat) → BlockGap → Option BlockGap
  | 0, _ => none
  | turns + 1, gap =>
    let p := gap.place
    let widest := gap.widest.max p.column
    let inside := limit.all (p.column < ·)
    match p.rest with
    | [] => some ⟨gap.breaks.reverse, widest, p⟩
    | c :: _ =>
      if c = ' ' && inside then blockGapFrom e limit turns ⟨gap.breaks, widest, p.skipBlank⟩
      else if c = '\t' && inside && e == .v11 then none
      else if e.isBreak c then blockGapFrom e limit turns ⟨c :: gap.breaks, widest, p.newLine⟩
      else some ⟨gap.breaks.reverse, widest, p⟩

/-- The empty lines at a place. -/
def blockGapAt (e : Edition) (limit : Option Nat) (turns : Nat) (p : Place) : Option BlockGap :=
  blockGapFrom e limit turns ⟨[], 0, p⟩

/-- The lines of a block that have been read. -/
structure Block where
  /-- Their text, backwards. -/
  back : List Char
  /-- The break behind the last line. -/
  last : List Char
  /-- The empty lines behind it. -/
  empty : List Char
  place : Place

/-- The text of a block that ends with some breaks. -/
def Block.text (block : Block) (tail : List Char) : String :=
  String.ofList (block.back.reverse ++ tail)

/-- What stands between two lines of a block.  If they are joined, a single break between
lines that do not start with a blank is a space. -/
def Block.filling (joined : Bool) (block : Block) : List Char :=
  if joined && block.last == ['\n'] then
    if block.empty.isEmpty then [' '] else block.empty
  else block.last ++ block.empty

/-- A block in column `indent` that goes on with a line.  `indented` says that the last line
started with a blank.  A block without indentation ends with its document. -/
def blockLines (e : Edition) (joined : Bool) (indent : Nat) : (turns : Nat) → (indented : Bool) →
    Block → Option Block
  | 0, _, _ => none
  | turns + 1, indented, block =>
    let p := block.place
    if p.column ≠ indent || p.rest.isEmpty || (indent == 0 && p.atMark e '.') then some block
    else
      let starts := p.rest.head?.any isBlank
      let filling := block.filling (joined && !indented && !starts)
      let (line, behind) := p.span fun c => !e.isBreak c
      let last := behind.rest.take 1
      match blockGapAt e (some indent) (turns + 1) (behind.skipBreak e) with
      | none => none
      | some gap =>
        blockLines e joined indent turns starts
          ⟨line.reverse ++ (filling.reverse ++ block.back), last, gap.breaks, gap.place⟩

end Yaml
end ExchangeClient

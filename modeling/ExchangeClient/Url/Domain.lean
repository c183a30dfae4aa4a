import ExchangeClient.Text.Canonical
import ExchangeClient.Text.Utf8
import ExchangeClient.Url.Direction
import ExchangeClient.Url.DomainLetter
import ExchangeClient.Url.Joining
import ExchangeClient.Url.Punycode

/-!
# Domain names

A domain name may hold letters of any script, and what is sent is ASCII.  A name is
brought to its plain form, which is canonical, and cut into labels at the points.  A
label in ASCII stands as it is; one that starts with `xn--` spells out letters in
ASCII and has to spell out what could not be written plainly; and every other label
is spelled out that way.

## What a label may be

The rules for the letters of a label are the same however it is written.  It starts
with no mark, its characters that are not shown are where they matter, and in a name
with letters written from the right it keeps to one direction.
-/

namespace ExchangeClient
namespace Domain

/-- A character that no host contains. -/
def isForbidden (c : Char) : Bool :=
  "\x00\t\n\r #/:<>?@[\\]^|".toList.contains c

/-- A character that no name contains. -/
def isForbiddenInName (c : Char) : Bool :=
  isForbidden c || c.toNat < 0x20 || c.toNat == 0x7F || c == '%'

/-- The plain form of a name; `none` if it holds a character that no name may. -/
def plain? (cs : List Char) : Option (List Char) :=
  (cs.mapM DomainLetter.plain?).map fun parts => Text.canonical parts.flatten

/-- How many letters a label may have that is spelled out in ASCII. -/
def maxLetters : Nat := 1000

/-- How long the spelling of a label may be. -/
def maxSpelling : Nat := 2000

/-! ## Labels -/

/-- Whether the characters that are not shown make a difference where they are.
`before` is the text before, reversed. -/
def joinersMatter : (before : List Char) → List Char → Bool
  | _, [] => true
  | before, c :: rest =>
    let afterVirama := before.head?.any fun b => Text.combiningClass b == Text.viramaClass
    let here :=
      if c = Joining.joiner then afterVirama
      else if c = Joining.nonJoiner then
        afterVirama || (Joining.nearestJoins Joining.joinsForward before
          && Joining.nearestJoins Joining.joinsBackward rest)
      else true
    here && joinersMatter (c :: before) rest

/-- Whether letters may make up a label. -/
def isLabel (letters : List Char) : Bool :=
  letters.all Punycode.isBasic
    || (!(letters.head?.any DomainLetter.marks.contains) && joinersMatter [] letters
      && letters.length ≤ maxLetters)

/-- The letters that the spelling behind `xn--` stands for.  They include one
outside ASCII and are in their plain form. -/
def spelled? (spelling : List Char) : Option (List Char) :=
  if maxSpelling < spelling.length || spelling.getLast? = some '-' then none
  else
    match Punycode.decode spelling with
    | none => none
    | some letters =>
      if letters.all Punycode.isBasic || plain? letters != some letters then none
      else some letters

/-- The letters of a label in plain form; `none` if it may not stand in a name. -/
def letters? (label : List Char) : Option (List Char) :=
  let letters :=
    match label with
    | 'x' :: 'n' :: '-' :: '-' :: spelling =>
      if spelling.all Punycode.isBasic then spelled? spelling else none
    | _ => some label
  letters.filter isLabel

/-- A label in ASCII. -/
def labelToAscii (label : List Char) : List Char :=
  if label.all Punycode.isBasic then label
  else 'x' :: 'n' :: '-' :: '-' :: Punycode.encode label

/-- Whether every label keeps to one direction, if any letter is written from the
right. -/
def isConsistent (labels : List (List Char)) : Bool :=
  let directions := labels.map fun letters => letters.map Direction.ofChar
  !(directions.any fun label => label.any Direction.isRightward)
    || directions.all Direction.isConsistent

/-! ## Names -/

/-- A name in ASCII; `none` if it is not well formed. -/
def toAscii? (cs : List Char) : Option (List Char) := do
  let plain ← plain? cs
  if plain.any isForbiddenInName then none
  else
    let labels := Text.pieces '.' plain
    let letters ← labels.mapM letters?
    if isConsistent letters then
      some (Text.joinPieces '.' (labels.map labelToAscii))
    else none

/-- The name that bytes stand for, in ASCII. -/
def ofBytes? (bytes : List UInt8) : Option (List Char) :=
  match Text.Utf8.decode bytes with
  | .error _ => none
  | .ok cs => toAscii? cs

end Domain
end ExchangeClient

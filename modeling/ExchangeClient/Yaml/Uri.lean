import ExchangeClient.Text.Hex
import ExchangeClient.Text.Utf8
import ExchangeClient.Yaml.Place
import ExchangeClient.Yaml.Scalar

/-!
# Tags as they are written

A tag is written as a handle and a name, where the handle stands for a stem, or as a whole
between angle brackets.  Names are pieces of URIs: a character may be escaped by its octets,
which have to be those of one character.

The newer edition puts the octets of a character side by side instead of decoding them, so
that few characters beyond the first half of a byte can be written so.
-/

namespace ExchangeClient
namespace Yaml

/-- An octet that is written as an escape at the head of a text. -/
def octetAt : List Char → Option Nat
  | '%' :: digits => hexAt 2 digits
  | _ => none

/-- How many octets a character has whose first is given. -/
def octetCount? (lead : Nat) : Option Nat :=
  if lead < 0x80 then some 1
  else if 0xC0 ≤ lead && lead < 0xE0 then some 2
  else if 0xE0 ≤ lead && lead < 0xF0 then some 3
  else if 0xF0 ≤ lead && lead < 0xF8 then some 4
  else none

/-- A number of octets that continue a character, written as escapes. -/
def trailingOctets : (count : Nat) → List Char → Option (List Nat)
  | 0, _ => some []
  | count + 1, cs => do
    let octet ← octetAt cs
    if octet < 0x80 || 0xC0 ≤ octet then none
    else return octet :: (← trailingOctets count (cs.drop 3))

/-- The octets of a character, written as escapes. -/
def octetsAt (cs : List Char) : Option (List Nat) := do
  let lead ← octetAt cs
  let count ← octetCount? lead
  return lead :: (← trailingOctets (count - 1) (cs.drop 3))

/-- The character that octets stand for. -/
def charOfOctets? (e : Edition) (octets : List Nat) : Option Char :=
  match e with
  | .v11 => (Text.Utf8.decodeLossy (octets.map UInt8.ofNat)).head?
  | .v12 => charOfCode? (octets.foldl (fun code octet => 256 * code + octet) 0)

/-- A piece of a URI that goes on, and the place behind it. -/
def uriFrom (e : Edition) (allowed : Char → Bool) : (turns : Nat) → (back : List Char) → Place →
    Option (List Char × Place)
  | 0, _, _ => none
  | turns + 1, back, p =>
    match p.rest with
    | [] => some (back.reverse, p)
    | c :: _ =>
      if !allowed c then some (back.reverse, p)
      else if c = '%' then do
        let octets ← octetsAt p.rest
        uriFrom e allowed turns ((← charOfOctets? e octets) :: back) (p.skip (3 * octets.length))
      else uriFrom e allowed turns (c :: back) (p.skip 1)

/-- The piece of a URI at a place, and the place behind it. -/
def uriAt (e : Edition) (allowed : Char → Bool) (turns : Nat) (p : Place) :
    Option (List Char × Place) :=
  uriFrom e allowed turns [] p

/-- What may be the handle of a tag, and the place behind it. -/
def handleAt (p : Place) : Option (List Char × Place) :=
  if p.head? = some '!' then
    let (word, behind) := (p.skip 1).span isWordChar
    if behind.head? = some '!' then some ('!' :: word ++ ['!'], behind.skip 1)
    else some ('!' :: word, behind)
  else none

/-- A word that can only be a handle: it starts and ends with its sign. -/
def isHandle (word : List Char) : Bool :=
  2 ≤ word.length && word.head? == some '!' && word.getLast? == some '!'

/-- The handle that a line defines. -/
def definedHandleAt (p : Place) : Option (List Char × Place) := do
  let (word, behind) ← handleAt p
  if word = ['!'] || isHandle word then return (word, behind) else none

/-- A tag that starts with a handle: its handle, its name, and the place behind it.  What
only looks like a handle belongs to the name; a sign by itself is a name without handle. -/
def shorthandAt (e : Edition) (allowed : Char → Bool) (turns : Nat) (p : Place) :
    Option ((List Char × List Char) × Place) := do
  let (word, behind) ← handleAt p
  let (name, behind) ← uriAt e allowed turns behind
  if isHandle word then
    if name.isEmpty then none else return ((word, name), behind)
  else
    let name := word.drop 1 ++ name
    return (if name.isEmpty then ([], ['!']) else (['!'], name), behind)

/-- A tag that is written as a whole has no handle. -/
def verbatimAt (e : Edition) (allowed : Char → Bool) (turns : Nat) (p : Place) :
    Option ((List Char × List Char) × Place) := do
  let (name, behind) ← uriAt e allowed turns (p.skip 2)
  if behind.head? = some '>' then return (([], name), behind.skip 1) else none

/-- A number of at most nine digits, and the place behind it. -/
def versionNumberAt (p : Place) : Option (Nat × Place) :=
  let (digits, behind) := p.span Char.isDigit
  if digits.isEmpty || 9 < digits.length then none
  else some (digits.foldl (fun n c => 10 * n + (c.toNat - 48)) 0, behind)

/-- The two numbers of an edition, and the place behind them. -/
def versionAt (p : Place) : Option ((Nat × Nat) × Place) := do
  let (major, behind) ← versionNumberAt p
  if behind.head? = some '.' then
    let (minor, behind) ← versionNumberAt (behind.skip 1)
    return ((major, minor), behind)
  else none

end Yaml
end ExchangeClient

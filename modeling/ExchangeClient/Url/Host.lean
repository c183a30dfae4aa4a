import ExchangeClient.Text.Percent
import ExchangeClient.Text.Pieces
import ExchangeClient.Url.Domain
import ExchangeClient.Url.Error

/-!
# Hosts

A host is a name or a numeric address.  A name is read from escaped bytes and is
brought to ASCII.  A name whose last label is a number is an address of four bytes,
which may be written with fewer than four numbers and in base eight or sixteen.
Addresses of sixteen bytes stand in brackets and are written with their longest run of
zeros left out.

Schemes that are not registered with the standard take the host as it stands.
-/

namespace ExchangeClient

/-- A host. -/
inductive Host where
  /-- A name, or no host at all if it is empty. -/
  | name (text : List Char)
  | address4 (bytes : Nat)
  | address6 (pieces : List Nat)
  deriving Repr, DecidableEq

namespace Host

/-! ## Addresses of four bytes -/

/-- A number in an address, in base eight, ten or sixteen. -/
def numeral? (cs : List Char) : Option Nat :=
  let value (base : Nat) (digits : List Char) : Option Nat :=
    digits.foldl (fun acc c => acc.bind fun n =>
      match Text.hexValue? c with
      | some d => if d < base then some (n * base + d) else none
      | none => none) (some 0)
  match cs with
  | [] => none
  | '0' :: 'x' :: digits | '0' :: 'X' :: digits => value 16 digits
  | '0' :: d :: digits => value 8 (d :: digits)
  | digits => value 10 digits

/-- Whether the last label of a name is a number. -/
def endsInNumber (cs : List Char) : Bool :=
  let labels := (Text.pieces '.' cs).reverse
  let isNumber (label : List Char) : Bool :=
    (!label.isEmpty && label.all Char.isDigit) || (numeral? label).isSome
  match labels with
  | [] :: label :: _ => isNumber label
  | [] :: [] => false
  | label :: _ => isNumber label
  | [] => false

/-- The address that a name ending in a number stands for. -/
def address4? (cs : List Char) : Option Nat :=
  let labels := Text.pieces '.' cs
  let labels := if labels.getLast? = some [] then labels.dropLast else labels
  if 4 < labels.length then none
  else
    match labels.mapM numeral? with
    | none => none
    | some numbers =>
      match numbers.reverse with
      | [] => none
      | last :: front =>
        let front := front.reverse
        if Nat.pow 256 (4 - front.length) ≤ last then none
        else if front.any (255 < ·) then none
        else
          some (last + ((List.range front.length).zip front).foldl
            (fun sum (i, n) => sum + n * Nat.pow 256 (3 - i)) 0)

/-- The written form of an address of four bytes. -/
def text4 (n : Nat) : List Char :=
  let byte (i : Nat) : List Char := Nat.toDigits 10 (n / Nat.pow 256 i % 256)
  byte 3 ++ '.' :: byte 2 ++ '.' :: byte 1 ++ '.' :: byte 0

/-! ## Addresses of sixteen bytes -/

/-- The pieces read so far, and where the left-out zeros belong. -/
structure Pieces where
  before : List Nat
  gap : Option Nat

/-- The last two pieces, written as four decimal bytes. -/
def dotted? (cs : List Char) : Option (Nat × Nat) :=
  let byte? (part : List Char) : Option Nat :=
    match part with
    | [] => none
    | ['0'] => some 0
    | '0' :: _ => none
    | digits =>
      if digits.all Char.isDigit && digits.length ≤ 3 then
        let n := digits.foldl (fun n c => n * 10 + (c.toNat - 48)) 0
        if n ≤ 255 then some n else none
      else none
  match (Text.pieces '.' cs).mapM byte? with
  | some [a, b, c, d] => some (a * 256 + b, c * 256 + d)
  | _ => none

/-- Reads pieces to the end.  `turns` bounds their count. -/
def readPieces : (turns : Nat) → Pieces → List Char → Option Pieces
  | _, p, [] => some p
  | 0, _, _ :: _ => none
  | turns + 1, p, c :: rest =>
    if p.before.length = 8 then none
    else if c = ':' then
      if p.gap.isSome then none
      else readPieces turns ⟨p.before ++ [0], some (p.before.length + 1)⟩ rest
    else
      let digits := ((c :: rest).take 4).takeWhile fun c => (Text.hexValue? c).isSome
      let value := digits.foldl (fun n c => n * 16 + (Text.hexValue? c).getD 0) 0
      let piece : Pieces := ⟨p.before ++ [value], p.gap⟩
      match (c :: rest).drop digits.length with
      | [] => some piece
      | [':'] => none
      | ':' :: after => readPieces turns piece after
      | '.' :: _ =>
        if digits.isEmpty || 6 < p.before.length then none
        else
          match dotted? (c :: rest) with
          | some (hi, lo) => some ⟨p.before ++ [hi, lo], p.gap⟩
          | none => none
      | _ => none

/-- The eight pieces of an address between brackets. -/
def address6? (cs : List Char) : Option (List Nat) :=
  let start : Option (Pieces × List Char) :=
    match cs with
    | ':' :: ':' :: rest => some (⟨[0], some 1⟩, rest)
    | ':' :: _ => none
    | cs => some (⟨[], none⟩, cs)
  match start with
  | none => none
  | some (p, rest) =>
    match readPieces (rest.length + 1) p rest with
    | none => none
    | some p =>
      match p.gap with
      | some gap =>
        some (p.before.take gap ++ List.replicate (8 - p.before.length) 0 ++ p.before.drop gap)
      | none => if p.before.length = 8 then some p.before else none

/-- How many zeros a list starts with. -/
def zeroRun (pieces : List Nat) : Nat :=
  (pieces.takeWhile (· == 0)).length

/-- Where the longest run of at least two zeros starts, and its length. -/
def longestZeros (pieces : List Nat) : Option (Nat × Nat) :=
  (List.range pieces.length).foldl
    (fun best i =>
      let n := zeroRun (pieces.drop i)
      if 2 ≤ n && best.all (fun b => b.2 < n) then some (i, n) else best)
    none

/-- The written form of an address of sixteen bytes, without brackets. -/
def text6 (pieces : List Nat) : List Char :=
  match longestZeros pieces with
  | none => Text.joinPieces ':' (pieces.map Text.hexNumber)
  | some (i, n) =>
    Text.joinPieces ':' ((pieces.take i).map Text.hexNumber) ++
      ':' :: ':' :: Text.joinPieces ':' ((pieces.drop (i + n)).map Text.hexNumber)

/-! ## Reading and writing -/

/-- The address between brackets. -/
def ofBracketed (rest : List Char) : Except UrlError Host :=
  if rest.getLast? = some ']' then
    match address6? rest.dropLast with
    | some pieces => .ok (.address6 pieces)
    | none => .error .invalidAddress6
  else .error .invalidAddress6

/-- The host of an address with a registered scheme. -/
def ofChars (cs : List Char) : Except UrlError Host :=
  match cs with
  | '[' :: rest => ofBracketed rest
  | cs =>
    match Domain.ofBytes? (Text.percentDecode cs) with
    | none => .error .invalidDomain
    | some domain =>
      if domain.isEmpty then .error .emptyHost
      else if endsInNumber domain then
        match address4? domain with
        | some n => .ok (.address4 n)
        | none => .error .invalidAddress4
      else .ok (.name domain)

/-- Controls and everything outside ASCII. -/
def isControl (c : Char) : Bool :=
  c.toNat < 0x20 || 0x7F ≤ c.toNat

/-- The host of an address with any other scheme. -/
def ofCharsVerbatim (cs : List Char) : Except UrlError Host :=
  match cs with
  | '[' :: rest => ofBracketed rest
  | cs =>
    if cs.any Domain.isForbidden then .error .invalidDomainCharacter
    else .ok (.name (Text.percentEncode isControl cs))

/-- The written form of a host. -/
def text : Host → List Char
  | .name cs => cs
  | .address4 n => text4 n
  | .address6 pieces => '[' :: text6 pieces ++ [']']

/-- Whether there is no host. -/
def isEmpty : Host → Bool
  | .name cs => cs.isEmpty
  | _ => false

end Host
end ExchangeClient

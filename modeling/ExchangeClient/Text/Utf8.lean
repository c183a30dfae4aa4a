/-!
# Bytes as text

Bodies, key files and binary frames arrive as bytes.  Two readings are needed.
The strict one (`decode`) refuses the first ill-formed sequence and says where it
stands and how long it is; the lenient one (`decodeLossy`) puts the replacement
character in its place and goes on.

## What counts as one ill-formed sequence

The longest run of bytes that could still begin a well-formed sequence, or a
single byte if none could.  Both readings share the function `scan`, which says
of the first bytes of a text whether they are a character, an ill-formed sequence
of one to three bytes, or a sequence cut off by the end.
-/

namespace ExchangeClient
namespace Text
namespace Utf8

/-- What stands at the head of a byte sequence.  Widths count bytes. -/
inductive Head where
  | char (c : Char) (width : Nat)
  | malformed (width : Nat)
  | truncated
  deriving Repr, DecidableEq

/-- A byte that continues a sequence. -/
def isContinuation (b : UInt8) : Bool :=
  0x80 ≤ b && b ≤ 0xBF

/-- The six low bits of a continuation byte. -/
def low (b : UInt8) : Nat :=
  b.toNat % 64

/-- Whether `b` may stand second after the lead byte `lead`.  The narrow cases
keep out overlong forms, surrogates and code points past the last plane. -/
def isSecond (lead b : UInt8) : Bool :=
  if lead == 0xE0 then 0xA0 ≤ b && b ≤ 0xBF
  else if lead == 0xED then 0x80 ≤ b && b ≤ 0x9F
  else if lead == 0xF0 then 0x90 ≤ b && b ≤ 0xBF
  else if lead == 0xF4 then 0x80 ≤ b && b ≤ 0x8F
  else isContinuation b

/-- Reads the head of `lead :: rest`. -/
def scan (lead : UInt8) (rest : List UInt8) : Head :=
  if lead < 0x80 then .char (Char.ofNat lead.toNat) 1
  else if 0xC2 ≤ lead && lead ≤ 0xDF then
    match rest with
    | [] => .truncated
    | b :: _ =>
      if isContinuation b then .char (Char.ofNat (lead.toNat % 32 * 64 + low b)) 2
      else .malformed 1
  else if 0xE0 ≤ lead && lead ≤ 0xEF then
    match rest with
    | [] => .truncated
    | b :: rest =>
      if isSecond lead b then
        match rest with
        | [] => .truncated
        | c :: _ =>
          if isContinuation c then
            .char (Char.ofNat (lead.toNat % 16 * 4096 + low b * 64 + low c)) 3
          else .malformed 2
      else .malformed 1
  else if 0xF0 ≤ lead && lead ≤ 0xF4 then
    match rest with
    | [] => .truncated
    | b :: rest =>
      if isSecond lead b then
        match rest with
        | [] => .truncated
        | c :: rest =>
          if isContinuation c then
            match rest with
            | [] => .truncated
            | d :: _ =>
              if isContinuation d then
                .char (Char.ofNat
                  (lead.toNat % 8 * 262144 + low b * 4096 + low c * 64 + low d)) 4
              else .malformed 3
          else .malformed 2
      else .malformed 1
  else .malformed 1

/-- The first ill-formed sequence of a byte string: where it stands, and its width
unless the end cut it off. -/
structure Malformed where
  index : Nat
  width : Option Nat
  deriving Repr, DecidableEq

/-- The wording of an ill-formed sequence. -/
def Malformed.message (e : Malformed) : String :=
  match e.width with
  | some w => s!"invalid utf-8 sequence of {w} bytes from index {e.index}"
  | none => s!"incomplete utf-8 byte sequence from index {e.index}"

/-- Strict reading from a byte that stands at `index`. -/
def decodeFrom (index : Nat) : List UInt8 → Except Malformed (List Char)
  | [] => .ok []
  | lead :: rest =>
    match scan lead rest with
    | .char c w => (decodeFrom (index + w) (rest.drop (w - 1))).map (c :: ·)
    | .malformed w => .error ⟨index, some w⟩
    | .truncated => .error ⟨index, none⟩
termination_by bytes => bytes.length
decreasing_by simp only [List.length_drop, List.length_cons]; omega

/-- The characters of a well-formed byte string. -/
def decode (bytes : List UInt8) : Except Malformed (List Char) :=
  decodeFrom 0 bytes

/-- The character that stands for an ill-formed sequence. -/
def replacement : Char := Char.ofNat 0xFFFD

/-- Lenient reading: every ill-formed sequence becomes one `replacement`. -/
def decodeLossy : List UInt8 → List Char
  | [] => []
  | lead :: rest =>
    match scan lead rest with
    | .char c w => c :: decodeLossy (rest.drop (w - 1))
    | .malformed w => replacement :: decodeLossy (rest.drop (w - 1))
    | .truncated => [replacement]
termination_by bytes => bytes.length
decreasing_by all_goals simp only [List.length_drop, List.length_cons]; omega

/-- The bytes of a text. -/
def encode (cs : List Char) : List UInt8 :=
  cs.flatMap String.utf8EncodeChar

@[simp] theorem encode_nil : encode [] = [] := rfl

@[simp] theorem encode_cons (c : Char) (cs : List Char) :
    encode (c :: cs) = String.utf8EncodeChar c ++ encode cs := rfl

@[simp] theorem encode_append (cs ds : List Char) :
    encode (cs ++ ds) = encode cs ++ encode ds := by
  simp [encode]

end Utf8
end Text
end ExchangeClient

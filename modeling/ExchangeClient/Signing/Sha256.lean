/-!
# SHA-256

The hash of a byte string: the bytes are padded to blocks of sixty-four and each
block is mixed into eight words by sixty-four rounds.
-/

namespace ExchangeClient
namespace Sha256

/-- The eight words that blocks are mixed into. -/
structure State where
  a : UInt32
  b : UInt32
  c : UInt32
  d : UInt32
  e : UInt32
  f : UInt32
  g : UInt32
  h : UInt32
  deriving DecidableEq

/-- The words before the first block. -/
def start : State :=
  ⟨0x6a09e667, 0xbb67ae85, 0x3c6ef372, 0xa54ff53a, 0x510e527f, 0x9b05688c, 0x1f83d9ab, 0x5be0cd19⟩

/-- The constant of each round. -/
def constants : List UInt32 :=
  [0x428a2f98, 0x71374491, 0xb5c0fbcf, 0xe9b5dba5, 0x3956c25b, 0x59f111f1, 0x923f82a4, 0xab1c5ed5,
   0xd807aa98, 0x12835b01, 0x243185be, 0x550c7dc3, 0x72be5d74, 0x80deb1fe, 0x9bdc06a7, 0xc19bf174,
   0xe49b69c1, 0xefbe4786, 0x0fc19dc6, 0x240ca1cc, 0x2de92c6f, 0x4a7484aa, 0x5cb0a9dc, 0x76f988da,
   0x983e5152, 0xa831c66d, 0xb00327c8, 0xbf597fc7, 0xc6e00bf3, 0xd5a79147, 0x06ca6351, 0x14292967,
   0x27b70a85, 0x2e1b2138, 0x4d2c6dfc, 0x53380d13, 0x650a7354, 0x766a0abb, 0x81c2c92e, 0x92722c85,
   0xa2bfe8a1, 0xa81a664b, 0xc24b8b70, 0xc76c51a3, 0xd192e819, 0xd6990624, 0xf40e3585, 0x106aa070,
   0x19a4c116, 0x1e376c08, 0x2748774c, 0x34b0bcb5, 0x391c0cb3, 0x4ed8aa4a, 0x5b9cca4f, 0x682e6ff3,
   0x748f82ee, 0x78a5636f, 0x84c87814, 0x8cc70208, 0x90befffa, 0xa4506ceb, 0xbef9a3f7, 0xc67178f2]

/-- A word turned to the right. -/
def rotate (x : UInt32) (n : UInt32) : UInt32 :=
  (x >>> n) ||| (x <<< (32 - n))

/-- One round, with the word of the block and the constant added together. -/
def mix (s : State) (word : UInt32) : State :=
  let big1 := rotate s.e 6 ^^^ rotate s.e 11 ^^^ rotate s.e 25
  let choice := (s.e &&& s.f) ^^^ ((~~~ s.e) &&& s.g)
  let t1 := s.h + big1 + choice + word
  let big0 := rotate s.a 2 ^^^ rotate s.a 13 ^^^ rotate s.a 22
  let majority := (s.a &&& s.b) ^^^ (s.a &&& s.c) ^^^ (s.b &&& s.c)
  ⟨t1 + (big0 + majority), s.a, s.b, s.c, s.d + t1, s.e, s.f, s.g⟩

/-- The word that follows sixteen words of the schedule. -/
def nextWord (window : List UInt32) : UInt32 :=
  let at0 := window.getD 0 0
  let at1 := window.getD 1 0
  let at9 := window.getD 9 0
  let at14 := window.getD 14 0
  let small0 := rotate at1 7 ^^^ rotate at1 18 ^^^ (at1 >>> 3)
  let small1 := rotate at14 17 ^^^ rotate at14 19 ^^^ (at14 >>> 10)
  small1 + at9 + small0 + at0

/-- The words that follow sixteen words of the schedule. -/
def extend : Nat → List UInt32 → List UInt32
  | 0, _ => []
  | n + 1, window =>
    let word := nextWord window
    word :: extend n (window.tail ++ [word])

/-- Mixes a block of sixteen words into the state. -/
def mixBlock (s : State) (block : List UInt32) : State :=
  let words := block ++ extend 48 block
  let t := (words.zipWith (· + ·) constants).foldl mix s
  ⟨s.a + t.a, s.b + t.b, s.c + t.c, s.d + t.d, s.e + t.e, s.f + t.f, s.g + t.g, s.h + t.h⟩

/-- Four bytes a word, the first byte the greatest. -/
def wordsOfBytes : List UInt8 → List UInt32
  | a :: b :: c :: d :: rest =>
    ((a.toUInt32 <<< 24) ||| (b.toUInt32 <<< 16) ||| (c.toUInt32 <<< 8) ||| d.toUInt32)
      :: wordsOfBytes rest
  | _ => []

/-- The bytes of a word, the greatest first. -/
def bytesOfWord (w : UInt32) : List UInt8 :=
  [(w >>> 24).toUInt8, (w >>> 16).toUInt8, (w >>> 8).toUInt8, w.toUInt8]

/-- What is put behind a message of `n` bytes: a one bit, zeros up to the last eight
bytes of a block, and the length in bits. -/
def padding (n : Nat) : List UInt8 :=
  let zeros := (119 - n % 64) % 64
  let bits := n * 8
  0x80 :: List.replicate zeros 0 ++
    (List.range 8).map fun i => UInt8.ofNat (bits / Nat.pow 256 (7 - i))

/-- Mixes words in blocks of sixteen.  `blocks` bounds their count. -/
def mixAll : (blocks : Nat) → State → List UInt32 → State
  | 0, s, _ => s
  | blocks + 1, s, words =>
    match words with
    | [] => s
    | words => mixAll blocks (mixBlock s (words.take 16)) (words.drop 16)

/-- The hash of a byte string. -/
def digest (message : List UInt8) : List UInt8 :=
  let words := wordsOfBytes (message ++ padding message.length)
  let s := mixAll (words.length / 16) start words
  [s.a, s.b, s.c, s.d, s.e, s.f, s.g, s.h].flatMap bytesOfWord

/-! ## Keyed hash -/

/-- A key brought to the size of a block. -/
def blockKey (key : List UInt8) : List UInt8 :=
  let short := if 64 < key.length then digest key else key
  short ++ List.replicate (64 - short.length) 0

/-- The hash of a message under a key. -/
def keyed (key message : List UInt8) : List UInt8 :=
  let key := blockKey key
  digest (key.map (· ^^^ 0x5c) ++ digest (key.map (· ^^^ 0x36) ++ message))

end Sha256
end ExchangeClient

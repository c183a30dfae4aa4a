import ExchangeClient.Text.Hex
import ExchangeClient.Text.Utf8

/-!
# Percent escapes

In an address a character outside the set that its place allows is written byte by
byte, each byte as a percent sign and two upper-case hexadecimal digits.  Reading
takes digits of either case, and a percent sign that no two digits follow stands
for itself.
-/

namespace ExchangeClient
namespace Text

/-- The upper-case hexadecimal digit of a value below sixteen. -/
def hexDigitUpper (n : Nat) : Char :=
  if n < 10 then Char.ofNat (48 + n) else Char.ofNat (55 + n)

/-- A digit written is a digit read. -/
theorem hexValue?_hexDigitUpper {n : Nat} (h : n < 16) :
    hexValue? (hexDigitUpper n) = some n := by
  have : ∀ m : Fin 16, hexValue? (hexDigitUpper m.val) = some m.val := by decide
  exact this ⟨n, h⟩

/-- A byte as an escape. -/
def percentByte (b : UInt8) : List Char :=
  ['%', hexDigitUpper (b.toNat / 16), hexDigitUpper (b.toNat % 16)]

/-- The bytes of a character, each as an escape. -/
def percentChar (c : Char) : List Char :=
  (String.utf8EncodeChar c).flatMap percentByte

/-- A text in which the characters of a set are escaped. -/
def percentEncode (escaped : Char → Bool) (cs : List Char) : List Char :=
  cs.flatMap fun c => if escaped c then percentChar c else [c]

/-- The bytes that a text with escapes stands for. -/
def percentDecode : List Char → List UInt8
  | '%' :: a :: b :: rest =>
    match hexValue? a, hexValue? b with
    | some hi, some lo => UInt8.ofNat (16 * hi + lo) :: percentDecode rest
    | _, _ => 0x25 :: percentDecode (a :: b :: rest)
  | c :: rest => String.utf8EncodeChar c ++ percentDecode rest
  | [] => []

/-- An escaped byte is the byte read back. -/
@[simp] theorem percentDecode_percentByte (b : UInt8) (rest : List Char) :
    percentDecode (percentByte b ++ rest) = b :: percentDecode rest := by
  have hlt : b.toNat < 256 := b.toNat_lt
  have hb : UInt8.ofNat (16 * (b.toNat / 16) + b.toNat % 16) = b := by
    rw [Nat.div_add_mod]; exact UInt8.ofNat_toNat
  simp [percentByte, percentDecode, hexValue?_hexDigitUpper (show b.toNat / 16 < 16 by omega),
    hexValue?_hexDigitUpper (show b.toNat % 16 < 16 by omega), hb]

/-- Escaped bytes are the bytes read back. -/
@[simp] theorem percentDecode_flatMap (bytes : List UInt8) (rest : List Char) :
    percentDecode (bytes.flatMap percentByte ++ rest) = bytes ++ percentDecode rest := by
  induction bytes with
  | nil => rfl
  | cons b bytes ih =>
    rw [List.flatMap_cons, List.append_assoc, percentDecode_percentByte, ih, List.cons_append]

end Text
end ExchangeClient

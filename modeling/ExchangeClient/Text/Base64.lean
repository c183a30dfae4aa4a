/-!
# Base sixty-four

Credentials that stand in an address are sent in a header: three bytes are written as four of
sixty-four signs, and a group that is not full is filled up with equals signs.
-/

namespace ExchangeClient
namespace Text

/-- The sign of a value below sixty-four. -/
def base64Sign (n : Nat) : Char :=
  if n < 26 then Char.ofNat (65 + n)
  else if n < 52 then Char.ofNat (71 + n)
  else if n < 62 then Char.ofNat (n - 4)
  else if n = 62 then '+'
  else '/'

/-- Four signs for three bytes. -/
def base64 : List UInt8 → List Char
  | [] => []
  | [a] =>
    let n := 16 * a.toNat
    [base64Sign (n / 64), base64Sign (n % 64), '=', '=']
  | [a, b] =>
    let n := 4 * (256 * a.toNat + b.toNat)
    [base64Sign (n / 4096), base64Sign (n / 64 % 64), base64Sign (n % 64), '=']
  | a :: b :: c :: rest =>
    let n := 256 * (256 * a.toNat + b.toNat) + c.toNat
    base64Sign (n / 262144) :: base64Sign (n / 4096 % 64) :: base64Sign (n / 64 % 64)
      :: base64Sign (n % 64) :: base64 rest

/-- A letter, a digit or one of the three other signs. -/
def IsBase64 (c : Char) : Prop := c.isAlphanum = true ∨ c ∈ ['+', '/', '=']

theorem isBase64_base64Sign {n : Nat} (h : n < 64) : IsBase64 (base64Sign n) := by
  have hall : ∀ m : Fin 64,
      (base64Sign m.val).isAlphanum = true ∨ base64Sign m.val ∈ ['+', '/', '='] := by decide
  exact hall ⟨n, h⟩

theorem isBase64_of_mem_base64 {bytes : List UInt8} {c : Char} (h : c ∈ base64 bytes) :
    IsBase64 c := by
  have hpad : IsBase64 '=' := .inr (by decide)
  fun_induction base64 bytes with
  | case1 => cases h
  | case2 a n =>
    have ha : a.toNat < 256 := a.toNat_lt
    simp only [List.mem_cons, List.not_mem_nil, or_false] at h
    rcases h with rfl | rfl | rfl | rfl
    · exact isBase64_base64Sign (by omega)
    · exact isBase64_base64Sign (by omega)
    · exact hpad
    · exact hpad
  | case3 a b n =>
    have ha : a.toNat < 256 := a.toNat_lt
    have hb : b.toNat < 256 := b.toNat_lt
    simp only [List.mem_cons, List.not_mem_nil, or_false] at h
    rcases h with rfl | rfl | rfl | rfl
    · exact isBase64_base64Sign (by omega)
    · exact isBase64_base64Sign (by omega)
    · exact isBase64_base64Sign (by omega)
    · exact hpad
  | case4 a b c' rest n ih =>
    have ha : a.toNat < 256 := a.toNat_lt
    have hb : b.toNat < 256 := b.toNat_lt
    have hc : c'.toNat < 256 := c'.toNat_lt
    simp only [List.mem_cons] at h
    rcases h with rfl | rfl | rfl | rfl | h
    · exact isBase64_base64Sign (by omega)
    · exact isBase64_base64Sign (by omega)
    · exact isBase64_base64Sign (by omega)
    · exact isBase64_base64Sign (by omega)
    · exact ih h

end Text
end ExchangeClient

import ExchangeClient.Json.Reader

/-!
# JSON texts as trees

`Source` is the grammar of JSON as data: a tree for every value, with each string, number and
space as it is spelt, and `Source.chars` is what the tree spells.  A tree is well formed as it
stands, since its words carry what makes them words.  It says more than `Json`: a number may be
too large for any reader, an escape may name half of a surrogate pair, containers may be open to
any depth, and a key may be repeated.

A member of an object owns the space around it, so that members can be exchanged, added and
left out as wholes.  `Document` is a whole text: a value with the space around it.

## The words

`Quoted.text?` is the string that a quoted string spells.  It is missing exactly where half of a
surrogate pair stands without the other half; such a string is part of a text and stands for
nothing.
-/

namespace ExchangeClient
namespace Json

/-! ## Words -/

/-- White space, as much as there is. -/
abbrev Space := { cs : List Char // cs.all isSpace = true }

/-- No space. -/
def Space.none : Space := ⟨[], rfl⟩

/-- A character of a quoted string as it is spelt, or half of one. -/
inductive Glyph where
  /-- The character itself. -/
  | plain (c : Char) (h : c ≠ '"' ∧ c ≠ '\\' ∧ ¬c.toNat < 0x20)
  /-- A backslash and the letter for the character. -/
  | letter (e : Char) (h : (escaped? e).isSome = true)
  /-- The number of a character, or of half of a surrogate pair, in four digits. -/
  | code (h₁ h₂ h₃ h₄ : Char) (h : (hexFour? h₁ h₂ h₃ h₄).isSome = true)

/-- What a glyph spells. -/
def Glyph.chars : Glyph → List Char
  | .plain c _ => [c]
  | .letter e _ => ['\\', e]
  | .code h₁ h₂ h₃ h₄ _ => ['\\', 'u', h₁, h₂, h₃, h₄]

/-- A quoted string. -/
structure Quoted where
  glyphs : List Glyph

/-- The characters of a quoted string from behind its opening quote. -/
def Quoted.chars (q : Quoted) : List Char :=
  q.glyphs.flatMap Glyph.chars ++ ['"']

/-- The characters that glyphs stand for, unless half of a surrogate pair stands alone. -/
def Glyph.decode : List Glyph → Option (List Char)
  | [] => some []
  | .plain c _ :: gs => (decode gs).map (c :: ·)
  | .letter e h :: gs => (decode gs).map ((escaped? e).get h :: ·)
  | .code h₁ h₂ h₃ h₄ h :: gs =>
    let n := (hexFour? h₁ h₂ h₃ h₄).get h
    if isTrailing n then none
    else if !isLeading n then (decode gs).map (Char.ofNat n :: ·)
    else
      match gs with
      | .code l₁ l₂ l₃ l₄ h :: gs =>
        let m := (hexFour? l₁ l₂ l₃ l₄).get h
        if isTrailing m then (decode gs).map (pairChar n m :: ·) else none
      | _ => none

/-- The string that a quoted string stands for. -/
def Quoted.text? (q : Quoted) : Option String :=
  (Glyph.decode q.glyphs).map String.ofList

/-- Digits, at least one. -/
structure Digits where
  chars : List Char
  isDigit : chars.all Char.isDigit = true
  ne_nil : chars ≠ []

/-- The sign of an exponent. -/
inductive Sign where
  | none
  | plus
  | minus

/-- What a sign spells. -/
def Sign.chars : Sign → List Char
  | .none => []
  | .plus => ['+']
  | .minus => ['-']

/-- An exponent. -/
structure Exponent where
  mark : Char
  isMark : isExponentMark mark = true
  sign : Sign
  digits : Digits

/-- What an exponent spells. -/
def Exponent.chars (e : Exponent) : List Char :=
  e.mark :: (e.sign.chars ++ e.digits.chars)

/-- A number as it is spelt. -/
structure Numeral where
  negative : Bool
  whole : Digits
  noLeadingZero : ∀ c cs, whole.chars ≠ '0' :: c :: cs
  fraction : Option Digits
  exponent : Option Exponent

/-- What the exponent of a number spells, if it has one. -/
def Numeral.exponentChars (n : Numeral) : List Char :=
  match n.exponent with
  | some e => e.chars
  | none => []

/-- What follows the whole part of a number. -/
def Numeral.tail (n : Numeral) : List Char :=
  match n.fraction with
  | some digits => '.' :: (digits.chars ++ n.exponentChars)
  | none => n.exponentChars

/-- A number from behind its sign. -/
def Numeral.unsigned (n : Numeral) : List Char :=
  n.whole.chars ++ n.tail

/-- What a number spells. -/
def Numeral.chars (n : Numeral) : List Char :=
  (if n.negative then ['-'] else []) ++ n.unsigned

/-! ## Values -/

/-- Something with the space before it and behind it. -/
structure Padded (α : Type) where
  before : Space
  value : α
  after : Space

/-- A member of an object, with the space before it and behind it. -/
structure Member (α : Type) where
  before : Space
  key : Quoted
  beforeColon : Space
  value : Padded α

/-- A value as it is spelt.  The space that a container owns stands before its closing bracket. -/
inductive Source where
  | null
  | bool (b : Bool)
  | string (q : Quoted)
  | number (n : Numeral)
  | array (items : List (Padded Source)) (space : Space)
  | object (members : List (Member Source)) (space : Space)

/-- Words with commas between them.  `first` says that no word stands before them. -/
def listed : (first : Bool) → List (List Char) → List Char
  | _, [] => []
  | true, w :: ws => w ++ listed false ws
  | false, w :: ws => ',' :: (w ++ listed false ws)

mutual

/-- What a value spells. -/
def Source.chars : Source → List Char
  | .null => ['n', 'u', 'l', 'l']
  | .bool b => if b then ['t', 'r', 'u', 'e'] else ['f', 'a', 'l', 's', 'e']
  | .string q => '"' :: q.chars
  | .number n => n.chars
  | .array items space => '[' :: (listed Bool.true (itemWords items) ++ (space.val ++ [']']))
  | .object members space => '{' :: (listed Bool.true (memberWords members) ++ (space.val ++ ['}']))

/-- What the items of a list spell. -/
def Source.itemWords : List (Padded Source) → List (List Char)
  | [] => []
  | ⟨before, t, after⟩ :: items => (before.val ++ (t.chars ++ after.val)) :: itemWords items

/-- What the members of an object spell. -/
def Source.memberWords : List (Member Source) → List (List Char)
  | [] => []
  | ⟨before, key, beforeColon, ⟨behindColon, t, after⟩⟩ :: members =>
    (before.val ++ ('"' :: (key.chars ++ (beforeColon.val ++
      (':' :: (behindColon.val ++ (t.chars ++ after.val))))))) :: memberWords members

end

/-- What a value spells with the space around it. -/
def Padded.chars (p : Padded Source) : List Char :=
  p.before.val ++ (p.value.chars ++ p.after.val)

/-- What a member spells from behind the opening quote of its key. -/
def Member.tail (m : Member Source) : List Char :=
  m.key.chars ++ (m.beforeColon.val ++ (':' :: m.value.chars))

/-- What a member spells with the space around it. -/
def Member.chars (m : Member Source) : List Char :=
  m.before.val ++ ('"' :: m.tail)

namespace Source

theorem itemWords_eq_map (items : List (Padded Source)) :
    itemWords items = items.map Padded.chars := by
  induction items with
  | nil => rfl
  | cons x items ih =>
    rw [itemWords, ih]
    rfl

theorem memberWords_eq_map (members : List (Member Source)) :
    memberWords members = members.map Member.chars := by
  induction members with
  | nil => rfl
  | cons m members ih =>
    rw [memberWords, ih]
    rfl

theorem chars_array (items : List (Padded Source)) (space : Space) :
    (array items space).chars =
      '[' :: (listed Bool.true (items.map Padded.chars) ++ (space.val ++ [']'])) := by
  rw [chars, itemWords_eq_map]

theorem chars_object (members : List (Member Source)) (space : Space) :
    (object members space).chars =
      '{' :: (listed Bool.true (members.map Member.chars) ++ (space.val ++ ['}'])) := by
  rw [chars, memberWords_eq_map]

/-- What holds of words, and of a container once it holds of the values in it, holds of every
value. -/
theorem induct {P : Source → Prop} (null : P .null) (bool : ∀ b, P (.bool b))
    (string : ∀ q, P (.string q)) (number : ∀ n, P (.number n))
    (array : ∀ items space, (∀ x ∈ items, P x.value) → P (.array items space))
    (object : ∀ members space, (∀ m ∈ members, P m.value.value) → P (.object members space))
    (t : Source) : P t :=
  @Source.rec P (fun items => ∀ x ∈ items, P x.value)
    (fun members => ∀ m ∈ members, P m.value.value)
    (fun x => P x.value) (fun m => P m.value.value) null bool string number array object
    (List.forall_mem_nil _) (fun _ _ hx hitems => List.forall_mem_cons.mpr ⟨hx, hitems⟩)
    (List.forall_mem_nil _) (fun _ _ hm hmembers => List.forall_mem_cons.mpr ⟨hm, hmembers⟩)
    (fun _ _ _ h => h) (fun _ _ _ _ h => h) t

end Source

/-- A whole text. -/
abbrev Document := Padded Source

/-- The text of a document. -/
def Document.text (doc : Document) : String :=
  String.ofList doc.chars

end Json
end ExchangeClient

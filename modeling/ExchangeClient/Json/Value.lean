/-!
# JSON values

A number is a whole number of at most sixty-four bits or a double: the two are
told apart by how they are written, and only the first decodes as a whole number.
An object is a list of members.  What `Json.Reader` produces has its members in
ascending order of their keys, each key once; what the encoder produces has them
in the order of the fields.
-/

namespace ExchangeClient

/-- A JSON number. -/
inductive Json.Number where
  | whole (n : Int)
  | double (x : Float)
  deriving Repr, Inhabited

/-- A JSON value. -/
inductive Json where
  | null
  | bool (b : Bool)
  | number (n : Json.Number)
  | string (s : String)
  | array (items : List Json)
  | object (members : List (String × Json))
  deriving Repr, Inhabited

namespace Json

/-- A whole number as a value. -/
def ofInt (n : Int) : Json := .number (.whole n)

/-- The value of a member, if an object has it. -/
def get? (key : String) : Json → Option Json
  | .object members => members.lookup key
  | _ => none

/-- Adds a member to a list in ascending order of keys; a member with the same key
is replaced. -/
def insertMember {α : Type} (key : String) (value : α) :
    List (String × α) → List (String × α)
  | [] => [(key, value)]
  | (k, v) :: rest =>
    if key < k then (key, value) :: (k, v) :: rest
    else if key = k then (key, value) :: rest
    else (k, v) :: insertMember key value rest

/-- Members gathered one by one: ascending, and of members with one key the last. -/
def sortMembers {α : Type} (members : List (String × α)) : List (String × α) :=
  members.foldl (fun acc m => insertMember m.1 m.2 acc) []

@[simp] theorem lookup_insertMember_self {α : Type} (key : String) (value : α)
    (members : List (String × α)) :
    (insertMember key value members).lookup key = some value := by
  induction members with
  | nil => simp [insertMember]
  | cons m rest ih =>
    obtain ⟨k, v⟩ := m
    unfold insertMember
    split
    · simp
    · split
      · simp
      · rename_i _ hne
        have : (key == k) = false := by simpa using hne
        simp [List.lookup_cons, this, ih]

theorem lookup_insertMember_of_ne {α : Type} {key other : String} (h : other ≠ key) (value : α)
    (members : List (String × α)) :
    (insertMember key value members).lookup other = members.lookup other := by
  have hb : (other == key) = false := by simpa using h
  induction members with
  | nil => simp [insertMember, List.lookup_cons, hb]
  | cons m rest ih =>
    obtain ⟨k, v⟩ := m
    unfold insertMember
    split
    · simp [List.lookup_cons, hb]
    · split
      · rename_i _ he
        subst he
        simp [List.lookup_cons, hb]
      · simp [List.lookup_cons, ih]

end Json
end ExchangeClient

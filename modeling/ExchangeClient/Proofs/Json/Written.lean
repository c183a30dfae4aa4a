import ExchangeClient.Json.Reader

/-!
# Values as they are written

A value that has been read has its members in order and each key once, and a text is passed
over without being read at all.  Both lose what a decoder that goes through the text member
by member gets to see.  `readWritten` loses nothing: it keeps the members of an object in
the order of the text, repeated keys included, so what every other reader makes of a text
can be said in terms of the value as it is written.

The reader of values is tied to it here: reading is sorting the members of what is written,
`readValue_eq_mapped` and `ofText_eq_map_sorted`.  The two are one reader that differs in
how a member joins those before it, so the proof follows the loops and looks at a single turn.
-/

namespace ExchangeClient
namespace Json

/-- Adds a member behind those that an object has so far. -/
def appendMember (key : String) (value : Json) (members : List (String × Json)) :
    List (String × Json) :=
  members ++ [(key, value)]

/-- Reads any value as it is written: the members of an object in the order of the text,
and a key as often as it stands there. -/
def readWritten (depth : Nat) : Reader Json :=
  readGathering appendMember depth

/-- The value of a text as it is written. -/
def writtenOfText (text : String) : Except DecodeError Json :=
  finish (readWritten maxDepth text.toList)

mutual

/-- The value with the members of its objects in ascending order, each key once: of
members with one key the last stands. -/
def sorted : Json → Json
  | .null => .null
  | .bool b => .bool b
  | .number n => .number n
  | .string s => .string s
  | .array items => .array (sortedItems items)
  | .object members => .object (sortMembers (sortedMembers members))

/-- The items of a list, sorted inside. -/
def sortedItems : List Json → List Json
  | [] => []
  | x :: xs => x.sorted :: sortedItems xs

/-- The members of an object in their order, sorted inside. -/
def sortedMembers : List (String × Json) → List (String × Json)
  | [] => []
  | (k, v) :: rest => (k, v.sorted) :: sortedMembers rest

end

theorem sortedItems_eq_map (items : List Json) : sortedItems items = items.map sorted := by
  induction items with
  | nil => rfl
  | cons x xs ih => rw [sortedItems, ih, List.map_cons]

theorem sortedMembers_append (ms ns : List (String × Json)) :
    sortedMembers (ms ++ ns) = sortedMembers ms ++ sortedMembers ns := by
  induction ms with
  | nil => rfl
  | cons m ms ih =>
    obtain ⟨k, v⟩ := m
    rw [List.cons_append, sortedMembers, ih, sortedMembers, List.cons_append]

theorem sortMembers_append_singleton {α : Type} (ms : List (String × α)) (k : String) (v : α) :
    sortMembers (ms ++ [(k, v)]) = insertMember k v (sortMembers ms) := by
  rw [sortMembers, List.foldl_append]
  rfl

/-! ## Reading is sorting what is written -/

/-- A reader with what it reads changed. -/
def mapped {α β : Type} (f : α → β) (read : Reader α) : Reader β := fun cs =>
  (fun p => (f p.1, p.2)) <$> read cs

theorem mapped_apply {α β : Type} (f : α → β) (read : Reader α) (cs : Input) :
    mapped f read cs = (fun p => (f p.1, p.2)) <$> read cs := rfl

/-- Changing each item changes the list. -/
theorem readItems_mapped {α β : Type} (f : α → β) (item : Reader α) (turns : Nat) (first : Bool)
    (cs : Input) :
    readItems (mapped f item) turns first cs =
      mapped (List.map f) (readItems item turns first) cs := by
  induction turns generalizing first cs with
  | zero => rfl
  | succ turns ih =>
    have hitem (cs' : Input) :
        readItem (mapped f item) (readItems (mapped f item) turns false) cs' =
          mapped (List.map f) (readItem item (readItems item turns false)) cs' := by
      simp [readItem, mapped, ih]
    rw [mapped_apply]
    unfold readItems
    cases skipSpace cs with
    | nil => rfl
    | cons c rest =>
      dsimp only
      split
      · rfl
      · split
        · exact hitem (c :: rest)
        · split
          · exact hitem rest
          · rfl

/-- A state that is carried along changes with what is read into it. -/
theorem readMembers_mapped {σ τ : Type} (g : σ → τ) {member : String → σ → Reader σ}
    {member' : String → τ → Reader τ}
    (hmember : ∀ key state, member' key (g state) = mapped g (member key state))
    (turns : Nat) (first : Bool) (state : σ) (cs : Input) :
    readMembers member' turns first (g state) cs =
      mapped g (readMembers member turns first state) cs := by
  induction turns generalizing first state cs with
  | zero => rfl
  | succ turns ih =>
    have hturn (cs' : Input) :
        readMember member' (readMembers member' turns false) (g state) cs' =
          mapped g (readMember member (readMembers member turns false) state) cs' := by
      simp [readMember, hmember, mapped, ih]
    rw [mapped_apply]
    unfold readMembers
    cases skipSpace cs with
    | nil => rfl
    | cons c rest =>
      dsimp only
      split
      · rfl
      · split
        · split
          · exact hturn rest
          · rfl
        · split
          · cases skipSpace rest with
            | nil => rfl
            | cons q rest' =>
              dsimp only
              split
              · exact hturn rest'
              · rfl
          · rfl

/-- What an object is read as that is written with some members. -/
def gathered (members : List (String × Json)) : List (String × Json) :=
  sortMembers (sortedMembers members)

theorem readInto_mapped (item : Reader Json) (key : String) (members : List (String × Json)) :
    readInto insertMember (mapped sorted item) key (gathered members) =
      mapped gathered (readInto appendMember item key members) := by
  funext cs
  simp [readInto, mapped, appendMember, gathered, sortedMembers_append, sortedMembers,
    sortMembers_append_singleton]

theorem readWith_mapped (nested : Option (Reader Json)) (cs : Input) :
    readWith insertMember (nested.map (mapped sorted)) cs =
      mapped sorted (readWith appendMember nested) cs := by
  rw [mapped_apply]
  unfold readWith
  cases skipSpace cs with
  | nil => rfl
  | cons c rest =>
    dsimp only
    split
    · cases expectWord ['u', 'l', 'l'] rest <;> rfl
    split
    · cases expectWord ['r', 'u', 'e'] rest <;> rfl
    split
    · cases expectWord ['a', 'l', 's', 'e'] rest <;> rfl
    split
    · cases readString rest <;> rfl
    split
    · cases readNumber (c :: rest) <;> rfl
    split
    · cases nested with
      | none => rfl
      | some item =>
        have hlist : readList (mapped sorted item) rest =
            mapped (List.map sorted) (readList item) rest :=
          readItems_mapped sorted item _ _ rest
        simp only [Option.map, hlist, mapped_apply]
        cases readList item rest with
        | error e => rfl
        | ok p =>
          exact congrArg (fun items => Except.ok (array items, p.2)) (sortedItems_eq_map p.1).symm
    split
    · cases nested with
      | none => rfl
      | some item =>
        have hobject : readObject (readInto insertMember (mapped sorted item)) [] rest =
            mapped gathered (readObject (readInto appendMember item) []) rest :=
          readMembers_mapped gathered (readInto_mapped item) _ _ [] rest
        simp only [Option.map, hobject, mapped_apply]
        cases readObject (readInto appendMember item) [] rest <;> rfl
    · rfl

/-- A value is read as what is written with its members sorted. -/
theorem readValue_eq_mapped (depth : Nat) :
    readValue depth = mapped sorted (readWritten depth) := by
  induction depth with
  | zero => exact funext (readWith_mapped none)
  | succ depth ih =>
    funext cs
    have hvalue : readValue (depth + 1) cs =
        readWith insertMember (some (readValue depth)) cs := rfl
    rw [hvalue, ih]
    exact readWith_mapped (some (readWritten depth)) cs

/-- The value of a text is what is written with its members sorted; in particular a text has
a value exactly if it can be read as it is written. -/
theorem ofText_eq_map_sorted (text : String) :
    ofText text = (writtenOfText text).map sorted := by
  rw [ofText, readValue_eq_mapped, writtenOfText, mapped_apply]
  cases readWritten maxDepth text.toList with
  | error e => rfl
  | ok p =>
    show (if (skipSpace p.2).isEmpty then _ else _) =
      Except.map sorted (if (skipSpace p.2).isEmpty then _ else _)
    split <;> rfl

end Json
end ExchangeClient

import ExchangeClient.Double.Decimal

/-!
# Values of settings

The settings of a file and of an environment are trees of values.  A tree is laid over
another value by value: each value has a name, and a name writes a path, such as
`streams[0].merge`, to where the value belongs.  What stands in the way of a path gives way.
-/

namespace ExchangeClient

/-- A value of a layer. -/
inductive Setting where
  | nothing
  | flag (b : Bool)
  | whole (n : Int)
  | double (x : Float)
  | text (s : String)
  | list (items : List Setting)
  | table (entries : List (String × Setting))
  deriving Inhabited

namespace Setting

/-! ## Numbers -/

/-- The whole number of sixty-four bits that a word writes. -/
def whole? (cs : List Char) : Option Int :=
  let (negative, digits) :=
    match cs with
    | '-' :: digits => (true, digits)
    | '+' :: digits => (false, digits)
    | digits => (false, digits)
  if digits.isEmpty || !digits.all Char.isDigit then none
  else
    let size : Int := Double.digitsValue digits
    let n := if negative then -size else size
    if -0x8000000000000000 ≤ n && n < 0x8000000000000000 then some n else none

/-! ## Overlays -/

/-- The value of a key, or nothing. -/
def entry (key : String) (entries : List (String × Setting)) : Setting :=
  (entries.lookup key).getD .nothing

/-- Entries with one replaced or added. -/
def replaceEntry (key : String) (value : Setting) :
    List (String × Setting) → List (String × Setting)
  | [] => [(key, value)]
  | (k, v) :: rest =>
    if k = key then (k, value) :: rest else (k, v) :: replaceEntry key value rest

/-- A replaced entry has its new value. -/
@[simp] theorem entry_replaceEntry_self (key : String) (value : Setting)
    (entries : List (String × Setting)) :
    entry key (replaceEntry key value entries) = value := by
  unfold entry
  induction entries with
  | nil => simp [replaceEntry]
  | cons e rest ih =>
    obtain ⟨k, v⟩ := e
    by_cases h : k = key
    · simp [replaceEntry, h]
    · have hne : (key == k) = false := by simpa using fun hk => h hk.symm
      simpa [replaceEntry, h, List.lookup_cons, hne] using ih

/-- No other entry changes. -/
theorem entry_replaceEntry_of_ne {key other : String} (h : other ≠ key) (value : Setting)
    (entries : List (String × Setting)) :
    entry other (replaceEntry key value entries) = entry other entries := by
  unfold entry
  have hne : (other == key) = false := by simpa using h
  induction entries with
  | nil => simp [replaceEntry, List.lookup_cons, hne]
  | cons e rest ih =>
    obtain ⟨k, v⟩ := e
    by_cases hk : k = key
    · subst hk
      simp [replaceEntry, List.lookup_cons, hne]
    · by_cases ho : other = k
      · subst ho
        simp [replaceEntry, hk]
      · have hno : (other == k) = false := by simpa using ho
        simpa [replaceEntry, hk, List.lookup_cons, hno] using ih

/-- The entries of a table; anything else has none. -/
def entriesOf : Setting → List (String × Setting)
  | .table entries => entries
  | _ => []

/-- The items of a list; anything else has none. -/
def itemsOf : Setting → List Setting
  | .list items => items
  | _ => []

mutual

/-- A value laid over another: a table is merged into what stands there, and anything else
takes its place. -/
def merge (old : Setting) : Setting → Setting
  | .table inner => .table (mergeEntries (entriesOf old) inner)
  | value => value

/-- Entries with others laid over them. -/
def mergeEntries (entries : List (String × Setting)) :
    List (String × Setting) → List (String × Setting)
  | [] => entries
  | (key, value) :: rest =>
    mergeEntries (replaceEntry key (merge (entry key entries) value) entries) rest

end

/-- A step of a path: to a key of a table, or to a place of a list, which may be counted from
its end. -/
inductive Step where
  | key (name : String)
  | index (n : Int)
  deriving Repr, DecidableEq

/-- Items among which there is one at a place, and where that is.  A list too short grows by
nothings, at its start if the place is counted from the end. -/
def reach (items : List Setting) (n : Int) : List Setting × Nat :=
  if 0 ≤ n then (items ++ List.replicate (n.toNat + 1 - items.length) .nothing, n.toNat)
  else
    (List.replicate (n.natAbs - items.length) .nothing ++ items, items.length - n.natAbs)

/-- There is an item at the place that was reached. -/
theorem reach_lt_length (items : List Setting) (n : Int) :
    (reach items n).2 < (reach items n).1.length := by
  unfold reach
  split
  · simp only [List.length_append, List.length_replicate]
    omega
  · simp only [List.length_append, List.length_replicate]
    omega

/-- A value with another laid over what stands at a path below it. -/
def layAt (value : Setting) : List Step → Setting → Setting
  | [], old => merge old value
  | .key name :: path, old =>
    let entries := entriesOf old
    .table (replaceEntry name (layAt value path (entry name entries)) entries)
  | .index n :: path, old =>
    let (items, i) := reach (itemsOf old) n
    .list (items.set i (layAt value path (items.getD i .nothing)))

/-- A character of a key in a path. -/
def isStepChar (c : Char) : Bool := c.isAlphanum || c == '_' || c == '-'

/-- The place of a list that is written between brackets, with blanks around it. -/
def placeOf? (cs : List Char) : Option Int :=
  let isBlank (c : Char) : Bool := c == ' ' || c == '\t'
  let word := ((cs.dropWhile isBlank).reverse.dropWhile isBlank).reverse
  if word.head? = some '+' then none else whole? word

/-- The steps that the rest of a name writes, behind its first key. -/
def stepsFrom : (turns : Nat) → List Char → Option (List Step)
  | 0, _ => none
  | turns + 1, cs =>
    match cs with
    | [] => some []
    | '.' :: rest =>
      let name := rest.takeWhile isStepChar
      if name.isEmpty then none
      else (stepsFrom turns (rest.drop name.length)).map (.key (String.ofList name) :: ·)
    | '[' :: rest =>
      let inside := rest.takeWhile (· != ']')
      match placeOf? inside, rest.drop inside.length with
      | some n, ']' :: rest => (stepsFrom turns rest).map (.index n :: ·)
      | _, _ => none
    | _ => none

/-- The path that a name writes; a name that writes none is a single key. -/
def pathOf (name : String) : List Step :=
  let cs := name.toList
  let first := cs.takeWhile isStepChar
  match stepsFrom (cs.length + 1) (cs.drop first.length) with
  | some steps => if first.isEmpty then [.key name] else .key (String.ofList first) :: steps
  | none => [.key name]

/-- Values laid one after the other over what stands at their paths. -/
def overlay (base : Setting) (values : List (String × Setting)) : Setting :=
  values.foldl (fun base (name, value) => layAt value (pathOf name) base) base

end Setting
end ExchangeClient

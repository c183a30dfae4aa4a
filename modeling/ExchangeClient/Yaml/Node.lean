/-!
# YAML documents

A document is a tree of scalars, sequences and mappings.  A scalar keeps the text it
was written with, how it was quoted and what tag it carries; what the text means is
decided by whoever reads the tree.

A node may be named.  Names are numbered, and an alias keeps the number of the node it
stands for: it may stand inside the node itself, so it cannot be replaced by a copy.
-/

namespace ExchangeClient
namespace Yaml

/-- How a scalar is written. -/
inductive Style where
  | plain
  | quoted
  /-- A block whose line breaks stand. -/
  | literal
  /-- A block whose lines are joined. -/
  | folded
  deriving Repr, DecidableEq

/-- The tag of a scalar: a stem that its handle stands for, and a name. -/
structure Tag where
  stem : String
  name : String
  deriving Repr, DecidableEq

namespace Tag

/-- The stem of the tags of the standard. -/
def coreStem : String := "tag:yaml.org,2002:"

/-- The whole tag. -/
def full (tag : Tag) : String := tag.stem ++ tag.name

end Tag

/-- A node of a document, with its number if it is named. -/
inductive Node where
  | scalar (number : Option Nat) (style : Style) (tag : Option Tag) (text : String)
  | sequence (number : Option Nat) (items : List Node)
  | mapping (number : Option Nat) (entries : List (Node × Node))
  /-- The node with a number. -/
  | alias (number : Nat)
  deriving Repr, Inhabited

namespace Node

/-- A node under its number. -/
def under (number : Option Nat) (node : Node) : List (Nat × Node) :=
  number.toList.map fun n => (n, node)

mutual

/-- The named nodes of a tree, in the order in which they start. -/
def named : Node → List (Nat × Node)
  | .scalar number style tag text => under number (.scalar number style tag text)
  | .sequence number items => under number (.sequence number items) ++ namedItems items
  | .mapping number entries => under number (.mapping number entries) ++ namedEntries entries
  | .alias _ => []

/-- The named nodes of the items of a sequence. -/
def namedItems : List Node → List (Nat × Node)
  | [] => []
  | item :: rest => named item ++ namedItems rest

/-- The named nodes of the entries of a mapping. -/
def namedEntries : List (Node × Node) → List (Nat × Node)
  | [] => []
  | (key, value) :: rest => named key ++ named value ++ namedEntries rest

end

/-- The node that a node stands for.  Of two nodes with one number the later counts. -/
def resolve (names : List (Nat × Node)) : Node → Node
  | .alias number => (names.reverse.lookup number).getD (.alias number)
  | node => node

end Node

/-- Words that write nothing. -/
def isNullWord (s : String) : Bool :=
  ["null", "Null", "NULL", "~"].contains s

end Yaml
end ExchangeClient

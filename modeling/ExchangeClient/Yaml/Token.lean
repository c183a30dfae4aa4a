import ExchangeClient.Yaml.Node

/-!
# The tokens of a YAML text

Brackets, dashes and colons are tokens as they stand; the collections of blocks, which
only their indentation marks, are bracketed by tokens as well.  So what stands between
two tokens no longer matters, and the tree can be read off the tokens alone.
-/

namespace ExchangeClient
namespace Yaml

/-- A token. -/
inductive Token where
  /-- The edition that a text says it is written in. -/
  | version (major minor : Nat)
  /-- What a handle of tags stands for. -/
  | handle (handle stem : String)
  | documentStart
  | documentEnd
  /-- The start of a sequence of a block; it ends with `blockEnd`. -/
  | blockSequence
  /-- The start of a mapping of a block; it ends with `blockEnd`. -/
  | blockMapping
  | blockEnd
  | flowSequence
  | flowSequenceEnd
  | flowMapping
  | flowMappingEnd
  /-- A comma. -/
  | comma
  /-- The dash of an item. -/
  | item
  /-- A key follows. -/
  | key
  /-- A value follows. -/
  | value
  | anchor (name : String)
  | alias (name : String)
  | tag (handle name : String)
  | scalar (style : Style) (text : String)
  deriving Repr, DecidableEq

/-- A line that tells how a document is to be read. -/
def Token.isDirective : Token → Bool
  | .version .. | .handle .. => true
  | _ => false

end Yaml
end ExchangeClient

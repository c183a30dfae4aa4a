import ExchangeClient.Yaml.Lexer11
import ExchangeClient.Yaml.Lexer12
import ExchangeClient.Yaml.Tree

/-!
# Reading YAML

A text is read in two passes: a lexer finds its tokens, and these are read as trees, one
for each document.  A text that is malformed anywhere is read as nothing at all.
-/

namespace ExchangeClient
namespace Yaml

/-- The tokens of a text. -/
def tokens? (e : Edition) (text : List Char) : Option (List Token) :=
  match e with
  | .v11 => tokens11? text
  | .v12 => tokens12? text

/-- The documents that a text writes; `none` if it is malformed. -/
def documents? (e : Edition) (text : List Char) : Option (List Node) :=
  (tokens? e text).bind (documentsOf? e)

/-- Whether there is at most one document, and if so which. -/
def single? (e : Edition) (text : List Char) : Option (Option Node) :=
  match documents? e text with
  | some [] => some none
  | some [node] => some (some node)
  | _ => none

end Yaml
end ExchangeClient

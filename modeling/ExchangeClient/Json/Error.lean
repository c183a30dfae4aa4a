import ExchangeClient.Text.Quoted
import ExchangeClient.Double.Text

/-!
# Why a JSON text does not decode

A text may end too early, may be malformed, or may be well formed and say
something else than the type at hand allows.  Only the last kind carries a cause,
and `Mismatch.message` is the one place that words it.
-/

namespace ExchangeClient
namespace Json

/-- What was found where something else was expected. -/
inductive Found where
  | bool (b : Bool)
  | whole (n : Int)
  | double (x : Float)
  | string (s : String)
  | null
  | sequence
  | map
  deriving Repr

/-- The wording of what was found. -/
def Found.text : Found → String
  | .bool b => s!"boolean `{b}`"
  | .whole n => s!"integer `{n}`"
  | .double x => "floating point `" ++ Double.toText x ++ "`"
  | .string s => "string " ++ Text.quoted s
  | .null => "null"
  | .sequence => "sequence"
  | .map => "map"

/-- Why a well-formed value does not suit a type. -/
inductive Mismatch where
  /-- A value of another kind. -/
  | kind (got : Found) (expected : String)
  /-- A value of the right kind outside its range. -/
  | range (got : Found) (expected : String)
  /-- A list of the wrong length. -/
  | length (n : Nat) (expected : String)
  | missingField (name : String)
  | duplicateField (name : String)
  | unknownVariant (name : String) (known : List String)
  deriving Repr

/-- The wording of a choice between names. -/
def oneOf : List String → String
  | [] => "there are no variants"
  | [a] => s!"expected `{a}`"
  | [a, b] => s!"expected `{a}` or `{b}`"
  | names => "expected one of " ++ ", ".intercalate (names.map fun n => s!"`{n}`")

/-- The wording of a mismatch. -/
def Mismatch.message : Mismatch → String
  | .kind got expected => "invalid type: " ++ got.text ++ ", expected " ++ expected
  | .range got expected => "invalid value: " ++ got.text ++ ", expected " ++ expected
  | .length n expected => s!"invalid length {n}, expected " ++ expected
  | .missingField name => s!"missing field `{name}`"
  | .duplicateField name => s!"duplicate field `{name}`"
  | .unknownVariant name known => s!"unknown variant `{name}`, " ++ oneOf known

/-- Why a text does not decode. -/
inductive DecodeError where
  /-- The text is malformed. -/
  | malformed
  /-- The text ends too early. -/
  | truncated
  /-- The text is well formed but does not suit the type. -/
  | mismatch (cause : Mismatch)
  deriving Repr

end Json
end ExchangeClient

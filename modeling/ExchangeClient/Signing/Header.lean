import ExchangeClient.Text.Utf8

/-!
# Headers

What a header may be called and what it may hold.  A name is a token of the
protocol and is compared in lower case.  A value holds any byte but the controls,
the tab excepted.
-/

namespace ExchangeClient
namespace Header

/-- A character that a name may contain. -/
def isNameChar (c : Char) : Bool :=
  c.isAlphanum || "!#$%&'*+-.^_`|~".toList.contains c

/-- Whether a text can name a header. -/
def isName (name : String) : Bool :=
  let cs := name.toList
  !cs.isEmpty && cs.all isNameChar

/-- A character that a value may contain. -/
def isValueChar (c : Char) : Bool :=
  c == '\t' || (0x20 ≤ c.toNat && c.toNat ≠ 0x7F)

/-- Whether a text can be the value of a header. -/
def isValue (value : String) : Bool :=
  value.toList.all isValueChar

/-- The form under which names are compared. -/
def canonical (name : String) : String :=
  String.ofList (name.toList.map Char.toLower)

end Header
end ExchangeClient

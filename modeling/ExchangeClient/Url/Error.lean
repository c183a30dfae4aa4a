/-!
# Why an address is no URL
-/

namespace ExchangeClient

/-- Why an address is no URL. -/
inductive UrlError where
  | relativeWithoutBase
  /-- A path cannot be joined to an address that has no path of its own. -/
  | relativeToPathless
  | emptyHost
  | invalidPort
  | invalidAddress6
  | invalidAddress4
  | invalidDomain
  | invalidDomainCharacter
  deriving Repr, DecidableEq

/-- The wording of a fault. -/
def UrlError.message : UrlError → String
  | .relativeWithoutBase => "relative URL without a base"
  | .relativeToPathless => "relative URL with a cannot-be-a-base base"
  | .emptyHost => "empty host"
  | .invalidPort => "invalid port number"
  | .invalidAddress6 => "invalid IPv6 address"
  | .invalidAddress4 => "invalid IPv4 address"
  | .invalidDomain => "invalid international domain name"
  | .invalidDomainCharacter => "invalid domain character"

end ExchangeClient

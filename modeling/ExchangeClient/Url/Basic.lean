import ExchangeClient.Url.Host

/-!
# URLs

A URL in its normal form, as the standard for the web reads and writes it: a
scheme, perhaps an authority, a path, and perhaps a query and a fragment, each with
its escapes in place.  `Url.text` writes the normal form.

The path of most URLs is a list of segments.  The path of a URL such as a mail
address is one piece of text, and no other path can be joined to it.
-/

namespace ExchangeClient

/-- Where a URL points to, before its path. -/
structure Authority where
  username : List Char
  password : List Char
  host : Host
  /-- A port other than the scheme's own. -/
  port : Option Nat
  deriving Repr, DecidableEq

/-- The path of a URL. -/
inductive UrlPath where
  | whole (text : List Char)
  | segments (items : List (List Char))
  deriving Repr, DecidableEq

/-- A URL in its normal form. -/
structure Url where
  scheme : List Char
  authority : Option Authority
  path : UrlPath
  query : Option (List Char)
  fragment : Option (List Char)
  deriving Repr, DecidableEq

/-- The schemes that the standard has rules of its own for. -/
inductive SchemeClass where
  | special
  | file
  | other
  deriving Repr, DecidableEq

/-- The class of a scheme. -/
def SchemeClass.ofScheme (scheme : List Char) : SchemeClass :=
  let name := String.ofList scheme
  if ["http", "https", "ws", "wss", "ftp"].contains name then .special
  else if name = "file" then .file
  else .other

/-- Whether a scheme has rules of its own. -/
def SchemeClass.isSpecial : SchemeClass → Bool
  | .other => false
  | _ => true

/-- The port that a scheme uses when none is given. -/
def defaultPort? (scheme : List Char) : Option Nat :=
  match String.ofList scheme with
  | "http" | "ws" => some 80
  | "https" | "wss" => some 443
  | "ftp" => some 21
  | _ => none

namespace Authority

/-- The credentials of an authority, with their sign. -/
def credentials (a : Authority) : List Char :=
  if a.username.isEmpty && a.password.isEmpty then []
  else a.username ++ (if a.password.isEmpty then [] else ':' :: a.password) ++ ['@']

/-- The written form of an authority. -/
def text (a : Authority) : List Char :=
  a.credentials ++ a.host.text ++
    match a.port with
    | some p => ':' :: Nat.toDigits 10 p
    | none => []

end Authority

/-- The written form of a path. -/
def UrlPath.text : UrlPath → List Char
  | .whole cs => cs
  | .segments items => items.flatMap ('/' :: ·)

namespace Url

/-- The written form of a URL.  A path that starts with an empty segment would read
as an authority, so without one it gets a dot in front. -/
def chars (u : Url) : List Char :=
  let authority :=
    match u.authority with
    | some a => '/' :: '/' :: a.text
    | none =>
      match u.path with
      | .segments ([] :: _ :: _) => ['/', '.']
      | _ => []
  let query :=
    match u.query with
    | some q => '?' :: q
    | none => []
  let fragment :=
    match u.fragment with
    | some f => '#' :: f
    | none => []
  u.scheme ++ ':' :: authority ++ u.path.text ++ query ++ fragment

/-- The written form of a URL. -/
def text (u : Url) : String := String.ofList u.chars

/-- What a request for a URL asks its server for: the path, and the query if there
is one. -/
def target (u : Url) : List Char :=
  u.path.text ++
    match u.query with
    | some q => '?' :: q
    | none => []

/-- Whether a URL names a host. -/
def hasHost (u : Url) : Bool := u.authority.any fun a => !a.host.isEmpty

/-- A URL with a query in place of its own; an empty one is left out. -/
def withQuery (u : Url) (query : List Char) : Url :=
  { u with query := if query.isEmpty then none else some query }

end Url
end ExchangeClient

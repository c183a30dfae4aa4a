import ExchangeClient.Error
import ExchangeClient.Signing.Header
import ExchangeClient.Text.Base64
import ExchangeClient.Url.Form
import ExchangeClient.Url.Read

/-!
# Requests and replies

What goes out on the network and what comes back.

A reply may send its request on: some statuses say that what is asked for is elsewhere, and
the header `Location` says where.  The request is then made again there
(`HttpRequest.sentOn?`), with the headers that it had.  Only what is meant for one server is
left out, the credentials of an address before another server and the header of a body behind
the body.
-/

namespace ExchangeClient

/-! ## What an address says -/

/-- The user and the password that stand in an address, as they are sent.  A password that is
no text counts as none; nothing is sent for a user that is no text. -/
def Authority.login? (a : Authority) : Option (List Char) :=
  match Text.Utf8.decode (Text.percentDecode a.username) with
  | .error _ => none
  | .ok user =>
    let password :=
      match Text.Utf8.decode (Text.percentDecode a.password) with
      | .ok password => password
      | .error _ => []
    if user.isEmpty && password.isEmpty then none else some (user ++ ':' :: password)

namespace Url

/-- Whether requests can be made for the scheme of a URL. -/
def isWeb (u : Url) : Bool := u.scheme == "http".toList || u.scheme == "https".toList

/-- A URL without its user and password. -/
def anonymous (u : Url) : Url :=
  { u with authority := u.authority.map fun a => { a with username := [], password := [] } }

/-- Whether two URLs lead to one port of one host. -/
def isSameServer (u v : Url) : Bool :=
  let port (u : Url) : Option Nat :=
    match u.authority.bind (·.port) with
    | some port => some port
    | none => defaultPort? u.scheme
  u.authority.map (·.host) = v.authority.map (·.host) && port u = port v

/-- What a server learns of the address that sent a request on to it; nothing, where that was
better protected. -/
def referer? (previous next : Url) : Option String :=
  if previous.scheme = "https".toList && next.scheme = "http".toList then none
  else some { previous.anonymous with fragment := none }.text

end Url

/-! ## Requests -/

/-- The method of a request. -/
inductive HttpMethod where
  | get
  | post
  deriving Repr, DecidableEq

/-- The name of a method. -/
def HttpMethod.name : HttpMethod → String
  | .get => "GET"
  | .post => "POST"

/-- A request as it goes out. -/
structure HttpRequest where
  method : HttpMethod
  url : Url
  headers : List (String × String)
  /-- The JSON text of the body, if there is one. -/
  body : Option String
  deriving DecidableEq

namespace HttpRequest

/-- What the request asks its server for. -/
def target (r : HttpRequest) : List Char := r.url.target

/-- The bytes of the body. -/
def bodyBytes (r : HttpRequest) : List UInt8 :=
  match r.body with
  | some text => Text.Utf8.encode text.toList
  | none => []

/-- The request for a URL.  The user and the password in it are sent in a header instead. -/
def ofUrl (method : HttpMethod) (url : Url) : HttpRequest :=
  match url.authority.bind Authority.login? with
  | some login =>
    let value := "Basic " ++ String.ofList (Text.base64 (Text.Utf8.encode login))
    ⟨method, url.anonymous, [("authorization", value)], none⟩
  | none => ⟨method, url, [], none⟩

/-- The request with a body, if there is one. -/
def withJson (body : Option String) (r : HttpRequest) : HttpRequest :=
  match body with
  | some text =>
    { r with headers := r.headers ++ [("content-type", "application/json")], body := some text }
  | none => r

/-- The request without the headers of some names, which are in lower case. -/
def without (names : List String) (r : HttpRequest) : HttpRequest :=
  { r with headers := r.headers.filter fun header => !names.contains (Header.canonical header.1) }

/-- The headers that say something about a body. -/
def bodyHeaders : List String :=
  ["transfer-encoding", "content-encoding", "content-type", "content-length"]

/-- The headers that are meant for one server. -/
def serverHeaders : List String :=
  ["authorization", "cookie", "cookie2", "proxy-authorization", "www-authenticate"]

/-- The request that a status asks for elsewhere: after one of the first three a look at what
is there, without the body, and after one of the last two the same request. -/
def again? (r : HttpRequest) (status : Nat) : Option HttpRequest :=
  if [301, 302, 303].contains status then
    some { r.without bodyHeaders with method := .get, body := none }
  else if [307, 308].contains status then some r
  else none

/-- The request with a header in place of all others of its name, which is in lower case. -/
def withHeader (name value : String) (r : HttpRequest) : HttpRequest :=
  { r with headers := (r.without [name]).headers ++ [(name, value)] }

/-- The request, made of another URL. -/
def sentTo (url : Url) (r : HttpRequest) : HttpRequest :=
  let kept := if r.url.isSameServer url then r else r.without serverHeaders
  let told :=
    match r.url.referer? url with
    | some value => kept.withHeader "referer" value
    | none => kept
  { told with url }

end HttpRequest

/-! ## Replies -/

/-- A reply as the server sends it. -/
structure HttpReply where
  status : Nat
  body : List UInt8
  /-- Where the header `Location` leads from the URL of the request, if it leads anywhere. -/
  location : Option Url
  deriving DecidableEq

/-- The body that arrives: replies of two statuses have none. -/
def HttpReply.receivedBody (r : HttpReply) : List UInt8 :=
  if r.status = 204 || r.status = 304 then [] else r.body

/-- The request that a reply sends on, if it sends it on. -/
def HttpRequest.sentOn? (r : HttpRequest) (reply : HttpReply) : Option HttpRequest :=
  match r.again? reply.status, reply.location with
  | some again, some url => some (again.sentTo url)
  | _, _ => none

/-! ## Queries -/

/-- The pairs that members of an object are sent as in a query.  Only texts and whole
numbers are. -/
def queryPairs : List (String × Json) → List (String × String)
  | [] => []
  | (key, .string s) :: rest => (key, s) :: queryPairs rest
  | (key, .number n) :: rest => (key, String.ofList n.chars) :: queryPairs rest
  | _ :: rest => queryPairs rest

end ExchangeClient

import ExchangeClient.Rest.Call
import ExchangeClient.Signing.Credentials

/-!
# The client

A client knows where the exchange is and may hold a key.  A call becomes a request
(`Client.prepare`), the network answers it or not, and the reply becomes an answer
(`Call.accept`).  A private call is signed on the way: without a key, or with a
key that cannot stand in a header, no request comes to be.

The signature covers the method, the target and the body of the request that the call
becomes, because it is computed from that request.  It is not computed again when a reply
sends the request on.
-/

namespace ExchangeClient

/-- How long a client waits and how many connections it keeps. -/
structure ClientConfig where
  timeout : Duration
  connectTimeout : Duration
  idleTimeout : Duration
  idlePerHost : Nat
  deriving Repr, DecidableEq

/-- The usual waits. -/
def ClientConfig.usual : ClientConfig :=
  ⟨.ofSecs 30, .ofSecs 10, .ofSecs 180, 100⟩

/-- A client of the exchange. -/
structure Client where
  baseUrl : Url
  key : Option ApiKey
  deriving DecidableEq

namespace Client

/-- Where the exchange is. -/
def usualBase : String := "https://api.bitflyer.jp"

/-- A client without a key. -/
def ofBase (address : String) : Except ClientError Client :=
  match Url.ofText address with
  | .ok url => .ok ⟨url, none⟩
  | .error fault => .error (.url fault)

/-- The client with a key. -/
def withKey (c : Client) (key : ApiKey) : Client := { c with key := some key }

/-- Whether private calls can be made. -/
def isAuthenticated (c : Client) : Bool := c.key.isSome

/-- The shown form, which leaves the key out. -/
def shown (c : Client) : String :=
  "BitflyerClient \x7b base_url: " ++ Text.quoted c.baseUrl.text ++ ", authenticated: "
    ++ toString c.isAuthenticated ++ " \x7d"

/-- The request of a call before it is signed.  Nothing can be sent to a URL that names no
host. -/
def unsigned (c : Client) (call : Call) : Except ClientError HttpRequest :=
  match c.baseUrl.join call.path.toList with
  | .error fault => .error (.url fault)
  | .ok url =>
    if url.hasHost then
      .ok (.withJson call.body (.ofUrl call.method (url.withQuery (Form.encode call.query))))
    else .error .http

/-- The first of some headers whose value cannot be sent. -/
def firstBadHeader? (headers : List (String × String)) : Option String :=
  (headers.find? fun (_, value) => !Header.isValue value).map (·.1)

/-- The request with the headers of its signature. -/
def sign (key : ApiKey) (timestamp : String) (r : HttpRequest) :
    Except ClientError HttpRequest :=
  let headers := key.headers timestamp.toList r.method.name.toList r.target r.bodyBytes
  match firstBadHeader? headers with
  | some name => .error (.config (.signingHeader name))
  | none => .ok { r with headers := r.headers ++ headers }

/-- The request of a call. -/
def prepare (c : Client) (timestamp : String) (call : Call) : Except ClientError HttpRequest := do
  let r ← c.unsigned call
  if call.isPrivate then
    match c.key with
    | none => .error (.config .noKey)
    | some key => sign key timestamp r
  else .ok r

end Client

/-- The values of a shape, or nothing. -/
@[reducible] def AnswerOf : Option Shape → Type
  | none => Unit
  | some s => s.Value

/-- The value that a body writes. -/
def readAnswer : (s : Option Shape) → List UInt8 → Except Json.DecodeError (AnswerOf s)
  | none, _ => .ok ()
  | some s, body =>
    match Text.Utf8.decode body with
    | .ok cs => s.ofText (String.ofList cs)
    | .error _ => .error .malformed

/-- A value as it is written; nothing is null. -/
def writeAnswer : (s : Option Shape) → AnswerOf s → Json
  | none, _ => .null
  | some s, v => s.encode v

/-- What a call is answered with. -/
@[reducible] def Call.Answer (call : Call) : Type := AnswerOf call.answerShape

/-- The answer in a reply; where no reply is left to read, there is none. -/
def Call.accept (call : Call) : Option HttpReply → Except ClientError call.Answer
  | none => .error .http
  | some reply =>
    if reply.status = 200 then
      match readAnswer call.answerShape reply.receivedBody with
      | .ok v => .ok v
      | .error e => .error (.json e)
    else
      .error (.api reply.status (String.ofList (Text.Utf8.decodeLossy reply.receivedBody)))

end ExchangeClient

import ExchangeClient.Error
import ExchangeClient.Signing.Sha256
import ExchangeClient.Text.Blank
import ExchangeClient.Text.Hex
import ExchangeClient.Text.Pieces
import ExchangeClient.Text.Quoted
import ExchangeClient.Text.Utf8

/-!
# Credentials

A private call is signed with a key and a secret.  The signature is the keyed hash
of what the call sends: time, method, target and body, one after the other.

The pair is kept in a file that no one but its owner may read or write: the key on
the first line, the secret on the second, blanks around them ignored.
-/

namespace ExchangeClient

/-- The key of an account and its secret. -/
structure ApiKey where
  key : String
  secret : String
  deriving DecidableEq

namespace ApiKey

/-- What is signed. -/
def signedBytes (timestamp method target : List Char) (body : List UInt8) : List UInt8 :=
  Text.Utf8.encode timestamp ++ Text.Utf8.encode method ++ Text.Utf8.encode target ++ body

/-- The signature of a call. -/
def sign (k : ApiKey) (timestamp method target : List Char) (body : List UInt8) : String :=
  String.ofList <| Text.hexOfBytes <|
    Sha256.keyed (Text.Utf8.encode k.secret.toList) (signedBytes timestamp method target body)

/-- The headers of a signed call. -/
def headers (k : ApiKey) (timestamp method target : List Char) (body : List UInt8) :
    List (String × String) :=
  [("ACCESS-KEY", k.key),
   ("ACCESS-TIMESTAMP", String.ofList timestamp),
   ("ACCESS-SIGN", k.sign timestamp method target body)]

/-- The shown form, which leaves the secret out. -/
def shown (k : ApiKey) : String :=
  "ApiKeyAuthenticator \x7b api_key: " ++ Text.quoted k.key
    ++ ", api_secret: \"<redacted>\" \x7d"

end ApiKey

/-- What stands at the path of a key file.  A mode is the nine bits of permission and
whatever the system keeps above them. -/
inductive KeyFile where
  | missing
  | directory (mode : Nat)
  | file (mode : Nat) (content : List UInt8)
  deriving Repr, DecidableEq

namespace KeyFile

/-- Only the owner may read and write. -/
def isPrivate (mode : Nat) : Bool :=
  mode % 0o1000 == 0o600

/-- The pair in the text of a key file. -/
def ofText (cs : List Char) : Except KeyFileFault ApiKey :=
  match (Text.lines cs).map Text.trimBlank with
  | key :: secret :: _ =>
    if key.isEmpty || secret.isEmpty then .error .incomplete
    else .ok ⟨String.ofList key, String.ofList secret⟩
  | _ => .error .incomplete

/-- The pair in a key file. -/
def load : KeyFile → Except KeyFileFault ApiKey
  | .missing => .error .missing
  | .directory mode =>
    if isPrivate mode then .error .directory else .error (.insecure (mode % 0o1000))
  | .file mode content =>
    if isPrivate mode then
      match Text.Utf8.decode content with
      | .ok cs => ofText cs
      | .error _ => .error .notText
    else .error (.insecure (mode % 0o1000))

end KeyFile

/-- The pair in the key file at `path`. -/
def ApiKey.load (path : String) (file : KeyFile) : Except ClientError ApiKey :=
  match file.load with
  | .ok k => .ok k
  | .error fault => .error (.config (.keyFile path fault))

end ExchangeClient

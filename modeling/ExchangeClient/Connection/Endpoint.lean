import ExchangeClient.Error
import ExchangeClient.Url.Read

/-!
# Endpoints

Where a real-time connection goes and what is sent along with its handshake.  An
address is checked when a stream is started, before anything is dialled.  The
headers are checked at every dial, in order, the name of each before its value.
-/

namespace ExchangeClient
namespace Endpoint

/-- The URL of an address; the fault names the address as it was given. -/
def ofAddress (address : String) : Except ClientError Url :=
  match Url.ofText address with
  | .error fault => .error (.invalidAddress address (.url fault))
  | .ok url =>
    if url.scheme = "ws".toList || url.scheme = "wss".toList then .ok url
    else .error (.invalidAddress address (.scheme (String.ofList url.scheme)))

/-- One header among those before it: names are compared in lower case, and the last
value of a name stands. -/
def putHeader (headers : List (String × String)) (name value : String) :
    List (String × String) :=
  headers.filter (fun header => header.1 ≠ name) ++ [(name, value)]

/-- Checks the headers of a handshake after some that were already checked. -/
def checkHeaders (checked : List (String × String)) :
    List (String × String) → Except ClientError (List (String × String))
  | [] => .ok checked
  | (name, value) :: rest =>
    if !Header.isName name then .error (.config (.headerName name))
    else if !Header.isValue value then .error (.config (.headerValue name))
    else checkHeaders (putHeader checked (Header.canonical name) value) rest

/-- The headers of a handshake as they are sent. -/
def handshakeHeaders (headers : List (String × String)) :
    Except ClientError (List (String × String)) :=
  checkHeaders [] headers

/-- Whether all headers of a handshake can be written; only then is it sent. -/
def isWritable (headers : List (String × String)) : Bool :=
  headers.all fun (_, value) => value.toList.all fun c => c.toNat < 0x80

/-- A fault of a header is a fault of the configuration. -/
theorem isConfigError_of_checkHeaders {checked headers : List (String × String)}
    {e : ClientError} (h : checkHeaders checked headers = .error e) :
    e.isConfigError = true := by
  induction headers generalizing checked with
  | nil => simp [checkHeaders] at h
  | cons header rest ih =>
    obtain ⟨name, value⟩ := header
    unfold checkHeaders at h
    split at h
    · cases h; rfl
    · split at h
      · cases h; rfl
      · exact ih h

end Endpoint
end ExchangeClient

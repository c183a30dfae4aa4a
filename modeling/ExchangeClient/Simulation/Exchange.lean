import ExchangeClient.Connection.Endpoint
import ExchangeClient.Rest.Client
import ExchangeClient.Simulation.Link

/-!
# Simulated exchanges

An exchange that answers dials and requests from prepared lists.  It can be reached
or not: when the network has no way to it, every dial and every request is lost
before the exchange sees anything of it.

A request that is sent on is answered from the same list, whichever server it is sent on
to: `Exchange.requests` holds all that reaches anybody on account of a call.
-/

namespace ExchangeClient

/-- What an exchange does with a dial. -/
inductive DialReply where
  | accept
  /-- The connection is dropped before the handshake is answered. -/
  | drop
  /-- The handshake is answered with another status than success. -/
  | reject
  deriving Repr, DecidableEq

/-- A simulated exchange. -/
structure Exchange where
  /-- Whether the network has a way to the exchange. -/
  isReachable : Bool
  /-- Where the exchange listens for streams. -/
  address : Option Url
  /-- What is done with the next dials; all after them are accepted. -/
  dialReplies : List DialReply
  /-- What the next requests are answered with; all after them are lost. -/
  httpReplies : List (Option HttpReply)
  /-- The requests that were received, in order. -/
  requests : List HttpRequest

/-- What came of a dial. -/
structure DialEnd where
  outcome : Except ClientError Link
  /-- Whether the exchange saw the dial. -/
  isSeen : Bool
  exchange : Exchange

namespace Exchange

/-- An exchange to which the network has no way. -/
def unreachable : Exchange := ⟨false, none, [], [], []⟩

/-- Answers a dial that has reached the exchange. -/
def answerDial (ex : Exchange) : DialEnd :=
  let next := { ex with dialReplies := ex.dialReplies.tail }
  match ex.dialReplies.head? with
  | some .drop => ⟨.error (.webSocket .reset), true, next⟩
  | some .reject => ⟨.error (.webSocket (.rejected 403)), true, next⟩
  | some .accept | none => ⟨.ok .fresh, true, next⟩

/-- Dials the exchange.  The headers of the handshake are checked before anything else,
and written after the network has found the exchange. -/
def dial (ex : Exchange) (address : String) (headers : List (String × String)) : DialEnd :=
  match Endpoint.handshakeHeaders headers with
  | .error cause => ⟨.error cause, false, ex⟩
  | .ok headers =>
    match Endpoint.ofAddress address with
    | .error cause => ⟨.error cause, false, ex⟩
    | .ok url =>
      if !ex.isReachable then ⟨.error (.webSocket .unreachable), false, ex⟩
      else if ex.address ≠ some url then ⟨.error (.webSocket .refused), false, ex⟩
      else if !Endpoint.isWritable headers then ⟨.error (.webSocket .textEncoding), false, ex⟩
      else ex.answerDial

/-- Whether a request reaches the exchange. -/
def isReachedBy (ex : Exchange) (r : HttpRequest) : Bool := r.url.isWeb && ex.isReachable

/-- What a request is answered with. -/
def reply (ex : Exchange) (r : HttpRequest) : Option HttpReply :=
  if ex.isReachedBy r then ex.httpReplies.head?.join else none

/-- The exchange after a request. -/
def afterRequest (ex : Exchange) (r : HttpRequest) : Exchange :=
  if ex.isReachedBy r then
    { ex with requests := ex.requests ++ [r], httpReplies := ex.httpReplies.tail }
  else ex

/-- Makes a request and those that it is sent on as, and gives the last reply.  There is none
if that is lost, or if the request is sent on once more than is allowed. -/
def follow : (hops : Nat) → Exchange → HttpRequest → Option HttpReply × Exchange
  | hops, ex, r =>
    match (ex.reply r).bind r.sentOn?, hops with
    | none, _ => (ex.reply r, ex.afterRequest r)
    | some _, 0 => (none, ex.afterRequest r)
    | some onward, hops + 1 => follow hops (ex.afterRequest r) onward

/-- How many times a request is sent on at most. -/
def maxHops : Nat := 10

/-- Makes a call. -/
def ask (ex : Exchange) (client : Client) (timestamp : String) (call : Call) :
    Except ClientError call.Answer × Exchange :=
  match client.prepare timestamp call with
  | .error cause => (.error cause, ex)
  | .ok r =>
    let (reply, ex) := ex.follow maxHops r
    (call.accept reply, ex)

end Exchange
end ExchangeClient

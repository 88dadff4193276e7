import Dialogue.Call.Request
import Dialogue.Document.Json
import Dialogue.Http.Network

/-!
# Calls over a network

A call becomes a request with its query, its headers, its credentials and its body, in this order; a
call that reads has no body. A reply succeeds by its status, and its body is a document if it can be
read as one.
-/

namespace Dialogue

/-- A blank body is nothing, another one is a document or else a text. -/
def ActionReply.bodyOf (text : String) : Value :=
  if Text.trim text.toList = [] then .null
  else
    match Json.parse text with
    | .ok v => v
    | .error _ => .text text

/-- The status and the body of a reply, which has to be a success. -/
def HttpReply.content (r : HttpReply) : Except AttemptFault (Nat × Value) :=
  if r.isSuccess then .ok (r.status, ActionReply.bodyOf r.body) else .error (.status r.status r.body)

/-- Adds credentials to a request. -/
def HttpRequest.withCredentials (c : Credentials) (r : HttpRequest) :
    Except SendFault HttpRequest :=
  match c with
  | .bearer token header => r.withHeader (header.getD "authorization") (bearer token)
  | .apiKey key name .header => r.withHeader name key
  | .apiKey key name .query => .ok (r.withQuery [(name, key)])
  | .basic username password =>
    r.withHeader "authorization" (basic (Text.utf8 username.toList) (some (Text.utf8 password.toList)))

namespace ActionCall

/-- The request of a call. -/
def request (c : ActionCall) : Except SendFault HttpRequest := do
  let r ← HttpRequest.addressed c.method c.url
  let r ← (r.withQuery c.query).withHeaders c.headers
  let r ← match c.credentials with
    | none => .ok r
    | some credentials => r.withCredentials credentials
  match c.method, c.body with
  | .get, _ | _, none => r.ready
  | _, some body => (r.withBody body).ready

/-- A request that cannot be built is a mistake in the call; one that cannot be delivered is not. -/
def report : SendFault → AttemptFault
  | .undelivered address => .transport (SendFault.undelivered address).message
  | fault => .badRequest fault.message

/-- Makes a call over a network. -/
def send (c : ActionCall) (n : Network) : Except CallFault ActionReply × Network :=
  let (result, n) := n.exchange c.policy c.target c.request report HttpReply.content
  (result.map fun ((status, body), attempts) => ⟨status, body, attempts⟩, n)

end ActionCall

end Dialogue

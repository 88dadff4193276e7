import Dialogue.Call.Attempt
import Dialogue.Http.Request

/-!
# Networks

A network is known by what will become of the requests that are sent over it, one after the other. A
request may be sent in several attempts, each of which takes up one of these deliveries.
-/

namespace Dialogue

/-- The reply to a request. -/
structure HttpReply where
  status : Nat
  body : String
  deriving DecidableEq, Repr

namespace HttpReply

/-- Whether a request has succeeded. -/
def isSuccess (r : HttpReply) : Bool := decide (200 ≤ r.status ∧ r.status < 300)

end HttpReply

/-- What becomes of a request: it reaches nobody, the other side hangs up or keeps silent, or it is
answered. -/
inductive Delivery where
  | unreachable
  | dropped
  | silent
  | answered (reply : HttpReply)
  deriving DecidableEq, Repr

namespace Delivery

variable {α : Type}

/-- Whether the other side gets the request. -/
def arrives (d : Delivery) : Bool := d != unreachable

/-- The attempt to get a reply to a request. -/
def attempt (d : Delivery) (p : Policy) (r : HttpRequest) (report : SendFault → AttemptFault)
    (read : HttpReply → Except AttemptFault α) : Attempt α :=
  match d with
  | unreachable | dropped => ⟨⟨0⟩, .error (report (.undelivered r.address))⟩
  | silent => ⟨⟨p.timeout.nanoseconds + 1⟩, .error (report (.undelivered r.address))⟩
  | answered reply => ⟨⟨0⟩, read reply⟩

end Delivery

/-- What will become of requests, and the requests that have arrived, the last one first. Where no more
deliveries are known nobody is reached. -/
structure Network where
  deliveries : List Delivery
  arrived : List HttpRequest
  deriving DecidableEq, Repr

namespace Network

variable {α : Type}

/-- The network in which nobody is reached. -/
def nowhere : Network := ⟨[], []⟩

/-- The network after some attempts to send a request. -/
def after (n : Network) (r : HttpRequest) (attempts : Nat) : Network :=
  { deliveries := n.deliveries.drop attempts
    arrived := ((n.deliveries.take attempts).filter Delivery.arrives).map (fun _ => r) ++ n.arrived }

/-- Sends a request to a target in the attempts of a policy. -/
def exchange (n : Network) (p : Policy) (target : String) (request : Except SendFault HttpRequest)
    (report : SendFault → AttemptFault) (read : HttpReply → Except AttemptFault α) :
    Except CallFault (α × Nat) × Network :=
  match request with
  | .error fault => ((p.run target fun _ => ⟨⟨0⟩, .error (report fault)⟩).result, n)
  | .ok r =>
    let run := p.run target fun number =>
      (n.deliveries.getD (number - 1) .unreachable).attempt p r report read
    (run.result, n.after r run.begun.length)

end Network

end Dialogue

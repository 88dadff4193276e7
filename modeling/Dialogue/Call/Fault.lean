import Dialogue.Value.Basic

/-!
# Failed calls

Why a call to a back end or to a model has failed in the end, after all attempts.
-/

namespace Dialogue

/-- Why a call has failed. -/
inductive CallFault where
  | timeout (target : String) (millis attempts : Nat)
  | status (target : String) (status : Nat) (body : String) (attempts : Nat)
  | transport (target reason : String) (attempts : Nat)
  | badReply (target reason : String)
  | badRequest (target reason : String)
  | notConfigured (reason : String)
  deriving DecidableEq, Repr, Inhabited

namespace CallFault

/-- How many attempts were made. -/
def attempts : CallFault → Nat
  | timeout _ _ n | status _ _ _ n | transport _ _ n => n
  | badReply .. | badRequest .. | notConfigured _ => 1

/-- The number of attempts in a message. -/
def counted (n : Nat) : String := " (" ++ toString n ++ " attempts)"

/-- The wording of a fault. -/
def message : CallFault → String
  | timeout target millis n =>
    "call to " ++ target ++ " timed out after " ++ toString millis ++ " ms" ++ counted n
  | status target s _ n => "call to " ++ target ++ " returned status " ++ toString s ++ counted n
  | transport target reason n => "call to " ++ target ++ " failed: " ++ reason ++ counted n
  | badReply target reason => "invalid response from " ++ target ++ ": " ++ reason
  | badRequest target reason => "cannot build request for " ++ target ++ ": " ++ reason
  | notConfigured reason => "invoker not configured: " ++ reason

/-- The fault when there is no key for a model. -/
def noModelKey : CallFault := notConfigured "OPENAI_KEY is not set"

/-- A fault as a document: its name with what belongs to it. -/
def toValue : CallFault → Value
  | timeout target millis n =>
    .single "Timeout"
      (.record [("target", .text target), ("timeout_ms", .int millis), ("attempts", .int n)])
  | status target s body n =>
    .single "Status"
      (.record [("target", .text target), ("status", .int s), ("body", .text body),
        ("attempts", .int n)])
  | transport target reason n =>
    .single "Transport"
      (.record [("target", .text target), ("reason", .text reason), ("attempts", .int n)])
  | badReply target reason =>
    .single "InvalidResponse" (.record [("target", .text target), ("reason", .text reason)])
  | badRequest target reason =>
    .single "InvalidRequest" (.record [("target", .text target), ("reason", .text reason)])
  | notConfigured reason => .single "NotConfigured" (.text reason)

end CallFault

end Dialogue

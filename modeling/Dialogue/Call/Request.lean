import Dialogue.Call.Attempt
import Dialogue.Flow.Basic

/-!
# Calls to back ends

A call is a request with everything filled in, and how to go about it; its reply has a status and a
body.
-/

namespace Dialogue

/-- A call to a back end. -/
structure ActionCall where
  method : Method
  url : String
  query : List (String × String)
  headers : List (String × String)
  body : Option Value
  credentials : Option Credentials
  policy : Policy
  deriving DecidableEq, Repr

/-- How a call is named in messages. -/
def ActionCall.target (c : ActionCall) : String := c.method.name ++ " " ++ c.url

/-- The reply of a back end. -/
structure ActionReply where
  status : Nat
  body : Value
  attempts : Nat
  deriving DecidableEq, Repr

/-- How much text went to and fro between a model and its user. -/
structure Usage where
  prompt : Nat
  completion : Nat
  total : Nat
  deriving DecidableEq, Repr, Inhabited

/-- The reply of a model. -/
structure ModelReply where
  text : String
  usage : Usage
  attempts : Nat
  deriving DecidableEq, Repr

end Dialogue

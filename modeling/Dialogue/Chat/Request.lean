import Dialogue.Number.Binary
import Dialogue.Value.Basic

/-!
# Requests to language models

A request is a list of messages with some settings; the reply is a text.
-/

namespace Dialogue

/-- Who speaks in the messages to a model. -/
inductive Speaker where
  | system
  | user
  | assistant
  deriving DecidableEq, Repr, Inhabited

namespace Speaker

/-- The name of a speaker. -/
def name : Speaker → String
  | system => "system"
  | user => "user"
  | assistant => "assistant"

end Speaker

/-- A message to a model. -/
structure ChatMessage where
  speaker : String
  content : String
  deriving DecidableEq, Repr, Inhabited

namespace ChatMessage

/-- A message of a speaker. -/
def of (speaker : Speaker) (content : String) : ChatMessage := ⟨speaker.name, content⟩

/-- A message as a document. -/
def toValue (m : ChatMessage) : Value :=
  .record [("role", .text m.speaker), ("content", .text m.content)]

end ChatMessage

/-- A request to a model. -/
structure ModelRequest where
  model : Option String
  messages : List ChatMessage
  temperature : Option Binary64
  maxTokens : Option Nat
  wantsRecord : Bool
  deriving DecidableEq, Repr, Inhabited

end Dialogue

import Dialogue.Schema.Basic
import Dialogue.Turn.Message

/-!
# The schemas of turns

What contacts send, and what goes back to them.
-/

namespace Dialogue.Schema

/-- Messages of contacts. -/
def inbound : Schema :=
  document "InboundMessage" [] <|
    described "One inbound event from a messaging channel." <|
      record ["tenant_id", "contact_id", "text"] [("tenant_id", text), ("contact_id", text),
        ("channel", described
          "Channel the message arrived on (`whatsapp`, `cli`, ...). Informational."
          (orElse (.text "") text)),
        ("text", text)]

/-- An ending with further fields, all of which it needs. -/
def endingForm (name description : String) (fields : List (String × Schema)) : Schema :=
  described description (form "status" name (fields.map (·.1)) fields)

/-- The endings of turns. -/
def ending : Schema :=
  described "How a turn ended." <|
    forms [
      endingForm Ending.awaiting.name "Paused on a node waiting for the contact's next message." [],
      endingForm Ending.completed.name
        "The flow reached a node with nowhere to go; the session was deleted." [],
      endingForm Ending.abandoned.name "The contact sent an abandonment keyword." [],
      endingForm Ending.noFlow.name "No session and no flow trigger matched." [],
      endingForm (Ending.failed "").name
        "The turn hit a defect or an unrecoverable error; the session was deleted."
        [("reason", text)]]

/-- Replies to contacts. -/
def reply : Schema :=
  document "TurnReply" [("TurnOutcome", ending)] <|
    described "What goes back to the channel after a turn." <|
      record ["messages", "awaiting_input", "outcome"] [
        ("messages", described "Rendered messages, in the order they were produced." (list text)),
        ("awaiting_input", truth), ("flow_id", orNothing text),
        ("current_node", described "Node the session is parked on, when it survives the turn."
          (orNothing text)),
        ("outcome", named "TurnOutcome")]

end Dialogue.Schema

import Dialogue.Document.Tagged

/-!
# Messages of turns

A contact's message begins a turn; the reply tells what the bot says and how the turn has ended.
-/

namespace Dialogue

open RecordDecoder (field fieldOr)

/-- A message of a contact. The channel is only noted. -/
structure Inbound where
  tenant : String
  contact : String
  channel : String
  text : String
  deriving DecidableEq, Repr

namespace Inbound

/-- A message of a contact. -/
def decode : Decoder Inbound :=
  (Inbound.mk <$> field "tenant_id" Decoder.text <*> field "contact_id" Decoder.text
    <*> fieldOr "channel" Decoder.text "" <*> field "text" Decoder.text).decode
    "struct InboundMessage"

/-- A message as a document. -/
def toValue (m : Inbound) : Value :=
  .record [("tenant_id", .text m.tenant), ("contact_id", .text m.contact),
    ("channel", .text m.channel), ("text", .text m.text)]

end Inbound

/-- How a turn has ended: a node waits for a reply, the flow is complete, the contact gave it up, no
flow was set off, or something failed. -/
inductive Ending where
  | awaiting
  | completed
  | abandoned
  | noFlow
  | failed (reason : String)
  deriving DecidableEq, Repr, Inhabited

namespace Ending

/-- The name of an ending. -/
def name : Ending → String
  | awaiting => "awaiting"
  | completed => "completed"
  | abandoned => "abandoned"
  | noFlow => "no_flow"
  | failed _ => "failed"

/-- An ending; the field `status` names it. -/
def decode : Decoder Ending :=
  Decoder.tagged "status" "TurnOutcome"
    ([awaiting, completed, abandoned, noFlow].map (fun e => (e.name, Decoder.form e)) ++
      [("failed", (failed <$> field "reason" Decoder.text).decode
        "struct variant TurnOutcome::Failed")])

/-- An ending as a document. -/
def toValue : Ending → Value
  | failed reason => .record [("status", .text "failed"), ("reason", .text reason)]
  | other => .single "status" (.text other.name)

end Ending

/-- What goes back to a contact. -/
structure TurnReply where
  messages : List String
  awaiting : Bool
  flow : Option String
  current : Option String
  ending : Ending
  deriving DecidableEq, Repr

namespace TurnReply

/-- The reply when no flow is set off. -/
def noFlow : TurnReply := ⟨[], false, none, none, .noFlow⟩

/-- All messages as one text, with blank lines between them. -/
def text (r : TurnReply) : String := String.intercalate "\n\n" r.messages

/-- A reply as a document. -/
def toValue (r : TurnReply) : Value :=
  .record ([("messages", .list (r.messages.map .text)), ("awaiting_input", .bool r.awaiting)]
    ++ (r.flow.map fun f => ("flow_id", Value.text f)).toList
    ++ (r.current.map fun n => ("current_node", Value.text n)).toList
    ++ [("outcome", r.ending.toValue)])

end TurnReply

end Dialogue

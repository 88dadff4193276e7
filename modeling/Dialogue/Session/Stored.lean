import Dialogue.Document.Decode
import Dialogue.Session.Basic

/-!
# Stored sessions

A session is stored as a document with all its fields; moments are written as text in universal
time. A stored session that lacks a field cannot be read, except that nothing has to be said of the
latest node.
-/

namespace Dialogue

open RecordDecoder (field option)

/-- A moment, written as text. -/
def Moment.decode : Decoder Moment := fun _ d =>
  match Decoder.scalarText? d with
  | none => Decoder.expected "an RFC 3339 formatted date and time string" d
  | some s =>
    match Moment.read s with
    | .ok m => .ok m
    | .error fault => .error (.refused fault.message)

/-- A moment as a document. -/
def Moment.toValue (m : Moment) : Value := .text m.toText

namespace Utterance

/-- Something that was said. -/
def decode : Decoder Utterance :=
  (Utterance.mk <$> field "role"
      (Decoder.oneOf [(Party.contact.name, Party.contact), (Party.bot.name, .bot)])
    <*> field "text" Decoder.text <*> field "at" Moment.decode).decode "struct HistoryEntry"

/-- Something that was said, as a document. -/
def toValue (u : Utterance) : Value :=
  .record [("role", .text u.party.name), ("text", .text u.text), ("at", u.time.toValue)]

end Utterance

namespace Session

/-- A session. -/
def decode : Decoder Session :=
  (Session.mk <$> field "id" Decoder.text <*> field "tenant_id" Decoder.text
    <*> field "contact_id" Decoder.text <*> field "flow_id" Decoder.text
    <*> field "entry_node" Decoder.text <*> field "current_node" Decoder.text
    <*> field "awaiting_input" Decoder.bool <*> field "global" (Decoder.fields Decoder.any)
    <*> field "steps" (Decoder.fields (Decoder.fields Decoder.any))
    <*> option "last_step" Decoder.text <*> field "history" (Decoder.list Utterance.decode)
    <*> field "history_window" Decoder.size <*> field "attempts" (Decoder.fields Decoder.natural32)
    <*> field "created_at" Moment.decode <*> field "last_activity" Moment.decode
    <*> field "idle_deadline" Moment.decode
    <*> field "idle_timeout_secs" (Decoder.integer (-twoTo 63) (twoTo 63 - 1) "i64")).decode
    "struct Session"

/-- A session as a document. -/
def toValue (s : Session) : Value :=
  .record [("id", .text s.id), ("tenant_id", .text s.tenant), ("contact_id", .text s.contact),
    ("flow_id", .text s.flow), ("entry_node", .text s.entry), ("current_node", .text s.current),
    ("awaiting_input", .bool s.awaiting), ("global", .record s.globals),
    ("steps", .record (s.records.map fun (node, record) => (node, .record record))),
    ("last_step", (s.latest.map Value.text).getD .null),
    ("history", .list (s.history.map Utterance.toValue)), ("history_window", .int s.window),
    ("attempts", .record (s.attempts.map fun (node, n) => (node, .int n))),
    ("created_at", s.created.toValue), ("last_activity", s.lastActive.toValue),
    ("idle_deadline", s.deadline.toValue), ("idle_timeout_secs", .int s.idleSeconds)]

end Session

end Dialogue

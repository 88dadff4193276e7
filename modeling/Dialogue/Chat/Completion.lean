import Dialogue.Call.Request
import Dialogue.Chat.Request
import Dialogue.Document.Decode
import Dialogue.Document.Json
import Dialogue.Http.Network

/-!
# Completions by a model

A model behind an address completes a list of messages. The reply holds several choices, of which the
first one counts; its text may come in parts.

* `Completion.text_parts`: parts that are texts are put on lines of their own.
-/

namespace Dialogue

open RecordDecoder (fieldOr)

/-- Access to a model: its address, the key to it, the name of the usual model, and how requests are
attempted. -/
structure ModelAccess where
  base : String
  key : String
  model : String
  policy : Policy
  deriving DecidableEq, Repr

namespace Completion

/-- The document of a request. -/
def body (usualModel : String) (r : ModelRequest) : Value :=
  .record ((r.maxTokens.map fun n => ("max_tokens", Value.int n)).toList
    ++ [("messages", .list (r.messages.map ChatMessage.toValue)),
      ("model", .text (r.model.getD usualModel))]
    ++ (if r.wantsRecord then
        [("response_format", Value.single "type" (.text "json_object"))] else [])
    ++ (r.temperature.map fun t => ("temperature", Value.ofNumber t)).toList)

/-- The text of a part, when it has one. -/
def partText? (part : Value) : Option String :=
  match part with
  | .text s => some s
  | part => (part.field? "text").bind Value.text?

/-- The first choice: of a list the first item. -/
def firstChoice? : Value → Option Value
  | .list items => items[0]?
  | v => v.field? "0"

/-- The content of a reply. -/
def content? (reply : Value) : Option Value := do
  let choice ← firstChoice? (← reply.field? "choices")
  (← choice.field? "message").field? "content"

/-- The text of a reply, or what is wrong with the reply. -/
def text (reply : Value) : Except String String :=
  match content? reply with
  | none => .error "OpenAI response missing message content"
  | some .null => .error "OpenAI response has empty content"
  | some (.text s) => .ok s
  | some (.list parts) => .ok (String.intercalate "\n" (parts.filterMap partText?))
  | some v => .ok v.compact

/-- The counts of tokens. -/
def usageDecoder : Decoder Usage :=
  (Usage.mk <$> fieldOr "prompt_tokens" Decoder.natural64 0
    <*> fieldOr "completion_tokens" Decoder.natural64 0
    <*> fieldOr "total_tokens" Decoder.natural64 0).decode "struct TokenUsage"

/-- The counts of tokens in a reply, none when they cannot be read. -/
def usage (reply : Value) : Usage :=
  match reply.field? "usage" with
  | none => default
  | some v =>
    match usageDecoder.ofValue v with
    | .ok u => u
    | .error _ => default

/-- The text and the counts of a reply. -/
def read (r : HttpReply) : Except AttemptFault (String × Usage) :=
  if r.isSuccess then
    match Json.parse r.body with
    | .error _ => .error (.badReply "Invalid OpenAI response: error decoding response body")
    | .ok reply =>
      match text reply with
      | .ok s => .ok (s, usage reply)
      | .error reason => .error (.badReply reason)
  else .error (.status r.status r.body)

/-- Parts that are texts are put on lines of their own. -/
theorem text_parts (texts : List String) :
    text (.single "choices" (.list [.single "message" (.single "content"
      (.list (texts.map .text)))])) = .ok (String.intercalate "\n" texts) := by
  have : (texts.map Value.text).filterMap partText? = texts := by
    induction texts with
    | nil => rfl
    | cons s texts ih => simp [partText?, ih]
  simp [text, content?, firstChoice?, Value.field?, Value.single, Fields.get?, this]

end Completion

namespace ModelAccess

/-- The address of completions. -/
def address (a : ModelAccess) : String :=
  String.ofList (Text.dropEndWhile (· == '/') a.base.toList) ++ "/chat/completions"

/-- The request over a network for a completion. -/
def request (a : ModelAccess) (r : ModelRequest) : Except SendFault HttpRequest := do
  let h ← HttpRequest.addressed .post a.address
  let h ← h.withHeader "authorization" (HttpRequest.bearer a.key)
  (h.withBody (Completion.body a.model r)).ready

/-- Whatever keeps a request from being sent counts as a failure on the way. -/
def report (fault : SendFault) : AttemptFault :=
  .transport ("OpenAI request failed: " ++ fault.message)

/-- Asks for a completion over a network. -/
def ask (a : ModelAccess) (r : ModelRequest) (n : Network) :
    Except CallFault ModelReply × Network :=
  let target := Method.post.name ++ " " ++ a.address
  let (result, n) := n.exchange a.policy target (a.request r) report Completion.read
  (result.map fun ((text, usage), attempts) => ⟨text, usage, attempts⟩, n)

end ModelAccess

end Dialogue

import Dialogue.Value.Written
import Dialogue.Flow.Basic

/-!
# Flows as documents

A flow is written with its fields in a fixed order, fields that are unset left out, and the settings
of each node in a block of their own whose fields ascend. The graph is not written: it follows from
the nodes.
-/

namespace Dialogue

mutual

/-- The value with the fields of all its records in ascending order. -/
def Value.sorted : Value → Value
  | .list items => .list (sortedItems items)
  | .record fields => .record (Fields.ofList (sortedFields fields))
  | other => other

/-- The items with the fields of all their records in ascending order. -/
def sortedItems : List Value → List Value
  | [] => []
  | item :: more => item.sorted :: sortedItems more

/-- The fields with the fields of all their values in ascending order. -/
def sortedFields : List (String × Value) → List (String × Value)
  | [] => []
  | (name, value) :: more => (name, value.sorted) :: sortedFields more

end

namespace Written

/-- A field that is always written. -/
def put (name : String) (v : Value) : Option (String × Value) := some (name, v)

/-- A text that is written when it is set. -/
def text? (name : String) (s : Option String) : Option (String × Value) :=
  s.map fun s => (name, .text s)

/-- A natural number that is written when it is set. -/
def nat? (name : String) (n : Option Nat) : Option (String × Value) :=
  n.map fun n => (name, .int n)

/-- Named texts. -/
def texts (fields : Fields String) : Value := .record (fields.map fun (k, v) => (k, .text v))

/-- Named texts that are written unless there are none. -/
def texts? (name : String) (fields : Fields String) : Option (String × Value) :=
  if fields.isEmpty then none else some (name, texts fields)

/-- A list of texts. -/
def textList (items : List String) : Value := .list (items.map .text)

/-- A list that is written unless it is empty. -/
def list? (name : String) (items : List Value) : Option (String × Value) :=
  if items.isEmpty then none else some (name, .list items)

/-- The record of the fields that are written. -/
def record (fields : List (Option (String × Value))) : Value := .record (fields.filterMap id)

end Written

open Written

namespace Edge

/-- An edge as a document. -/
def toValue (e : Edge) : Value :=
  record [put "target" (.text e.target), text? "condition" e.condition, text? "label" e.label]

end Edge

namespace Triggers

/-- The name of a trigger mode. -/
def modeName : TriggerMode → String
  | .keyword => "keyword"
  | .always => "always"

/-- Triggers as a document. -/
def toValue (t : Triggers) : Value :=
  record [put "keywords" (textList t.keywords), put "priority" (.int t.priority),
    put "mode" (.text (modeName t.mode))]

end Triggers

namespace FlowSettings

/-- Settings of a flow as a document. -/
def toValue (s : FlowSettings) : Value :=
  record [nat? "idle_timeout_mins" s.idleMinutes, put "allow_abandon" (.bool s.allowAbandon),
    s.abandonKeywords.map fun ks => ("abandon_keywords", textList ks),
    text? "abandon_message" s.abandonMessage, text? "fallback_message" s.fallbackMessage,
    text? "human_contact" s.humanContact]

end FlowSettings

namespace Credentials

/-- Where a key is sent, by name. -/
def placeName : KeyPlace → String
  | .header => "header"
  | .query => "query"

/-- Credentials as a document. -/
def toValue : Credentials → Value
  | bearer token header =>
    record [put "type" (.text "bearer"), put "token" (.text token), text? "header" header]
  | apiKey key name place =>
    record [put "type" (.text "api_key"), put "key" (.text key), put "name" (.text name),
      put "location" (.text (placeName place))]
  | basic username password =>
    record [put "type" (.text "basic"), put "username" (.text username),
      put "password" (.text password)]

end Credentials

namespace Api

/-- A back end as a document. -/
def toValue (a : Api) : Value :=
  record [put "id" (.text a.id), put "base_url" (.text a.baseUrl), texts? "headers" a.headers,
    a.credentials.map fun c => ("auth", c.toValue), nat? "timeout_ms" a.timeoutMs,
    nat? "max_attempts" a.maxAttempts]

end Api

namespace AnswerType

/-- The name of an answer type. -/
def name : AnswerType → String
  | text => "text"
  | number => "number"
  | email => "email"
  | phone => "phone"
  | date => "date"

end AnswerType

namespace Question

/-- The settings of a question as a document. -/
def toValue (q : Question) : Value :=
  record [put "variable" (.text q.variableName), texts? "options" q.options,
    put "answer_type" (.text q.answerType.name), text? "pattern" q.pattern,
    nat? "min_length" q.minLength, nat? "max_length" q.maxLength,
    put "required" (.bool q.required), put "max_attempts" (.int q.maxAttempts),
    text? "fallback" q.fallback, text? "error_message" q.errorMessage,
    put "global" (.bool q.isGlobal)]

end Question

namespace Confirmation

/-- The settings of a confirmation as a document. -/
def toValue (c : Confirmation) : Value :=
  record [put "variable" (.text c.variableName), text? "on_yes" c.onYes, text? "on_no" c.onNo,
    put "max_attempts" (.int c.maxAttempts), text? "fallback" c.fallback,
    text? "error_message" c.errorMessage, put "global" (.bool c.isGlobal)]

end Confirmation

namespace Announcement

/-- The settings of a message as a document. -/
def toValue (m : Announcement) : Value := record [put "await_reply" (.bool m.awaitReply)]

end Announcement

namespace Extraction

/-- What is taken out of a response, as a document. -/
def toValue (e : Extraction) : Value :=
  record [text? "array_path" e.arrayPath, texts? "fields" e.fields, text? "into" e.into]

end Extraction

namespace Action

/-- The settings of a call as a document. -/
def toValue (a : Action) : Value :=
  record [put "api" (.text a.api), put "method" (.text a.method.name), put "path" (.text a.path),
    texts? "params" a.params, texts? "query" a.query, texts? "headers" a.headers,
    a.body.map fun b => ("body", b), text? "output" a.output,
    a.extract.map fun e => ("extract", e.toValue), nat? "timeout_ms" a.timeoutMs,
    text? "on_success" a.onSuccess, text? "on_error" a.onError, put "global" (.bool a.isGlobal)]

end Action

namespace Router

/-- The settings of a router as a document. -/
def toValue (r : Router) : Value := record [text? "default" r.default]

end Router

namespace FieldSpec

/-- A field that a model is asked for, as a document. -/
def toValue (f : FieldSpec) : Value :=
  record [put "name" (.text f.name), put "type" (.text f.type.name),
    put "required" (.bool f.required), text? "description" f.description,
    list? "examples" (f.examples.map .text)]

end FieldSpec

namespace Knowledge

/-- Text that a model is given to know, as a document. -/
def toValue (k : Knowledge) : Value :=
  record [put "title" (.text k.title), put "content" (.text k.content),
    list? "keywords" (k.keywords.map .text)]

end Knowledge

namespace Role

/-- The name of a role. -/
def name : Role → String
  | conversational => "conversational"
  | extractor => "extractor"
  | classifier => "classifier"

end Role

namespace Model

/-- The settings of a call to a model as a document. -/
def toValue (m : Model) : Value :=
  record [put "role" (.text m.role.name), text? "model" m.model,
    m.temperature.map fun t => ("temperature", Value.ofNumber t), nat? "max_tokens" m.maxTokens,
    text? "output" m.output, text? "persona" m.persona,
    list? "knowledge" (m.knowledge.map Knowledge.toValue),
    list? "collect" (m.collect.map FieldSpec.toValue), text? "completion_token" m.completionToken,
    list? "fields" (m.fields.map FieldSpec.toValue), list? "labels" (m.labels.map .text),
    text? "default_label" m.defaultLabel, put "max_attempts" (.int m.maxAttempts),
    text? "reprompt" m.reprompt, text? "on_error" m.onError, put "global" (.bool m.isGlobal)]

end Model

namespace Task

/-- The settings of a task as a document; a trigger has none. -/
def settings : Task → Value
  | trigger => .null
  | input q => q.toValue
  | confirmation c => c.toValue
  | message m => m.toValue
  | action a => a.toValue
  | router r => r.toValue
  | model m => m.toValue

end Task

namespace Node

/-- A node as a document. -/
def toValue (n : Node) : Value :=
  let settings := n.task.settings.sorted
  record [put "id" (.text n.id), put "kind" (.text n.kind.name), text? "template" n.template,
    if settings = .null then none else some ("config", settings),
    list? "edges" (n.edges.map Edge.toValue)]

end Node

namespace Flow

/-- A flow as a document. -/
def toValue (f : Flow) : Value :=
  record [put "tenant_id" (.text f.tenant), put "id" (.text f.id), put "name" (.text f.name),
    put "version" (.int f.version), put "active" (.bool f.active),
    put "entry_node" (.text f.entry),
    if f.constants.isEmpty then none else some ("variables", .record f.constants),
    put "triggers" f.triggers.toValue, list? "apis" (f.apis.map Api.toValue),
    put "settings" f.settings.toValue, put "nodes" (.list (f.nodes.map Node.toValue))]

/-- Two flows count as the same when they have the same tenant, name, version, entry and nodes. -/
def same (f g : Flow) : Bool :=
  f.tenant == g.tenant && f.id == g.id && f.version == g.version && f.entry == g.entry
    && Value.same (.list (f.nodes.map Node.toValue)) (.list (g.nodes.map Node.toValue))

end Flow

end Dialogue

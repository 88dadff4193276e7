import Dialogue.Document.Json
import Dialogue.Document.Tagged
import Dialogue.Flow.Written

/-!
# Flows from documents

Each type of a flow has a description of its fields. The settings of a node are read when its kind
is known; a misfit in them names the node.
-/

namespace Dialogue

open RecordDecoder (field fieldOr option)

namespace Edge

/-- An edge. -/
def fields : RecordDecoder Edge :=
  Edge.mk <$> field "target" Decoder.text <*> option "condition" Decoder.text
    <*> option "label" Decoder.text

/-- An edge. -/
def decode : Decoder Edge := fields.decode "struct Edge"

end Edge

namespace Triggers

/-- When a flow is chosen. -/
def decode : Decoder Triggers :=
  (Triggers.mk <$> fieldOr "keywords" (Decoder.list Decoder.text) []
    <*> fieldOr "priority" Decoder.integer32 0
    <*> fieldOr "mode"
      (Decoder.oneOf [("keyword", TriggerMode.keyword), ("always", .always)]) .keyword).decode
    "struct Triggers"

end Triggers

namespace FlowSettings

/-- Settings of a flow. -/
def decode : Decoder FlowSettings :=
  (FlowSettings.mk <$> option "idle_timeout_mins" Decoder.natural64
    <*> fieldOr "allow_abandon" Decoder.bool true
    <*> option "abandon_keywords" (Decoder.list Decoder.text)
    <*> option "abandon_message" Decoder.text <*> option "fallback_message" Decoder.text
    <*> option "human_contact" Decoder.text).decode "struct FlowSettings"

end FlowSettings

namespace Credentials

/-- The forms of credentials with their fields. -/
def variants : List (String × Decoder Credentials) :=
  [("bearer", (bearer <$> field "token" Decoder.text <*> option "header" Decoder.text).decode
      "struct variant ApiAuth::Bearer"),
    ("api_key", (apiKey <$> field "key" Decoder.text <*> field "name" Decoder.text
      <*> fieldOr "location"
        (Decoder.oneOf [("header", KeyPlace.header), ("query", .query)]) .header).decode
      "struct variant ApiAuth::ApiKey"),
    ("basic", (basic <$> field "username" Decoder.text <*> field "password" Decoder.text).decode
      "struct variant ApiAuth::Basic")]

/-- Credentials; the field `type` names their form. -/
def decode : Decoder Credentials := Decoder.tagged "type" "ApiAuth" variants

end Credentials

namespace Api

/-- A back end. -/
def decode : Decoder Api :=
  (Api.mk <$> field "id" Decoder.text <*> field "base_url" Decoder.text
    <*> fieldOr "headers" (Decoder.fields Decoder.text) []
    <*> option "auth" Credentials.decode <*> option "timeout_ms" Decoder.natural64
    <*> option "max_attempts" Decoder.natural32).decode "struct ApiConfig"

end Api

namespace Kind

/-- The accepted names of kinds. -/
def names : List (String × Kind) :=
  [("trigger", trigger), ("input", input), ("menu", input), ("confirmation", confirmation),
    ("message", message), ("action", action), ("router", router), ("llm", model)]

/-- A kind. -/
def decode : Decoder Kind := Decoder.oneOf names

end Kind

namespace Question

/-- The settings of a question. -/
def decode : Decoder Question :=
  (Question.mk <$> field "variable" Decoder.text
    <*> fieldOr "options" (Decoder.fields Decoder.text) []
    <*> fieldOr "answer_type" (Decoder.oneOf [("text", AnswerType.text), ("number", .number),
      ("email", .email), ("phone", .phone), ("date", .date)]) .text
    <*> option "pattern" Decoder.text <*> option "min_length" Decoder.size
    <*> option "max_length" Decoder.size <*> fieldOr "required" Decoder.bool true
    <*> fieldOr "max_attempts" Decoder.natural32 3 <*> option "fallback" Decoder.text
    <*> option "error_message" Decoder.text <*> fieldOr "global" Decoder.bool true).decode
    "struct InputConfig"

end Question

namespace Confirmation

/-- The settings of a confirmation. -/
def decode : Decoder Confirmation :=
  (Confirmation.mk <$> fieldOr "variable" Decoder.text "confirmed"
    <*> option "on_yes" Decoder.text <*> option "on_no" Decoder.text
    <*> fieldOr "max_attempts" Decoder.natural32 3 <*> option "fallback" Decoder.text
    <*> option "error_message" Decoder.text <*> fieldOr "global" Decoder.bool true).decode
    "struct ConfirmationConfig"

end Confirmation

namespace Announcement

/-- The settings of a message. -/
def decode : Decoder Announcement :=
  (Announcement.mk <$> fieldOr "await_reply" Decoder.bool false).decode "struct MessageConfig"

end Announcement

namespace Method

/-- The accepted names of methods. -/
def names : List (String × Method) :=
  [("GET", get), ("get", get), ("POST", post), ("post", post), ("PUT", put), ("put", put),
    ("PATCH", patch), ("patch", patch), ("DELETE", delete), ("delete", delete)]

/-- A method. -/
def decode : Decoder Method := Decoder.oneOf names

end Method

namespace Extraction

/-- What is taken out of a response. -/
def decode : Decoder Extraction :=
  (Extraction.mk <$> option "array_path" Decoder.text
    <*> fieldOr "fields" (Decoder.fields Decoder.text) []
    <*> option "into" Decoder.text).decode "struct ExtractSpec"

end Extraction

namespace Action

/-- The settings of a call. -/
def decode : Decoder Action :=
  (Action.mk <$> field "api" Decoder.text <*> fieldOr "method" Method.decode .get
    <*> fieldOr "path" Decoder.text "" <*> fieldOr "params" (Decoder.fields Decoder.text) []
    <*> fieldOr "query" (Decoder.fields Decoder.text) []
    <*> fieldOr "headers" (Decoder.fields Decoder.text) [] <*> option "body" Decoder.any
    <*> option "output" Decoder.text <*> option "extract" Extraction.decode
    <*> option "timeout_ms" Decoder.natural64 <*> option "on_success" Decoder.text
    <*> option "on_error" Decoder.text <*> fieldOr "global" Decoder.bool true).decode
    "struct ActionConfig"

end Action

namespace Router

/-- The settings of a router. -/
def decode : Decoder Router :=
  (Router.mk <$> option "default" Decoder.text).decode "struct RouterConfig"

end Router

namespace FieldSpec

/-- A field that a model is asked for. -/
def decode : Decoder FieldSpec :=
  (FieldSpec.mk <$> field "name" Decoder.text
    <*> fieldOr "type" (Decoder.oneOf [("string", FieldType.string), ("number", .number),
      ("boolean", .boolean), ("date", .date), ("any", .any)]) .string
    <*> fieldOr "required" Decoder.bool false <*> option "description" Decoder.text
    <*> fieldOr "examples" (Decoder.list Decoder.text) []).decode "struct FieldSpec"

end FieldSpec

namespace Knowledge

/-- Text that a model is given to know. -/
def decode : Decoder Knowledge :=
  (Knowledge.mk <$> field "title" Decoder.text <*> field "content" Decoder.text
    <*> fieldOr "keywords" (Decoder.list Decoder.text) []).decode "struct KnowledgeSnippet"

end Knowledge

namespace Role

/-- A role. -/
def decode : Decoder Role :=
  Decoder.oneOf [("conversational", conversational), ("extractor", extractor),
    ("classifier", classifier)]

end Role

namespace Model

/-- The settings of a call to a model. -/
def decode : Decoder Model :=
  (Model.mk <$> field "role" Role.decode <*> option "model" Decoder.text
    <*> option "temperature" Decoder.single <*> option "max_tokens" Decoder.natural32
    <*> option "output" Decoder.text <*> option "persona" Decoder.text
    <*> fieldOr "knowledge" (Decoder.list Knowledge.decode) []
    <*> fieldOr "collect" (Decoder.list FieldSpec.decode) []
    <*> option "completion_token" Decoder.text
    <*> fieldOr "fields" (Decoder.list FieldSpec.decode) []
    <*> fieldOr "labels" (Decoder.list Decoder.text) [] <*> option "default_label" Decoder.text
    <*> fieldOr "max_attempts" Decoder.natural32 3 <*> option "reprompt" Decoder.text
    <*> option "on_error" Decoder.text <*> fieldOr "global" Decoder.bool true).decode
    "struct LlmConfig"

end Model

namespace Task

/-- What a node of a kind does, by its settings. -/
def ofSettings (kind : Kind) (settings : Value) : Except Misfit Task :=
  match kind with
  | .trigger => .ok trigger
  | .input => (Question.decode.ofValue settings).map input
  | .confirmation => (Confirmation.decode.ofValue settings).map confirmation
  | .message => (Announcement.decode.ofValue settings).map message
  | .action => (Action.decode.ofValue settings).map action
  | .router => (Router.decode.ofValue settings).map router
  | .model => (Model.decode.ofValue settings).map model

end Task

/-- A node before its settings are read. -/
structure NodeOutline where
  id : String
  kind : Kind
  template : Option String
  settings : Value
  edges : List Edge

namespace NodeOutline

/-- A node before its settings are read. -/
def decode : Decoder NodeOutline :=
  (NodeOutline.mk <$> field "id" Decoder.text <*> field "kind" Kind.decode
    <*> option "template" Decoder.text <*> fieldOr "config" Decoder.any .null
    <*> fieldOr "edges" (Decoder.list Edge.decode) []).decode "struct RawNode"

/-- The node of an outline; absent settings are empty ones. -/
def complete (n : NodeOutline) : Except Misfit Node :=
  let settings := if n.settings = .null then .record [] else n.settings
  match Task.ofSettings n.kind settings with
  | .ok task => .ok ⟨n.id, task, n.template, n.edges⟩
  | .error m =>
    .error (.refused ("node `" ++ n.id ++ "` (" ++ n.kind.name ++ "): " ++ m.message))

end NodeOutline

namespace Node

/-- A node. -/
def decode : Decoder Node := fun origin d =>
  match NodeOutline.decode origin d with
  | .ok n => n.complete
  | .error m => .error m

end Node

namespace Flow

/-- A flow that has not been built. -/
def decode : Decoder Flow :=
  (make <$> field "tenant_id" Decoder.text <*> field "id" Decoder.text <*> field "name" Decoder.text
    <*> fieldOr "version" Decoder.natural32 1 <*> fieldOr "active" Decoder.bool true
    <*> field "entry_node" Decoder.text <*> fieldOr "variables" (Decoder.fields Decoder.any) []
    <*> fieldOr "triggers" Triggers.decode default <*> fieldOr "apis" (Decoder.list Api.decode) []
    <*> fieldOr "settings" FlowSettings.decode default
    <*> field "nodes" (Decoder.list Node.decode)).decode "struct Flow"
where
  /-- A flow of its written fields. -/
  make (tenant id name : String) (version : Nat) (active : Bool) (entry : String)
      (constants : Fields Value) (triggers : Triggers) (apis : List Api) (settings : FlowSettings)
      (nodes : List Node) : Flow :=
    ⟨tenant, id, name, version, active, entry, constants, triggers, apis, settings, nodes, [],
      default⟩

/-- The flow of a text in JSON, built. -/
def ofJson (text : String) : Except Misfit Flow :=
  let (document, atEnd) := Json.read text
  (decode.run .text document atEnd).map build

end Flow

end Dialogue

import Dialogue.Flow.Basic
import Dialogue.Schema.Basic

/-!
# The schema of flows

A flow has nodes, back ends, triggers and settings. What belongs to a node of a kind is left open.
-/

namespace Dialogue.Schema

/-- An optional text. -/
def optionalText : Schema := orNothing text

/-- Edges. -/
def edge : Schema :=
  described "A directed, optionally guarded transition." <|
    record ["target"] [("target", text), ("condition", optionalText), ("label", optionalText)]

/-- Triggers. -/
def triggers : Schema :=
  described "Criteria used to pick this flow for a contact without a session." <|
    record [] [("keywords", orElse (.list []) (list text)),
      ("priority", orElse (.int 0) (integer "int32")),
      ("mode", orElse (.text "keyword") (named "TriggerMode"))]

/-- The settings of a flow. -/
def flowSettings : Schema :=
  described "Per-flow overrides of the engine settings." <|
    record [] [("idle_timeout_mins", orNothing (natural 64)),
      ("allow_abandon", orElse (.bool true) truth),
      ("abandon_keywords", orNothing (list text)), ("abandon_message", optionalText),
      ("fallback_message", optionalText), ("human_contact", optionalText)]

/-- Credentials, in one of three forms. -/
def credentials : Schema :=
  forms [form "type" "bearer" ["token"] [("token", text), ("header", optionalText)],
    form "type" "api_key" ["key", "name"] [("key", text), ("name", text),
      ("location", orElse (.text "header") (named "KeyLocation"))],
    form "type" "basic" ["username", "password"] [("username", text), ("password", text)]]

/-- Back ends. -/
def api : Schema :=
  described "An external REST back-end that action nodes call into." <|
    record ["id", "base_url"] [("id", text), ("base_url", text), ("headers", map text),
      ("auth", orNothing (named "ApiAuth")), ("timeout_ms", orNothing (natural 64)),
      ("max_attempts", orNothing (natural 32))]

/-- The kinds of nodes. -/
def kind : Schema :=
  described "Closed set of node kinds; the executor table is keyed by this tag." <|
    oneOf ([Kind.trigger, .input, .confirmation, .message, .action, .router, .model].map Kind.name)

/-- Nodes. -/
def node : Schema :=
  record ["id", "kind"] [("id", text), ("kind", named "KindTag"), ("config", any),
    ("template", optionalText), ("edges", list (named "Edge"))]

/-- Flows. -/
def flow : Schema :=
  document "Flow" [("ApiAuth", credentials), ("ApiConfig", api), ("Edge", edge),
      ("FlowSettings", flowSettings), ("KeyLocation", oneOf ["header", "query"]),
      ("KindTag", kind), ("NodeConfig", node), ("TriggerMode", oneOf ["keyword", "always"]),
      ("Triggers", triggers)] <|
    described "A tenant's conversation graph. Immutable once registered; replaced whole." <|
      record ["tenant_id", "id", "name", "entry_node", "nodes"] [("tenant_id", text), ("id", text),
        ("name", text), ("version", orElse (.int 1) (natural 32)),
        ("active", orElse (.bool true) truth), ("entry_node", text),
        ("triggers", orElse (.record [("keywords", .list []), ("mode", .text "keyword"),
          ("priority", .int 0)]) (named "Triggers")),
        ("variables", map any), ("apis", list (named "ApiConfig")),
        ("settings", orElse (.single "allow_abandon" (.bool true)) (named "FlowSettings")),
        ("nodes", list (named "NodeConfig"))]

end Dialogue.Schema

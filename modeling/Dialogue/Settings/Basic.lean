import Dialogue.Call.Attempt
import Dialogue.Config.Source
import Dialogue.Number.Reading
import Dialogue.Session.Basic

/-!
# Settings

What holds for all flows, unless a flow settles it for itself. Settings are taken from a source of
configuration; what is missing there or cannot be read is as usual.

The capacity is meant for stores that drop sessions when they have too many. The store of an engine
here keeps all sessions, so it is read and shown and bounds nothing.
-/

namespace Dialogue

/-- What holds for all flows. -/
structure Settings where
  maxSteps : Nat
  window : Nat
  idle : Span
  sweepInterval : Span
  capacity : Nat
  httpTimeout : Span
  httpAttempts : Nat
  backoff : Span
  fallbackMessage : String
  humanContact : Option String
  abandonKeywords : List String
  abandonMessage : String
  modelUrl : String
  modelKey : Option String
  modelName : String
  modelTimeout : Span
  deriving DecidableEq, Repr

namespace Settings

/-- What is usual. -/
def usual : Settings where
  maxSteps := 50
  window := 20
  idle := .ofSeconds (30 * 60)
  sweepInterval := .ofSeconds 600
  capacity := 100000
  httpTimeout := .ofMillis 30000
  httpAttempts := 3
  backoff := .ofMillis 1000
  fallbackMessage := "Lo siento, tuvimos un problema procesando tu mensaje."
  humanContact := none
  abandonKeywords := ["cancelar", "salir", "cancel", "exit"]
  abandonMessage := "Conversación cancelada. Escríbenos cuando quieras."
  modelUrl := "https://api.openai.com/v1"
  modelKey := none
  modelName := "gpt-4o-mini"
  modelTimeout := .ofMillis 30000

instance : Inhabited Settings := ⟨usual⟩

/-- How calls to back ends are attempted, unless a back end or a node settles it. -/
def httpPolicy (s : Settings) : Policy := ⟨s.httpAttempts, s.backoff, s.httpTimeout⟩

/-- How calls to models are attempted. -/
def modelPolicy (s : Settings) : Policy := ⟨s.httpAttempts, s.backoff, s.modelTimeout⟩

/-- The items of a list with commas, without blank ones. -/
def listed (text : String) : List String :=
  ((Text.pieces (· == ',') text.toList).map Text.trim).filterMap fun item =>
    if item = [] then none else some (String.ofList item)

/-- The names of the settings in a source of configuration. -/
def names : List String :=
  ["FLOWBOT_MAX_STEPS", "FLOWBOT_HISTORY_WINDOW", "FLOWBOT_IDLE_TIMEOUT_MINS",
    "FLOWBOT_SWEEP_INTERVAL_SECS", "FLOWBOT_SESSION_CAPACITY", "FLOWBOT_HTTP_TIMEOUT_MS",
    "FLOWBOT_HTTP_ATTEMPTS", "FLOWBOT_BACKOFF_MS", "FLOWBOT_FALLBACK_MESSAGE",
    "FLOWBOT_HUMAN_CONTACT", "FLOWBOT_ABANDON_KEYWORDS", "FLOWBOT_ABANDON_MESSAGE", "OPENAI_URL",
    "OPENAI_KEY", "OPENAI_MODEL", "FLOWBOT_LLM_TIMEOUT_MS"]

/-- The settings in a source of configuration. -/
def ofSource (source : Source) : Settings :=
  let natural (name : String) (default : Nat) : Nat := source.getOr name naturalOf? default
  let text (name default : String) : String := (source.get? name).getD default
  { maxSteps := natural "FLOWBOT_MAX_STEPS" usual.maxSteps
    window := natural "FLOWBOT_HISTORY_WINDOW" usual.window
    idle := idleMinutes (natural "FLOWBOT_IDLE_TIMEOUT_MINS" 30)
    sweepInterval := .ofSeconds (max (natural "FLOWBOT_SWEEP_INTERVAL_SECS" 600) 1)
    capacity := natural "FLOWBOT_SESSION_CAPACITY" usual.capacity
    httpTimeout := .ofMillis (natural "FLOWBOT_HTTP_TIMEOUT_MS" 30000)
    httpAttempts := source.getOr "FLOWBOT_HTTP_ATTEMPTS" (naturalBelow? (twoTo 32)) usual.httpAttempts
    backoff := .ofMillis (natural "FLOWBOT_BACKOFF_MS" 1000)
    fallbackMessage := text "FLOWBOT_FALLBACK_MESSAGE" usual.fallbackMessage
    humanContact := source.get? "FLOWBOT_HUMAN_CONTACT"
    abandonKeywords := ((source.get? "FLOWBOT_ABANDON_KEYWORDS").map listed).getD
      usual.abandonKeywords
    abandonMessage := text "FLOWBOT_ABANDON_MESSAGE" usual.abandonMessage
    modelUrl := text "OPENAI_URL" usual.modelUrl
    modelKey := source.get? "OPENAI_KEY"
    modelName := text "OPENAI_MODEL" usual.modelName
    modelTimeout := .ofMillis (natural "FLOWBOT_LLM_TIMEOUT_MS" 30000) }

end Settings

end Dialogue

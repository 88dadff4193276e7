import Dialogue.Chat.Request
import Dialogue.Flow.Basic
import Dialogue.Template.Render
import Dialogue.Value.Path

/-!
# What models are told

The system message of a conversational model is its persona, followed by what it may know and what it
has still to ask for. Extractors and classifiers get one fixed text with their fields or labels.
-/

namespace Dialogue

/-- The persona of a model that has none of its own. -/
def usualPersona : String := "You are a friendly assistant for this business. Answer briefly."

/-- What is said when a reply could not be used and the node says nothing else. -/
def usualReprompt : String := "Sorry, I did not get that. Could you say it again?"

/-- A field in a list of what is asked for. -/
def FieldSpec.describe (f : FieldSpec) : String :=
  "- " ++ f.name ++ " (" ++ f.type.name ++ ", " ++ (if f.required then "required" else "optional")
    ++ ")"
    ++ (match f.description with
      | some d => ": " ++ d
      | none => "")
    ++ (if f.examples.isEmpty then "" else ". Examples: " ++ String.intercalate ", " f.examples)

/-- Each text on a line of its own, after a new line. -/
def onLines (texts : List String) : String := String.join (texts.map fun t => "\n" ++ t)

namespace Knowledge

/-- A section of what a model is given to know. -/
def written (scope : Value) (k : Knowledge) : String :=
  "\n\n## " ++ k.title ++ "\n" ++ renderTemplate scope k.content
    ++ (if k.keywords.isEmpty then "" else "\nKeywords: " ++ String.intercalate ", " k.keywords)

end Knowledge

namespace Model

/-- The fields of a list that have no value yet. -/
def missing (scope : Value) (fields : List FieldSpec) : List FieldSpec :=
  fields.filter fun f => !((Value.lookup scope f.name.toList).any Value.isPresent)

/-- The section on what is still to be asked for. -/
def collecting (scope : Value) (m : Model) : String :=
  if m.collect.isEmpty then ""
  else
    let left := missing scope m.collect
    "\n\n## Information to collect"
      ++ (if left.isEmpty then "\nEverything has been collected." else "")
      ++ onLines (left.map FieldSpec.describe) ++ "\nAsk for one missing item at a time."

/-- The system message of a conversational model. -/
def systemPrompt (scope : Value) (m : Model) : String :=
  ((m.persona.map (renderTemplate scope)).getD usualPersona)
    ++ String.join (m.knowledge.map (Knowledge.written scope))
    ++ m.collecting scope
    ++ (match m.completionToken with
      | some token => "\nWhen every required item is known, end your reply with " ++ token ++ "."
      | none => "")

/-- The system message of an extractor. -/
def extractorPrompt (m : Model) : String :=
  "Extract the following fields from the user's message." ++ onLines (m.fields.map FieldSpec.describe)
    ++ "\nReply with a single JSON object and nothing else. Use null for anything not mentioned."

/-- The system message of a classifier. -/
def classifierPrompt (m : Model) : String :=
  "Classify the user's message into exactly one of these labels: "
    ++ String.intercalate ", " m.labels
    ++ ".\nReply with JSON only: \x7b\"label\": \"<label>\", \"confidence\": <number between 0 and 1>\x7d"

end Model

end Dialogue

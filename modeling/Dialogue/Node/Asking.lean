import Dialogue.Chat.Prompt
import Dialogue.Chat.Reply
import Dialogue.Node.Visit

/-!
# Nodes that ask a model

A conversational model sees the whole conversation, extractors and classifiers see one message. What
they reply becomes outputs.
-/

namespace Dialogue

open Text

/-- The speaker that a model takes a side for. -/
def Party.speaker : Party → Speaker
  | .contact => .user
  | .bot => .assistant

namespace Model

/-- The outcome when the model could not be asked. -/
def failed (m : Model) (f : CallFault) : NodeResult :=
  match m.onError with
  | some target => .ok ((Outcome.goto target).set "error" (.text f.message) false)
  | none => .error (.call f)

/-- Asks the model, and goes on with the text of its reply. -/
def askFor (m : Model) (messages : List ChatMessage) (temperature : Option Binary64)
    (wantsRecord : Bool) (resume : String → NodeResult) : Visit :=
  .ask ⟨m.model, messages, temperature, m.maxTokens, wantsRecord⟩ fun
    | .ok reply => resume reply.text
    | .error f => m.failed f

/-- What an extractor or classifier works on: the new message, or else the last one remembered. -/
def subject? (c : Context) : Option String := c.inbound.or c.session.lastMessage?

/-- The conversation as far as it is remembered. -/
def remembered (c : Context) : List ChatMessage :=
  c.session.history.map fun u => .of u.party.speaker u.text

/-- The messages to a conversational model. The new message is added unless it stands last. -/
def transcript (m : Model) (c : Context) : List ChatMessage :=
  let messages := .of .system (m.systemPrompt c.scope) :: remembered c
  match c.inbound with
  | none => messages
  | some text =>
    if messages.getLast? = some (.of .user text) then messages else messages ++ [.of .user text]

/-- A text without the white space around it. -/
def trimmed (text : String) : String := String.ofList (trim text.toList)

/-- What becomes of the reply of a conversational model. The node is left when there is no token for
completion, or when the token occurs; it is not shown. -/
def converse (m : Model) (reply : String) : Outcome :=
  let output := m.output.getD "reply"
  match m.completionToken.filter (· != "") with
  | none => (Outcome.follow.set output (.text (trimmed reply)) m.isGlobal).say (trimmed reply)
  | some token =>
    if occurs token.toList reply.toList then
      let cleaned := String.ofList (trim (replaceAll token.toList [] reply.toList))
      (Outcome.follow.set output (.text cleaned) m.isGlobal).say cleaned
    else (Outcome.wait (trimmed reply)).set output (.text (trimmed reply)) m.isGlobal

/-- What is said when a message is missing or a reply cannot be used. -/
def repromptText (m : Model) (c : Context) : String := (m.reprompt.map c.render).getD usualReprompt

/-- What becomes of the reply of an extractor. -/
def extract (m : Model) (c : Context) (n : Node) (reply : String) : NodeResult :=
  match Reply.fields m.fields reply with
  | .ok values =>
    let o := match m.output with
      | some name => Outcome.follow.set name (.record values) false
      | none => Outcome.follow
    .ok (o.setAll values m.isGlobal)
  | .error _ => n.refuse c m.maxAttempts m.onError (m.repromptText c)

/-- What becomes of the reply of a classifier. -/
def classify (m : Model) (reply : String) : Outcome :=
  let output := m.output.getD "intent"
  let (label, confidence) := match Reply.label? m.labels reply with
    | some (label, confidence) => (some label, confidence)
    | none => (m.defaultLabel, none)
  (Outcome.follow.set (output ++ "_confidence") ((confidence.map Value.ofNumber).getD .null)
    m.isGlobal).set output ((label.map Value.text).getD .null) m.isGlobal

/-- How freely an extractor or classifier replies: not at all, unless it is set. -/
def strictTemperature (m : Model) : Option Binary64 := some (m.temperature.getD (.ofInt 0))

/-- Asks the model in its role. A node with a text of its own says it before anything else. -/
def visit (m : Model) (c : Context) (n : Node) : Visit :=
  let asksFirst := c.inbound.isNone && n.template.isSome
  match m.role with
  | .conversational =>
    if asksFirst then .ok (.wait (n.prompt c.scope))
    else m.askFor (m.transcript c) m.temperature false fun reply => .ok (m.converse reply)
  | .extractor =>
    if asksFirst then .ok (.wait (n.prompt c.scope))
    else
      match subject? c with
      | none => .ok (.wait (m.repromptText c))
      | some text =>
        m.askFor [.of .system m.extractorPrompt, .of .user text] m.strictTemperature true
          (m.extract c n)
  | .classifier =>
    m.askFor [.of .system m.classifierPrompt, .of .user ((subject? c).getD "")]
      m.strictTemperature true fun reply => .ok (m.classify reply)

end Model

end Dialogue

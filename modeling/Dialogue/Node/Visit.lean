import Dialogue.Call.Request
import Dialogue.Chat.Request
import Dialogue.Node.Outcome
import Dialogue.Session.Basic
import Dialogue.Settings.Basic
import Dialogue.Template.Render

/-!
# Visits to nodes

A visit is what happens when the conversation comes to a node: it is over at once, or one call to a
partner has to be made first, to a back end or to a model. What is done with the reply is part of the
visit, so that a visit says all that a node does without any call being made.

* `Visit.run_done`: a visit that is over at once needs no partners.
-/

namespace Dialogue

/-- What a node may know when it is visited. The text of the contact is known only to the node that
was waiting for it. -/
structure Context where
  session : Session
  flow : Flow
  inbound : Option String
  settings : Settings

namespace Context

/-- The values that the node sees. -/
def scope (c : Context) : Value := c.session.scope c.flow.constants

/-- A text filled in with the values that the node sees. -/
def render (c : Context) (text : String) : String := renderTemplate c.scope text

end Context

/-- The text of a node filled in with values, empty when it has none. -/
def Node.prompt (n : Node) (scope : Value) : String := (n.template.map (renderTemplate scope)).getD ""

/-- What comes of visiting a node. -/
inductive Visit where
  | done (result : NodeResult)
  | call (c : ActionCall) (resume : Except CallFault ActionReply → NodeResult)
  | ask (r : ModelRequest) (resume : Except CallFault ModelReply → NodeResult)

/-- What is asked of a partner. -/
inductive PartnerRequest where
  | call (c : ActionCall)
  | ask (r : ModelRequest)
  deriving DecidableEq, Repr

/-- The back ends and the model, whatever they do. Their state is of any type; a reply may depend on
everything that was asked before. -/
structure Partners (σ : Type) where
  call : ActionCall → σ → Except CallFault ActionReply × σ
  ask : ModelRequest → σ → Except CallFault ModelReply × σ

namespace Visit

variable {σ : Type}

/-- An outcome without any fault. -/
def ok (o : Outcome) : Visit := done (.ok o)

/-- A fault. -/
def fault (f : NodeFault) : Visit := done (.error f)

/-- What a visit asks of a partner. -/
def request? : Visit → Option PartnerRequest
  | done _ => none
  | call c _ => some (.call c)
  | ask r _ => some (.ask r)

/-- Makes the call of a visit. -/
def run (p : Partners σ) (world : σ) : Visit → NodeResult × σ
  | done result => (result, world)
  | call c resume =>
    let (reply, world) := p.call c world
    (resume reply, world)
  | ask r resume =>
    let (reply, world) := p.ask r world
    (resume reply, world)

@[simp] theorem run_done (p : Partners σ) (world : σ) (result : NodeResult) :
    (done result).run p world = (result, world) := rfl

end Visit

/-- Refuses an answer: as long as attempts remain the node asks again, after that it gives up. -/
def Node.refuse (n : Node) (c : Context) (maxAttempts : Nat) (fallback : Option String)
    (complaint : String) : NodeResult :=
  let used := c.session.refused n.id + 1
  if max maxAttempts 1 ≤ used then
    match fallback with
    | some target => .ok (.goto target)
    | none => .error (.exhausted n.id)
  else
    let counted := " (attempt " ++ toString (used + 1) ++ "/" ++ toString maxAttempts ++ ")"
    .ok (((Outcome.wait (complaint ++ counted)).say (n.prompt c.scope)).withRefused used)

end Dialogue

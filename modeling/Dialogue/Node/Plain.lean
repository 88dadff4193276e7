import Dialogue.Answer.Accept
import Dialogue.Flow.Choice
import Dialogue.Node.Visit

/-!
# Nodes that talk to the contact only

Triggers and messages say something and go on, routers choose an edge, questions and confirmations
wait for a reply and examine it.
-/

namespace Dialogue

/-- Says the text of a node and goes on. -/
def Node.pass (n : Node) (c : Context) : Outcome := Outcome.follow.say (n.prompt c.scope)

/-- Says a message; the turn may end there. -/
def Announcement.visit (m : Announcement) (c : Context) (n : Node) : NodeResult :=
  .ok { n.pass c with awaiting := m.awaitReply }

/-- Takes the first open edge, or else the default. -/
def Router.visit (r : Router) (c : Context) (n : Node) : NodeResult :=
  match ((Edge.choose c.scope n.edges).map (·.target)).or r.default with
  | some target => .ok ((Outcome.goto target).say (n.prompt c.scope))
  | none => .error (.defect (.deadEnd n.id))

/-- The complaint about a refused answer. -/
def Refusal.complaint (r : Refusal) (c : Context) (errorMessage : Option String) : String :=
  (errorMessage.map c.render).getD (Text.capitalize r.message)

/-- Asks for an answer, or examines it when it is there. -/
def Question.visit (q : Question) (c : Context) (n : Node) : NodeResult :=
  match c.inbound with
  | none => .ok (.wait (n.prompt c.scope))
  | some reply =>
    match q.accept reply with
    | .ok value => .ok (Outcome.follow.set q.variableName value q.isGlobal)
    | .error refusal =>
      n.refuse c q.maxAttempts q.fallback (refusal.complaint c q.errorMessage)

/-- Asks for yes or no, or examines the reply when it is there. -/
def Confirmation.visit (q : Confirmation) (c : Context) (n : Node) : NodeResult :=
  match c.inbound with
  | none => .ok (.wait (n.prompt c.scope))
  | some reply =>
    match consent? reply with
    | some agrees =>
      let target := if agrees then q.onYes else q.onNo
      .ok ((Outcome.gotoOr target).set q.variableName (.bool agrees) q.isGlobal)
    | none =>
      n.refuse c q.maxAttempts q.fallback (Refusal.neitherYesNorNo.complaint c q.errorMessage)

end Dialogue

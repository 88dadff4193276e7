import Dialogue.Node.Asking
import Dialogue.Node.Calling
import Dialogue.Node.Plain

/-!
# Who handles which nodes

Each kind of nodes has a handler. A handler that meets a node of another kind refuses it, except that
of triggers, which passes on whatever it meets.

* `Handlers.usual_visit`: a node is handled by the handler of its own kind.
-/

namespace Dialogue

/-- What visits nodes. -/
abbrev Handler := Context → Node → Visit

namespace Handler

/-- A node of a kind other than expected. -/
def mismatch (expected : Kind) (n : Node) : Visit :=
  .fault (.defect (.badSettings n.id
    ("expected a " ++ expected.name ++ " node, found " ++ n.kind.name)))

/-- The handler of a kind of nodes. -/
def of (kind : Kind) : Handler := fun c n =>
  match kind, n.task with
  | .trigger, _ => .ok (n.pass c)
  | .input, .input q => .done (q.visit c n)
  | .confirmation, .confirmation q => .done (q.visit c n)
  | .message, .message m => .done (m.visit c n)
  | .action, .action a => a.visit c n
  | .router, .router r => .done (r.visit c n)
  | .model, .model m => m.visit c n
  | expected, _ => mismatch expected n

/-- A handler that does the same with each node. -/
def always (o : Outcome) : Handler := fun _ _ => .ok o

end Handler

/-- The handlers of all kinds. -/
abbrev Handlers := Kind → Handler

namespace Handlers

/-- Each kind with its own handler. -/
def usual : Handlers := Handler.of

/-- Visits a node. -/
def visit (hs : Handlers) (c : Context) (n : Node) : Visit := hs n.kind c n

/-- Puts another handler in place of that of a kind. -/
def replace (hs : Handlers) (kind : Kind) (h : Handler) : Handlers := fun k =>
  if k = kind then h else hs k

/-- A node is never refused by the handler of its own kind. -/
theorem usual_visit (c : Context) (n : Node) :
    usual.visit c n = match n.task with
      | .trigger => .ok (n.pass c)
      | .input q => .done (q.visit c n)
      | .confirmation q => .done (q.visit c n)
      | .message m => .done (m.visit c n)
      | .action a => a.visit c n
      | .router r => .done (r.visit c n)
      | .model m => m.visit c n := by
  unfold visit usual Node.kind Task.kind Handler.of
  cases n.task <;> rfl

end Handlers

end Dialogue

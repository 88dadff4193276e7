import Dialogue.Guard.Reader
import Dialogue.Flow.Basic

/-!
# Choosing an edge

Of the edges of a node the first one that is open is taken. An edge without a guard, or with a blank
one, is always open.

* `choose_eq_none`: there is no choice exactly when no edge is open.
-/

namespace Dialogue

namespace Edge

/-- The guard of an edge as it is written, when there is one that is not blank. -/
def guard? (e : Edge) : Option String :=
  e.condition.filter fun c => Text.trim c.toList ≠ []

/-- Whether an edge may be taken under a scope. -/
def isOpen (scope : Value) (e : Edge) : Bool :=
  match e.guard? with
  | none => true
  | some written => Guard.holdsWritten scope written

/-- The first open edge. -/
def choose (scope : Value) (edges : List Edge) : Option Edge := edges.find? (·.isOpen scope)

/-- There is no choice exactly when no edge is open. -/
theorem choose_eq_none {scope : Value} {edges : List Edge} :
    choose scope edges = none ↔ ∀ e ∈ edges, e.isOpen scope = false := by
  simp [choose]

end Edge

end Dialogue

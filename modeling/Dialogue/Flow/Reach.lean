import Dialogue.Flow.Basic

/-!
# Reachability

From a vertex the arcs of a graph lead to others. `Graph.explore` gathers what can be reached, each
vertex once; `Graph.Reaches` says what that is.

* `Reaches.trans`: what is reachable from a reachable vertex is reachable.
-/

namespace Dialogue.Graph

/-- Where the arcs from a vertex lead. -/
def successors (g : Graph) (v : String) : List String :=
  (g.arcs.filter (·.source == v)).map (·.target)

/-- A vertex reaches itself and whatever its successors reach. -/
inductive Reaches (g : Graph) : String → String → Prop where
  | refl (v : String) : Reaches g v v
  | step {u v w : String} : v ∈ g.successors u → Reaches g v w → Reaches g u w

/-- What is reachable from a reachable vertex is reachable. -/
theorem Reaches.trans {g : Graph} {u v w : String} (h : g.Reaches u v) (k : g.Reaches v w) :
    g.Reaches u w := by
  induction h with
  | refl => exact k
  | step hm _ ih => exact .step hm (ih k)

/-- Explores from the vertices of a list; `seen` holds those explored before. -/
def exploreFrom (g : Graph) : (fuel : Nat) → (seen todo : List String) → List String
  | 0, seen, _ => seen
  | _ + 1, seen, [] => seen
  | fuel + 1, seen, v :: todo =>
    if seen.contains v then exploreFrom g fuel seen todo
    else exploreFrom g fuel (v :: seen) (g.successors v ++ todo)

/-- The vertices that can be reached from those of a list. Every arc is followed at most once. -/
def explore (g : Graph) (starts : List String) : List String :=
  exploreFrom g (starts.length + g.arcs.length + 1) [] starts

/-- Whether a vertex can be reached from itself along at least one arc. -/
def isOnCycle (g : Graph) (v : String) : Bool := (explore g (g.successors v)).contains v

/-- Whether the graph has a cycle. -/
def isCyclic (g : Graph) : Bool := g.vertices.any g.isOnCycle

/-- The vertices that no arc leads to. -/
def roots (g : Graph) : List String :=
  g.vertices.filter fun v => !g.arcs.any (·.target == v)

end Dialogue.Graph

import Dialogue.Node.Handler

/-!
# Walks through a flow

Within a turn the conversation walks from node to node until a node waits for a reply, the flow is
complete or something fails. Only the node that was waiting sees the text of the contact. A walk takes
a limited number of steps; the trail remembers the nodes visited, with what each of them knew.

* `walkFrom_zero`, `walkFrom_succ`: a walk is its first step and what follows.
-/

namespace Dialogue

/-- Adds what a node has produced, said and refused to a session. -/
def Session.apply (s : Session) (node : String) (o : Outcome) (now : Moment) : Session :=
  let s := if o.outputs.isEmpty then s else s.merge node o.outputs o.exports
  o.messages.foldl (fun s m => s.say .bot m now) (s.setRefused node o.refused)

/-- A visited node, with what it knew and what it asked of a partner. -/
structure Stop where
  context : Context
  node : Node
  request : Option PartnerRequest

/-- How a walk has ended. -/
inductive WalkEnd where
  | awaiting
  | completed
  | failed (fault : NodeFault)
  deriving DecidableEq, Repr

/-- Where a walk stands. The text of the contact is there until a node has seen it. -/
structure Walk (σ : Type) where
  session : Session
  inbound : Option String
  messages : List String
  steps : Nat
  trail : List Stop
  world : σ

/-- What does not change during a walk. -/
structure Setting (σ : Type) where
  flow : Flow
  settings : Settings
  handlers : Handlers
  partners : Partners σ
  now : Moment

/-- A step of a walk ends it or leads on. -/
inductive Progress (σ : Type) where
  | ended (how : WalkEnd) (w : Walk σ)
  | onward (w : Walk σ)

namespace Setting

variable {σ : Type}

/-- What the current node knows. -/
def context (e : Setting σ) (w : Walk σ) : Context := ⟨w.session, e.flow, w.inbound, e.settings⟩

/-- Goes on to a node, where the turn may end. -/
def goTo (e : Setting σ) (target : String) (awaiting : Bool) (w : Walk σ) : Progress σ :=
  if (e.flow.node? target).isNone then .ended (.failed (.defect (.unknownNode target))) w
  else
    let w := { w with session := { w.session with current := target, awaiting } }
    if awaiting then .ended .awaiting w else .onward w

/-- Goes where an outcome leads. -/
def proceed (e : Setting σ) (n : Node) (o : Outcome) (w : Walk σ) : Progress σ :=
  match o.next with
  | .stay => .ended .awaiting { w with session := { w.session with awaiting := true } }
  | .finish => .ended .completed w
  | .node target => e.goTo target o.awaiting w
  | .edges =>
    match Edge.choose (w.session.scope e.flow.constants) n.edges with
    | some edge => e.goTo edge.target o.awaiting w
    | none => .ended .completed w

/-- Visits the current node and goes where its outcome leads. -/
def step (e : Setting σ) (w : Walk σ) : Progress σ :=
  let w := { w with steps := w.steps + 1 }
  match e.flow.node? w.session.current with
  | none => .ended (.failed (.defect (.unknownNode w.session.current))) w
  | some n =>
    let visit := e.handlers.visit (e.context w) n
    let (result, world) := visit.run e.partners w.world
    let trail := w.trail ++ [⟨e.context w, n, visit.request?⟩]
    match result with
    | .error f => .ended (.failed f) { w with inbound := none, trail, world }
    | .ok o =>
      e.proceed n o
        { w with
          session := w.session.apply n.id o e.now
          inbound := none
          messages := w.messages ++ o.messages
          trail, world }

/-- Walks at most so many steps. -/
def walkFrom (e : Setting σ) : (left : Nat) → Walk σ → WalkEnd × Walk σ
  | 0, w => (.failed (.defect (.tooManySteps e.settings.maxSteps)), w)
  | left + 1, w =>
    match e.step w with
    | .ended how w => (how, w)
    | .onward w => walkFrom e left w

/-- Walks from the current node of a session, which may be waiting for the text of the contact. -/
def walk (e : Setting σ) (s : Session) (text : String) (world : σ) : WalkEnd × Walk σ :=
  e.walkFrom e.settings.maxSteps
    { session := s, inbound := if s.awaiting then some text else none, messages := [], steps := 0,
      trail := [], world }

theorem walkFrom_zero (e : Setting σ) (w : Walk σ) :
    e.walkFrom 0 w = (.failed (.defect (.tooManySteps e.settings.maxSteps)), w) := rfl

theorem walkFrom_succ (e : Setting σ) (left : Nat) (w : Walk σ) :
    e.walkFrom (left + 1) w = match e.step w with
      | .ended how w => (how, w)
      | .onward w => e.walkFrom left w := rfl

end Setting

end Dialogue

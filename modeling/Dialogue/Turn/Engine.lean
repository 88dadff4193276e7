import Dialogue.Flow.Registry
import Dialogue.Session.Store
import Dialogue.Turn.Message
import Dialogue.Turn.Walk

/-!
# Turns

An engine holds the registered flows and the sessions. A message of a contact resumes the session of
the contact, or sets off a flow; the walk through the flow makes up the reply. The session is kept
when a node waits for a reply and is removed otherwise.

* `Turn.report`: a report names the contact, the flow, the steps and the ending.
-/

namespace Dialogue

/-- The flows and sessions of all tenants, with what holds for all of them. -/
structure Engine where
  registry : Registry
  sessions : Sessions
  settings : Settings
  handlers : Handlers

/-- A handled turn: the reply, the engine and the partners afterwards, and how the walk went. -/
structure Turn (σ : Type) where
  reply : TurnReply
  engine : Engine
  world : σ
  steps : Nat
  trail : List Stop

namespace Engine

variable {σ : Type}

/-- An engine without flows and sessions. Its store keeps every session until it is removed, whatever
capacity is settled. -/
def ofSettings (settings : Settings) : Engine :=
  ⟨[], Sessions.empty settings.window settings.idle, settings, Handlers.usual⟩

/-- Whether a text gives up a conversation in a flow. -/
def givesUp (e : Engine) (f : Flow) (text : String) : Bool :=
  f.settings.allowAbandon &&
    (f.settings.abandonKeywords.getD e.settings.abandonKeywords).any fun k =>
      Text.normalize k == Text.normalize text

/-- Removes the session of a contact. -/
def forget (e : Engine) (m : Inbound) : Engine :=
  { e with sessions := e.sessions.delete m.tenant m.contact }

/-- The live session of a contact with its flow. A session that is idle, or whose flow is gone, is
removed. -/
def resume (e : Engine) (m : Inbound) (now : Moment) : Option (Flow × Session) × Engine :=
  let (loaded, sessions) := e.sessions.load m.tenant m.contact now
  let e := { e with sessions }
  match loaded with
  | .ok (some s) =>
    match e.registry.flow? m.tenant s.flow with
    | some f => (some (f, s), e)
    | none => (none, e.forget m)
  | _ => (none, e)

/-- A new session in the flow that a message sets off; `id` is the name of the session. -/
def begin (e : Engine) (m : Inbound) (now : Moment) (id : String) :
    Option (Flow × Session) × Engine :=
  match e.registry.select m.tenant m.text with
  | none => (none, e)
  | some f =>
    let (s, sessions) := e.sessions.openSession id m.tenant m.contact f now
    (some (f, s), { e with sessions })

/-- What is said when a turn has failed. -/
def apology (e : Engine) (f : Flow) : List String :=
  f.settings.fallbackMessage.getD e.settings.fallbackMessage ::
    (f.settings.humanContact.or e.settings.humanContact).toList

/-- The turn of a contact who gives up a conversation. -/
def abandon (e : Engine) (f : Flow) (m : Inbound) (world : σ) : Turn σ :=
  { reply := ⟨[f.settings.abandonMessage.getD e.settings.abandonMessage], false, some f.id, none,
      .abandoned⟩
    engine := e.forget m, world, steps := 0, trail := [] }

/-- The turn that a walk makes. -/
def conclude (e : Engine) (f : Flow) (m : Inbound) : WalkEnd × Walk σ → Turn σ
  | (.awaiting, w) =>
    { reply := ⟨w.messages, true, some f.id, some w.session.current, .awaiting⟩
      engine := { e with sessions := e.sessions.save w.session }
      world := w.world, steps := w.steps, trail := w.trail }
  | (.completed, w) =>
    { reply := ⟨w.messages, false, some f.id, none, .completed⟩
      engine := e.forget m, world := w.world, steps := w.steps, trail := w.trail }
  | (.failed fault, w) =>
    { reply := ⟨w.messages ++ e.apology f, false, some f.id, none, .failed fault.message⟩
      engine := e.forget m, world := w.world, steps := w.steps, trail := w.trail }

/-- Goes on with a conversation. -/
def converse (e : Engine) (p : Partners σ) (world : σ) (f : Flow) (s : Session) (m : Inbound)
    (now : Moment) : Turn σ :=
  let s := (s.say .contact m.text now).touch now
  e.conclude f m (Setting.walk ⟨f, e.settings, e.handlers, p, now⟩ s m.text world)

/-- Handles a message of a contact; `id` is the name of the session when a new one begins. -/
def handle (e : Engine) (p : Partners σ) (world : σ) (m : Inbound) (now : Moment) (id : String) :
    Turn σ :=
  match e.resume m now with
  | (some (f, s), e) =>
    if e.givesUp f m.text then e.abandon f m world else e.converse p world f s m now
  | (none, e) =>
    match e.begin m now id with
    | (some (f, s), e) => e.converse p world f s m now
    | (none, e) => { reply := .noFlow, engine := e, world, steps := 0, trail := [] }

end Engine

namespace Turn

variable {σ : Type}

/-- The report on a turn: whose it was, the flow, how many steps it took and how it ended. -/
def report (t : Turn σ) (m : Inbound) : Value :=
  .record [("contact", .text m.contact), ("flow", .text (t.reply.flow.getD "")),
    ("message", .text "turn handled"), ("outcome", .text t.reply.ending.name),
    ("steps", .int t.steps), ("tenant", .text m.tenant)]

end Turn

end Dialogue

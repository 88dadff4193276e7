import Dialogue.Config.Source
import Dialogue.Files.Tree
import Dialogue.Log.Setup
import Dialogue.Turn.Online

/-!
# Chats

A chat is a conversation of one contact with the flows of a tenant, line by line. What belongs to it is
kept below one root: settings in `.env`, flows in `flows`, logs in `logs`.
-/

namespace Dialogue

/-- A chat: who talks with whom, and how many lines were handled. -/
structure Chat where
  tenant : String
  contact : String
  engine : Engine
  network : Network
  handled : Nat

/-- Why there is no chat: nothing can be logged, there is no directory with flows, or the tenant has
no flows. -/
inductive ChatFault where
  | log (f : LogFault)
  | notDirectory
  | noFlows (tenant : String) (loaded : Nat)
  deriving DecidableEq, Repr

/-- The wording of a fault. -/
def ChatFault.message : ChatFault → String
  | log f => "Error: " ++ f.message
  | notDirectory => "Error: Not a directory (os error 20)"
  | noFlows tenant loaded =>
    "No flows for tenant `" ++ tenant ++ "` (" ++ toString loaded ++ " loaded in total)."

namespace Chat

/-- The logs of a chat. -/
def logs (root level : String) : LogSetup :=
  .below root "logs/flowbot.log" "logs/turns.json" level

/-- The settings of a chat. -/
def settings (t : FileTree) (environment : Fields String) (root : String) : Settings :=
  let path := Path.join root ".env"
  .ofSource (.ofFile environment path (t.read? path))

/-- Begins a chat. How many flows were loaded comes with it. -/
def begin (t : FileTree) (environment : Fields String) (root tenant contact level : String)
    (network : Network) : Except ChatFault (Nat × Chat) := do
  ((logs root level).check t).mapError .log
  let directory := Path.join root "flows"
  if !t.canMake directory then .error .notDirectory
  let engine := Engine.ofSettings (settings t environment root)
  let (loaded, registry) := engine.registry.loadFiles (t.within directory)
  if (registry.ofTenant tenant).isEmpty then .error (.noFlows tenant loaded)
  else .ok (loaded, ⟨tenant, contact, { engine with registry }, network, 0⟩)

/-- What is said at the beginning. -/
def greeting (c : Chat) (loaded : Nat) : String :=
  "Chatting with `" ++ c.tenant ++ "` as `" ++ c.contact ++ "`; " ++ toString loaded
    ++ " flow(s) loaded. Ctrl-C or end of input to quit."

/-- What is said at the end. -/
def farewell : List String := ["", "Shutting down…", "Goodbye!"]

/-- What is shown of a reply: its messages, and how the turn has ended if nothing is waited for. -/
def shown (r : TurnReply) : List String :=
  r.messages.map ("bot> " ++ ·) ++ if r.awaiting then [] else ["     [" ++ r.ending.name ++ "]"]

/-- The event in the log of reports. -/
def event (report : Value) : Value :=
  .record [("fields", report), ("level", .text "INFO"), ("target", .text "turn")]

/-- Handles a line: what is shown, the events in the log of reports, and the chat afterwards. -/
def hear (c : Chat) (now : Moment) (line : String) : List String × List Value × Chat :=
  if Text.trim line.toList = [] then ([], [], c)
  else
    let m : Inbound := ⟨c.tenant, c.contact, "cli", line⟩
    let turn := c.engine.handle c.engine.settings.partners c.network m now (toString c.handled)
    (shown turn.reply, [event (turn.report m)],
      { c with engine := turn.engine, network := turn.world, handled := c.handled + 1 })

/-- Handles lines, all at one moment. -/
def hearAll (c : Chat) (now : Moment) : List String → List String × List Value
  | [] => ([], [])
  | line :: lines =>
    let (shown, events, c) := c.hear now line
    let (more, later) := hearAll c now lines
    (shown ++ more, events ++ later)

end Chat

end Dialogue

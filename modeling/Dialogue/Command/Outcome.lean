import Dialogue.Command.Chat
import Dialogue.Command.Words
import Dialogue.Schema.Collection
import Dialogue.Value.Written

/-!
# What commands bring about

A command shows lines, complains in others, writes files and reports turns, and leaves a code, which is
zero when all went well. What a chat brings about also depends on what is typed.
-/

namespace Dialogue

/-- What a command brings about. -/
structure CommandOutcome where
  code : Nat
  shown : List String
  complaints : List String
  written : List (String × String)
  events : List Value

/-- Where a command works: the files that are there, the environment, the root below which everything
is kept, the network, the time, and the lines that are typed. -/
structure Surroundings where
  tree : FileTree
  environment : Fields String
  root : String
  network : Network
  now : Moment
  typed : List String

namespace CommandOutcome

/-- Lines are shown and all went well. -/
def success (shown : List String) : CommandOutcome := ⟨0, shown, [], [], []⟩

/-- A complaint, with the code of failure. -/
def failure (complaint : String) : CommandOutcome := ⟨1, [], [complaint], [], []⟩

/-- The name of the program and its version. -/
def versionLine : String := "flowbot 0.1.0"

/-- How the program is used. -/
def usage : List String :=
  ["Multi-tenant conversational flow engine", "",
    "Usage: flowbot chat --tenant <TENANT> [--contact <CONTACT>] [--log-level <LOG_LEVEL>]",
    "       flowbot schema", "       flowbot flow validate <FILE>"]

/-- Checks a flow file. -/
def validate (t : FileTree) (path : String) : CommandOutcome :=
  let checked := match t.read? path with
    | some contents => Flow.validateFile path (some contents)
    | none =>
      if t.isDirectory path then
        .error (.fault (.inaccessible "read error: Is a directory (os error 21)"))
      else Flow.validateFile path none
  match checked with
  | .ok report =>
    success (report.warnings.map (fun w => "⚠️  " ++ w.message) ++ ["✅ Flow file is valid."])
  | .error refusal => failure ("🛑 " ++ refusal.message)

/-- Writes the schemas. -/
def schema (t : FileTree) (root : String) : CommandOutcome :=
  let directory := Path.join root "schemas"
  if t.canMake directory then
    let names := String.intercalate ", " (Schema.collection.map (·.1))
    { success ["Schemas written to " ++ directory ++ ": " ++ names] with
      written := Schema.collection.map fun (name, s) => (Path.join directory name, s.pretty) }
  else failure "Error: Not a directory (os error 20)"

/-- Chats with the flows of a tenant. -/
def chat (s : Surroundings) (tenant contact level : String) : CommandOutcome :=
  match Chat.begin s.tree s.environment s.root tenant contact level s.network with
  | .error fault => failure fault.message
  | .ok (loaded, c) =>
    let (shown, events) := c.hearAll s.now s.typed
    { success (c.greeting loaded :: shown ++ Chat.farewell) with events }

/-- What a command brings about. -/
def ofCommand (s : Surroundings) : Command → CommandOutcome
  | .chat tenant contact level => chat s tenant contact level
  | .schema => schema s.tree s.root
  | .validate path => validate s.tree path

/-- What a command line brings about that asks for no command. -/
def ofReading : CommandLine → CommandOutcome
  | .help => success usage
  | .version => success [versionLine]
  | .misuse | .run _ => ⟨2, [], usage, [], []⟩

/-- What a command line brings about. -/
def ofLine (s : Surroundings) (words : List String) : CommandOutcome :=
  match CommandLine.read words with
  | .run c => ofCommand s c
  | line => ofReading line

end CommandOutcome

end Dialogue

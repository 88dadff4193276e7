import Dialogue.Command.Outcome
import Std.Time.DateTime.Timestamp

/-!
# The program

The program reads the files that a command needs, carries out the command and shows what it brings
about. A chat is held line by line. The program has no network of its own, so that back ends and models
cannot be reached from it.
-/

namespace Dialogue.Program

/-- The time. -/
def now : IO Moment := do
  let t ← Std.Time.Timestamp.now
  return ⟨t.val.second.val, t.val.nano.val.toNat⟩

/-- The file at a path with its contents, when there is one that can be read. -/
def file? (path : String) : IO (Option (String × String)) := do
  try return some (path, ← IO.FS.readFile path)
  catch _ => return none

/-- The names in a directory, none when there is no such directory. -/
def names (directory : String) : IO (List String) := do
  try
    let place ← IO.FS.realPath directory
    return (← place.readDir).toList.map (·.fileName)
  catch _ => return []

/-- The paths that a command reads, or that may be in its way. -/
def paths (root : String) : Command → IO (List String)
  | .validate path => return [path]
  | .schema => return [root, Path.join root "schemas"]
  | .chat .. => do
    let flows := Path.join root "flows"
    let inside := (← names flows).map (Path.join flows)
    return [root, flows, Path.join root "logs", Path.join root ".env"] ++ inside

/-- The files that a command needs. -/
def tree (root : String) (c : Command) : IO FileTree := do
  return ⟨Fields.ofList (← (← paths root c).filterMapM file?)⟩

/-- The settings in the environment. -/
def environment : IO (Fields String) := do
  let found ← Settings.names.filterMapM fun name => do
    return (← IO.getEnv name).map (name, ·)
  return Fields.ofList found

/-- Where commands work, before anything is typed. -/
def surroundings (root : String) (c : Command) : IO Surroundings := do
  return ⟨← tree root c, ← environment, root, .nowhere, ← now, []⟩

/-- Adds an event to the log of a day. -/
def note (log : String) (event : Value) : IO Unit := do
  let day := String.ofList ((← now).toText.toList.takeWhile (· != 'T'))
  let handle ← IO.FS.Handle.mk (log ++ "." ++ day) .append
  handle.putStrLn event.compact

/-- Talks until the input ends. -/
partial def converse (input : IO.FS.Stream) (log : String) (c : Chat) : IO Unit := do
  let line ← input.getLine
  if line.isEmpty then return
  let said := String.ofList ((Text.lines line.toList).headD [])
  let (shown, events, c) := c.hear (← now) said
  shown.forM fun text => IO.println text
  events.forM (note log)
  converse input log c

/-- Holds a chat. -/
def chat (s : Surroundings) (tenant contact level : String) : IO UInt32 := do
  match Chat.begin s.tree s.environment s.root tenant contact level s.network with
  | .error fault =>
    IO.eprintln fault.message
    return 1
  | .ok (loaded, c) =>
    let log := (Chat.logs s.root level).reportFile
    IO.FS.createDirAll ((Path.parent? log).getD ".")
    IO.println (c.greeting loaded)
    converse (← IO.getStdin) log c
    Chat.farewell.forM fun text => IO.println text
    return 0

/-- Shows what a command has brought about. -/
def present (o : CommandOutcome) : IO UInt32 := do
  for (path, contents) in o.written do
    IO.FS.createDirAll ((Path.parent? path).getD ".")
    IO.FS.writeFile path contents
  o.shown.forM fun text => IO.println text
  o.complaints.forM fun text => IO.eprintln text
  return UInt32.ofNat o.code

/-- Carries out a command line. -/
def run (words : List String) : IO UInt32 := do
  let root := (← IO.getEnv "FLOWBOT_ROOT").getD "./flowbot"
  match CommandLine.read words with
  | .run (.chat tenant contact level) =>
    chat (← surroundings root (.chat tenant contact level)) tenant contact level
  | .run c => present (CommandOutcome.ofCommand (← surroundings root c) c)
  | line => present (CommandOutcome.ofReading line)

end Dialogue.Program

/-- The command line. -/
def main (words : List String) : IO UInt32 := Dialogue.Program.run words

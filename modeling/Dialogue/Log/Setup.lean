import Dialogue.Files.Tree
import Dialogue.Log.Filter

/-!
# Where logs go

There are two logs, one for reading and one with a report on each turn. Before anything is logged the
level has to be a filter, and each log needs a name and a directory, the log for reading first.
-/

namespace Dialogue

/-- Where the logs go and how much is logged. -/
structure LogSetup where
  level : String
  logFile : String
  reportFile : String
  deriving DecidableEq, Repr

/-- Why nothing can be logged. -/
inductive LogFault where
  | badLevel (level : String)
  | noName (path : String)
  | noDirectory (path : String)
  deriving DecidableEq, Repr

/-- The wording of a fault. -/
def LogFault.message : LogFault → String
  | badLevel level => "invalid log level `" ++ level ++ "`"
  | noName path => "log path `" ++ path ++ "` has no file name"
  | noDirectory path => "could not create log directory `" ++ path ++ "`"

namespace LogSetup

/-- Logs in files below a root. -/
def below (root logFile reportFile level : String) : LogSetup :=
  ⟨level, Path.join root logFile, Path.join root reportFile⟩

/-- A log needs a name, and a directory that is there or can be made. -/
def checkFile (t : FileTree) (path : String) : Except LogFault Unit :=
  match Path.name? path with
  | none => .error (.noName path)
  | some _ =>
    let directory := (Path.parent? path).getD "."
    if t.canMake directory then .ok () else .error (.noDirectory directory)

/-- What both logs need. -/
def check (t : FileTree) (s : LogSetup) : Except LogFault Unit := do
  if (LogFilter.read s.level).isNone then .error (.badLevel s.level)
  checkFile t s.logFile
  checkFile t s.reportFile

end LogSetup

end Dialogue

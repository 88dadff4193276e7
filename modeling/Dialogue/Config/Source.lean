import Dialogue.Config.EnvFile

/-!
# Sources of configuration

A source gives values to names. One kind is a plain collection; the other is an environment that was
filled from a file, which follows its changes.
-/

namespace Dialogue

/-- A source of configuration. The file of an environment may not exist. -/
inductive Source where
  | entries (values : Fields String)
  | environment (values : Fields String) (path : String) (file : Option String)
  deriving DecidableEq, Repr

namespace Source

/-- The environment with the settings of a file. -/
def ofFile (values : Fields String) (path : String) (file : Option String) : Source :=
  match file with
  | some contents => environment (EnvFile.load values contents) path file
  | none => environment values path none

/-- All values. -/
def values : Source → Fields String
  | entries vs => vs
  | environment vs _ _ => vs

/-- The file that follows the changes, when there is one. -/
def file? : Source → Option String
  | entries _ => none
  | environment _ _ file => file

/-- The names that have values. -/
def names (s : Source) : List String := s.values.names

/-- The value of a name as it stands. -/
def raw? (s : Source) (name : String) : Option String := Fields.get? s.values name

/-- The value of a name, unless it is blank. -/
def get? (s : Source) (name : String) : Option String :=
  (s.raw? name).filter fun v => Text.trim v.toList ≠ []

/-- Gives a value to a name. -/
def put (s : Source) (name value : String) : Source :=
  match s with
  | entries vs => entries (Fields.insert name value vs)
  | environment vs path file =>
    environment (Fields.insert name value vs) path
      (some (EnvFile.update name (some value) (file.getD "")))

/-- Takes the value of a name away. -/
def remove (s : Source) (name : String) : Source :=
  match s with
  | entries vs => entries (Fields.erase vs name)
  | environment vs path file =>
    environment (Fields.erase vs name) path (file.map (EnvFile.update name none))

/-- The value of a name without the white space around it, as far as it can be read, or else a
default. -/
def getOr {α : Type} (s : Source) (name : String) (read : List Char → Option α) (default : α) : α :=
  match s.get? name with
  | some v => (read (Text.trim v.toList)).getD default
  | none => default

/-- A source in a few words. -/
def describe : Source → String
  | entries vs => "MapConfigManager(" ++ toString vs.length ++ " entries)"
  | environment _ path _ => "EnvConfigManager(" ++ path ++ ")"

end Source

/-- The truth value that a word stands for. -/
def truthOf? (cs : List Char) : Option Bool :=
  if cs = "true".toList then some true
  else if cs = "false".toList then some false
  else none

end Dialogue

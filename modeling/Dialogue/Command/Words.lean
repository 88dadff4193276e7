/-!
# The words of a command line

A command line asks for a command, for help or for the version, or it cannot be understood. Words are
read one after the other, and the first that settles what is asked for ends the reading.
-/

namespace Dialogue

/-- What can be done: to chat with the flows of a tenant, to write the schemas, or to check a flow
file. -/
inductive Command where
  | chat (tenant contact level : String)
  | schema
  | validate (path : String)
  deriving DecidableEq, Repr

/-- What a command line asks for. -/
inductive CommandLine where
  | run (c : Command)
  | help
  | version
  | misuse
  deriving DecidableEq, Repr

namespace CommandLine

/-- Whether a word is a value and no option; a single dash is a value. -/
def isValue (word : String) : Bool :=
  match word.toList with
  | '-' :: _ :: _ => false
  | _ => true

/-- Whether a word asks for help. -/
def asksHelp (word : String) : Bool :=
  match word.toList with
  | '-' :: 'h' :: _ => true
  | _ => word == "--help"

/-- Whether a word asks for the version. -/
def asksVersion (word : String) : Bool :=
  match word.toList with
  | '-' :: 'V' :: _ => true
  | _ => word == "--version"

/-- Help if a word asks for it. -/
def helpOrMisuse (word : String) : CommandLine := if asksHelp word then help else misuse

/-- Help on a topic: the words of a command. -/
def topic : List String → CommandLine
  | [] | ["chat"] | ["schema"] | ["help"] | ["flow"] | ["flow", "validate"] | ["flow", "help"] => help
  | _ => misuse

/-- The options of a chat. -/
structure ChatOptions where
  tenant : Option String
  contact : Option String
  level : Option String

namespace ChatOptions

/-- The chat with the options; a tenant is needed. -/
def done (o : ChatOptions) : CommandLine :=
  match o.tenant with
  | some tenant => run (.chat tenant (o.contact.getD "local") (o.level.getD "info"))
  | none => misuse

/-- Sets an option, which can be set once. -/
def set? (o : ChatOptions) (option value : String) : Option ChatOptions :=
  match option with
  | "--tenant" => if o.tenant.isSome then none else some { o with tenant := value }
  | "--contact" => if o.contact.isSome then none else some { o with contact := value }
  | "--log-level" => if o.level.isSome then none else some { o with level := value }
  | _ => none

/-- An option with its value after an equals sign. -/
def assignment? (word : String) : Option (String × String) :=
  match word.toList.dropWhile (· != '=') with
  | _ :: value => some (String.ofList (word.toList.takeWhile (· != '=')), String.ofList value)
  | [] => none

/-- Reads the options of a chat. -/
def read (o : ChatOptions) : List String → CommandLine
  | [] => o.done
  | ["--"] => o.done
  | [word] =>
    match (assignment? word).bind fun (option, value) => o.set? option value with
    | some o => o.done
    | none => helpOrMisuse word
  | word :: value :: rest =>
    match (assignment? word).bind fun (option, value) => o.set? option value with
    | some o => read o (value :: rest)
    | none =>
      match if isValue value then o.set? word value else none with
      | some o => read o rest
      | none => helpOrMisuse word

end ChatOptions

/-- Reads the words after `schema`. -/
def readSchema : List String → CommandLine
  | [] | ["--"] => run .schema
  | word :: _ => helpOrMisuse word

/-- Reads the words after `flow validate`; after two dashes all words are values. -/
def readValidate (file : Option String) (onlyValues : Bool) : List String → CommandLine
  | [] =>
    match file with
    | some path => run (.validate path)
    | none => misuse
  | word :: rest =>
    if onlyValues || isValue word then
      if file.isSome || word.isEmpty then misuse else readValidate (some word) onlyValues rest
    else if word = "--" then readValidate file true rest
    else helpOrMisuse word

/-- Reads the words after `flow`. -/
def readFlow : List String → CommandLine
  | [] => misuse
  | "validate" :: rest => readValidate none false rest
  | "help" :: rest => topic ("flow" :: rest)
  | word :: _ => helpOrMisuse word

/-- Reads a command line. -/
def read : List String → CommandLine
  | [] => misuse
  | "chat" :: rest => ChatOptions.read ⟨none, none, none⟩ rest
  | "schema" :: rest => readSchema rest
  | "flow" :: rest => readFlow rest
  | "help" :: rest => topic rest
  | word :: _ => if asksVersion word then version else helpOrMisuse word

end CommandLine

end Dialogue

import Dialogue.Fields
import Dialogue.Text.Class

/-!
# Files of environment variables

Such a file has lines `NAME=value`, `export` allowed before the name. Values may be quoted and may
refer to other variables; a quotation may go on over several lines, and a comment begins with a number
sign after white space.
-/

namespace Dialogue.EnvFile

open Text

/-! ### Logical lines -/

/-- Where the end of a line is met: in plain text, after white space, after a backslash, within
quotation marks of either kind, and after a backslash within them. -/
inductive Place where
  | plain
  | blank
  | escape
  | strong
  | strongEscape
  | weak
  | weakEscape
  deriving DecidableEq, Repr

/-- Where a character leads outside quotation marks. -/
def Place.outside (c : Char) : Place :=
  match c with
  | '\\' => .escape
  | '"' => .weak
  | '\'' => .strong
  | _ => .plain

/-- Follows a line from a place. The line is cut before a comment, which ends it. -/
def follow : Place → (kept : List Char) → List Char → Option Place × List Char
  | place, kept, [] => (some place, kept.reverse)
  | place, kept, c :: cs =>
    match place with
    | .blank =>
      if c = '#' then (none, kept.reverse) else follow (.outside c) (c :: kept) cs
    | .plain =>
      let next := if isBlank c && c != '\n' && c != '\r' then .blank else Place.outside c
      follow next (c :: kept) cs
    | .escape => follow .plain (c :: kept) cs
    | .weak =>
      let next : Place := if c = '\\' then .weakEscape else if c = '"' then .plain else .weak
      follow next (c :: kept) cs
    | .weakEscape => follow .weak (c :: kept) cs
    | .strong =>
      let next : Place := if c = '\\' then .strongEscape else if c = '\'' then .plain else .strong
      follow next (c :: kept) cs
    | .strongEscape => follow .strong (c :: kept) cs

/-- Lines with the new lines at their ends. -/
def rawLines : (held : List Char) → List Char → List (List Char)
  | [], [] => []
  | held, [] => [held.reverse]
  | held, c :: cs =>
    if c = '\n' then (c :: held).reverse :: rawLines [] cs else rawLines (c :: held) cs

/-- A line without the new line at its end. -/
def withoutEnd (cs : List Char) : List Char :=
  match cs.reverse with
  | '\n' :: '\r' :: rest | '\n' :: rest => rest.reverse
  | _ => cs

/-- Joins lines as long as quotation marks or white space at the end are open; `held` are the lines
before. The last line is nothing when the file ends too early. -/
def joinLines : (held : List Char) → Place → List (List Char) → List (Option (List Char))
  | _, .plain, [] => []
  | _, _, [] => [none]
  | held, place, line :: more =>
    if (trimFront (held ++ line)).head? = some '#' then some [] :: joinLines [] .plain more
    else
      match follow place [] line with
      | (none, kept) => some (held ++ kept) :: joinLines [] .plain more
      | (some .plain, _) => some (withoutEnd (held ++ line)) :: joinLines [] .plain more
      | (some next, _) => joinLines (held ++ line) next more

/-! ### Values -/

/-- What a reference to a variable stands for: the variable of the environment, or else the one set
before in the file. -/
structure Known where
  environment : Fields String
  before : Fields String

namespace Known

/-- The value of a variable, empty when there is none. -/
def value (k : Known) (name : List Char) : List Char :=
  let name := String.ofList name
  (((Fields.get? k.environment name).or (Fields.get? k.before name)).getD "").toList

end Known

/-- Where the reader of a value stands. A reference to a variable holds its name so far, nearest
character first. -/
inductive Reading where
  | plain
  | escape (weak : Bool)
  | strong
  | weak
  | reference (weak : Bool) (name : List Char)
  | braced (weak : Bool) (name : List Char)
  | ending
  deriving DecidableEq, Repr

/-- Reads a value; `out` holds what was read, nearest character first. -/
def readValue (k : Known) : Reading → (out : List Char) → List Char → Option (List Char)
  | .plain, out, [] | .ending, out, [] | .escape false, out, [] => some out.reverse
  | .reference false name, out, [] => some (out.reverse ++ k.value name.reverse)
  | .escape true, _, [] | .strong, _, [] | .weak, _, [] | .reference true _, _, []
  | .braced .., _, [] => none
  | .ending, out, c :: cs =>
    if c = ' ' ∨ c = '\t' then readValue k .ending out cs
    else if c = '#' then some out.reverse
    else none
  | .escape weak, out, c :: cs =>
    let next : Reading := if weak then .weak else .plain
    if c = '\\' ∨ c = '\'' ∨ c = '"' ∨ c = '$' ∨ c = ' ' then readValue k next (c :: out) cs
    else if c = 'n' then readValue k next ('\n' :: out) cs
    else none
  | .strong, out, c :: cs =>
    if c = '\'' then readValue k .plain out cs else readValue k .strong (c :: out) cs
  | .reference weak name, out, c :: cs =>
    if isAlphanumeric c then readValue k (.reference weak (c :: name)) out cs
    else if c = '\x7b' ∧ name = [] then readValue k (.braced weak []) out cs
    else
      let out := (k.value name.reverse).reverse ++ out
      if c = '$' then readValue k (.reference weak []) out cs
      else readValue k (if weak then .weak else .plain) (c :: out) cs
  | .braced weak name, out, c :: cs =>
    if c = '\x7d' then
      readValue k (if weak then .weak else .plain) ((k.value name.reverse).reverse ++ out) cs
    else readValue k (.braced weak (c :: name)) out cs
  | .weak, out, c :: cs =>
    if c = '$' then readValue k (.reference true []) out cs
    else if c = '"' then readValue k .plain out cs
    else if c = '\\' then readValue k (.escape true) out cs
    else readValue k .weak (c :: out) cs
  | .plain, out, c :: cs =>
    if c = '$' then readValue k (.reference false []) out cs
    else if c = '\'' then readValue k .strong out cs
    else if c = '"' then readValue k .weak out cs
    else if c = '\\' then readValue k (.escape false) out cs
    else if c = ' ' ∨ c = '\t' then readValue k .ending out cs
    else readValue k .plain (c :: out) cs

/-! ### Settings -/

/-- The name at the front of a line. -/
def readName (cs : List Char) : Option (List Char × List Char) :=
  match cs with
  | c :: _ =>
    if isAsciiLetter c || c == '_' then
      let ofName (c : Char) : Bool := isAsciiLetter c || isDigit c || c == '_' || c == '.'
      some (cs.takeWhile ofName, cs.dropWhile ofName)
    else none
  | [] => none

/-- What follows an equals sign after white space. -/
def afterEquals (cs : List Char) : Option (List Char) :=
  match trimFront cs with
  | '=' :: rest => some rest
  | _ => none

/-- The name in a line, and what follows its equals sign. -/
def readSetting (cs : List Char) : Option (List Char × List Char) := do
  let (name, rest) ← readName cs
  if name = "export".toList then
    match afterEquals rest with
    | some value => some (name, value)
    | none =>
      let (name, rest) ← readName (trimFront rest)
      some (name, ← afterEquals rest)
  else some (name, ← afterEquals rest)

/-- The setting of a line: nothing when the line cannot be read, no setting when it is blank or a
comment. -/
def readLine (k : Known) (line : List Char) : Option (Option (String × String)) :=
  let cs := trim line
  if cs = [] ∨ cs.head? = some '#' then some none
  else do
    let (name, rest) ← readSetting cs
    let rest := trimFront rest
    let value ← if rest = [] ∨ rest.head? = some '#' then some [] else readValue k .plain [] rest
    some (some (String.ofList name, String.ofList value))

/-- Adds the settings of lines to an environment, up to the first line that cannot be read. A variable
that is set stays as it is. -/
def loadLines (environment before : Fields String) :
    List (Option (List Char)) → Fields String
  | [] => environment
  | none :: _ => environment
  | some line :: more =>
    match readLine ⟨environment, before⟩ line with
    | none => environment
    | some none => loadLines environment before more
    | some (some (name, value)) =>
      let environment :=
        if Fields.has environment name then environment else Fields.insert name value environment
      loadLines environment (Fields.insert name value before) more

/-- Adds the settings of a file to an environment. -/
def load (environment : Fields String) (contents : String) : Fields String :=
  let cs := match contents.toList with
    | '\uFEFF' :: rest => rest
    | cs => cs
  loadLines environment [] (joinLines [] .plain (rawLines [] cs))

/-! ### Changing a file -/

/-- Whether a line sets a variable. -/
def sets (name : List Char) (line : List Char) : Bool :=
  match cut? ['='] line with
  | some (key, _) => trim key == name
  | none => false

/-- The lines with a variable set to a value, or without it. -/
def updateLines (name : List Char) (value : Option (List Char)) (lines : List (List Char)) :
    List (List Char) :=
  let written := value.map fun v => name ++ '=' :: v
  let changed := lines.filterMap fun line => if sets name line then written else some line
  if lines.any (sets name) then changed else changed ++ written.toList

/-- A file with a variable set to a value, or without it. -/
def update (name : String) (value : Option String) (contents : String) : String :=
  String.ofList (join ['\n']
    (updateLines name.toList (value.map String.toList) (lines contents.toList)))

end Dialogue.EnvFile

import Dialogue.Template.Render
import Dialogue.Url.Percent
import Dialogue.Value.Path

/-!
# Paths of calls

The path of a call is written with tokens in double braces and with parameters, `:name` or `{name}`.
First the tokens are replaced by the values they refer to, then the parameters by theirs. Values are
written as segments, so that their characters do not count as marks of an address.

* `PathPart.tokensFrom_nil`, `PathPart.parametersFrom_nil`: there are no parts in no text.
* `PathPart.written_nil`: nothing is written of no parts.
-/

namespace Dialogue

open Text

/-- A part of a text: as it stands, or a placeholder with the text between its marks. -/
inductive PathPart where
  | literal (c : Char)
  | token (inner : List Char)
  | parameter (written name : List Char)
  deriving DecidableEq, Repr

namespace PathPart

/-- The inside of a token at the front of a text, on one line. -/
def token? (cs : List Char) : Option (List Char) := do
  let inner ← after? ['\x7b', '\x7b'] cs
  let (name, _) ← cut? ['\x7d', '\x7d'] inner
  if name.contains '\n' then none else some name

/-- The tokens and the other characters of a text; `skip` characters belong to a token before. -/
def tokensFrom : (skip : Nat) → List Char → List PathPart
  | _, [] => []
  | skip + 1, _ :: cs => tokensFrom skip cs
  | 0, c :: cs =>
    match token? (c :: cs) with
    | some inner => .token inner :: tokensFrom (inner.length + 3) cs
    | none => .literal c :: tokensFrom 0 cs

@[simp] theorem tokensFrom_nil (skip : Nat) : tokensFrom skip [] = [] := by
  rw [tokensFrom.eq_def]

/-- Whether a character may begin the name of a parameter. -/
def startsName (c : Char) : Bool := isAsciiLetter c || c == '_'

/-- Whether a character may stand in the name of a parameter. -/
def isOfName (c : Char) : Bool := startsName c || isDigit c

/-- The name at the front of a text. -/
def name? (cs : List Char) : Option (List Char) :=
  match cs with
  | c :: rest => if startsName c then some (c :: rest.takeWhile isOfName) else none
  | [] => none

/-- The parameter at the front of a text: as it is written, and its name. -/
def parameter? (cs : List Char) : Option (List Char × List Char) :=
  match cs with
  | ':' :: rest => (name? rest).map fun name => (':' :: name, name)
  | '\x7b' :: rest => do
    let name ← name? rest
    if (rest.drop name.length).head? = some '\x7d' then
      some ('\x7b' :: (name ++ ['\x7d']), name)
    else none
  | _ => none

/-- The parameters and the other characters of a text; `skip` characters belong to a parameter
before. -/
def parametersFrom : (skip : Nat) → List Char → List PathPart
  | _, [] => []
  | skip + 1, _ :: cs => parametersFrom skip cs
  | 0, c :: cs =>
    match parameter? (c :: cs) with
    | some (written, name) => .parameter written name :: parametersFrom (written.length - 1) cs
    | none => .literal c :: parametersFrom 0 cs

@[simp] theorem parametersFrom_nil (skip : Nat) : parametersFrom skip [] = [] := by
  rw [parametersFrom.eq_def]

/-- What a part contributes to a path: a token the value it refers to, a parameter its value or, when
it has none, itself. -/
def expand (params : Fields String) (scope : Value) : PathPart → List Char
  | literal c => [c]
  | token inner =>
    match Value.resolve scope inner with
    | some v => Percent.segment v.display.toList
    | none => []
  | parameter written name =>
    match Fields.get? params (String.ofList name) with
    | some template => Percent.segment (renderTemplate scope template).toList
    | none =>
      match Value.resolve scope name with
      | some v => Percent.segment v.display.toList
      | none => written

/-- The text of parts. -/
def written (params : Fields String) (scope : Value) (parts : List PathPart) : List Char :=
  parts.flatMap (expand params scope)

@[simp] theorem written_nil (params : Fields String) (scope : Value) :
    written params scope [] = [] := rfl

end PathPart

/-- The characters of a path with its tokens and then its parameters replaced. -/
def expandPathChars (path : List Char) (params : Fields String) (scope : Value) : List Char :=
  let withValues := PathPart.written params scope (PathPart.tokensFrom 0 path)
  PathPart.written params scope (PathPart.parametersFrom 0 withValues)

/-- A path with its tokens and then its parameters replaced. -/
def expandPath (path : String) (params : Fields String) (scope : Value) : String :=
  String.ofList (expandPathChars path.toList params scope)

end Dialogue

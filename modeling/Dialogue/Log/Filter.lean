import Dialogue.Number.Reading
import Dialogue.Pattern.Report
import Dialogue.Text.Class

/-!
# Filters of logs

A filter is a list of directives with commas between them. A directive gives a level for everything, or
for a target, for a span, or for a span with certain fields: `level`, `target=level`,
`target[span{field=value}]=level`.
-/

namespace Dialogue

open Text

/-- How much is logged. -/
inductive LogLevel where
  | off
  | error
  | warn
  | info
  | debug
  | trace
  deriving DecidableEq, Repr

namespace LogLevel

/-- The levels in order, each with its name. -/
def names : List (String × LogLevel) :=
  [("off", off), ("error", error), ("warn", warn), ("info", info), ("debug", debug), ("trace", trace)]

/-- A letter without its case. -/
def fold (c : Char) : Char := c.toLower

/-- The level that a name or a number stands for. -/
def ofText? (cs : List Char) : Option LogLevel :=
  match naturalOf? cs with
  | some n => (names[n]?).map (·.2)
  | none => (names.find? fun entry => entry.1.toList == cs.map fold).map (·.2)

end LogLevel

/-- A directive of a filter. -/
structure LogDirective where
  level : LogLevel
  target : Option String
  span : Option String
  fields : List String
  deriving DecidableEq, Repr

namespace LogDirective

/-- Whether a character can begin a target. -/
def beginsTarget (c : Char) : Bool := c == '-' || c == ':' || c == '_' || isAlphanumeric c

/-- The level after an equals sign; none is given for everything. -/
def levelAfter? (cs : List Char) : Option LogLevel := if cs = [] then some .trace else LogLevel.ofText? cs

/-- Gives a directive the level at its end. -/
def withLevel (d : LogDirective) : List Char → Option LogDirective
  | [] => some d
  | '=' :: cs => (levelAfter? cs).map fun level => { d with level }
  | _ => none

/-- Whether a value that a field has to match can be read, as a number or as a pattern. -/
def isMatchable (value : List Char) : Bool :=
  (Binary64.read? value).isSome ||
    match Pattern.read (String.ofList value) with
    | .ok _ => true
    | .error _ => false

/-- A field, with the value that it has to match after an equals sign. -/
def field? (cs : List Char) : Option String :=
  if cs = [] then none
  else
    match pieces (· == '=') cs with
    | _ :: value :: _ => if isMatchable value then some (String.ofList cs) else none
    | _ => some (String.ofList cs)

/-- Reads a span after its opening bracket. -/
def readSpan (target : Option String) (cs : List Char) : Option LogDirective :=
  let name := cs.takeWhile fun c => c != ']' && c != '\x7b'
  match cs.dropWhile fun c => c != ']' && c != '\x7b' with
  | ']' :: rest => withLevel ⟨.trace, target, some (String.ofList name), []⟩ rest
  | '\x7b' :: rest =>
    match cut? ['\x7d'] rest with
    | some (inside, ']' :: rest) =>
      let span := if name = [] then none else some (String.ofList name)
      (field? inside).bind fun f => withLevel ⟨.trace, target, span, [f]⟩ rest
    | _ => none
  | _ => none

/-- Reads a directive. -/
def read (cs : List Char) : Option LogDirective :=
  match cs with
  | [] => none
  | '[' :: rest => readSpan none rest
  | c :: _ =>
    if beginsTarget c then
      let front := cs.takeWhile fun c => c != '=' && c != '['
      match cs.dropWhile fun c => c != '=' && c != '[' with
      | '[' :: rest => readSpan (some (String.ofList front)) rest
      | [] =>
        match LogLevel.ofText? front with
        | some level => some ⟨level, none, none, []⟩
        | none => some ⟨.trace, some (String.ofList front), none, []⟩
      | rest => withLevel ⟨.trace, some (String.ofList front), none, []⟩ rest
    else none

end LogDirective

namespace LogFilter

/-- The directives of a filter. -/
def read (text : String) : Option (List LogDirective) :=
  ((pieces (· == ',') text.toList).filter (· != [])).mapM fun cs => LogDirective.read (trim cs)

end LogFilter

end Dialogue

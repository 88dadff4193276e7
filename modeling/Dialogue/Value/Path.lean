import Dialogue.Number.Reading
import Dialogue.Value.Written

/-!
# Paths into values

A path such as `a.b[0].c` or `a["b c"]` is a list of steps. A step by name goes into a record, or
into a list when the name is a number; a step by index goes into a list. An empty text names no path.
-/

namespace Dialogue

open Text

/-- A text without the quotation marks around it, single or double ones. -/
def unquoteChars? (cs : List Char) : Option (List Char) :=
  match trim cs with
  | q :: rest =>
    if (q = '"' ∨ q = '\'') ∧ rest.getLast? = some q then some rest.dropLast else none
  | [] => none

/-- A text without the quotation marks around it. -/
def unquote? (s : String) : Option String := (unquoteChars? s.toList).map String.ofList

/-- One step of a path. -/
inductive PathStep where
  | key (name : String)
  | index (i : Nat)
  deriving DecidableEq, Repr

namespace Path

/-- The step named by what was read of a name, nearest character first; an empty name is none. -/
def stepOfName (held : List Char) : List PathStep :=
  if held = [] then [] else [.key (String.ofList held.reverse)]

/-- The step between brackets: an index, or a name with or without quotation marks. -/
def stepOfBracket (inner : List Char) : PathStep :=
  match naturalOf? (trim inner) with
  | some i => .index i
  | none => .key (String.ofList ((unquoteChars? inner).getD (trim inner)))

/-- Reads steps; `held` holds the characters of the step being read, nearest first, and `inside`
says whether a bracket is open. -/
def scan : (inside : Bool) → (held : List Char) → List Char → List PathStep
  | false, held, [] => stepOfName held
  | true, held, [] => [stepOfBracket held.reverse]
  | false, held, c :: cs =>
    if c = '.' then stepOfName held ++ scan false [] cs
    else if c = '[' then stepOfName held ++ scan true [] cs
    else scan false (c :: held) cs
  | true, held, c :: cs =>
    if c = ']' then stepOfBracket held.reverse :: scan false [] cs else scan true (c :: held) cs

/-- The steps that a text writes. -/
def steps (cs : List Char) : List PathStep := scan false [] (trim cs)

end Path

namespace Value

/-- The part of a value that one step leads to. -/
def step? : PathStep → Value → Option Value
  | .key name, record fields => Fields.get? fields name
  | .key name, list items => (naturalOf? name.toList).bind (items[·]?)
  | .index i, list items => items[i]?
  | _, _ => none

/-- The part of a value that steps lead to. -/
def at? : List PathStep → Value → Option Value
  | [], v => some v
  | s :: more, v => (step? s v).bind (at? more)

/-- The part of a value that a written path leads to; a path without steps leads nowhere. -/
def lookup (scope : Value) (path : List Char) : Option Value :=
  match Path.steps path with
  | [] => none
  | steps => at? steps scope

/-- The two sides of a path with a fallback, which follows two bars. -/
def splitFallback (cs : List Char) : Option (List Char × List Char) :=
  (cut? ['|', '|'] cs).map fun (l, r) => (trim l, trim r)

/-- The value of a path with or without a fallback: a value that is set, or else the fallback, a
quoted text or another path. -/
def resolve (scope : Value) (expr : List Char) : Option Value :=
  let expr := trim expr
  match splitFallback expr with
  | none => lookup scope expr
  | some (l, r) =>
    match (lookup scope l).filter isPresent with
    | some v => some v
    | none =>
      match unquoteChars? r with
      | some literal => some (text (String.ofList literal))
      | none => lookup scope r

end Value

end Dialogue

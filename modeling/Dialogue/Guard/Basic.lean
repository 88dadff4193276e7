import Dialogue.Text.Case
import Dialogue.Value.Path

/-!
# Guards

A guard is a chain of predicates on variables, joined by `AND` and `OR` and folded from the left
without any precedence.
-/

namespace Dialogue

open Text

/-- What a predicate asks of its variable. -/
inductive Operator where
  | isSet
  | isUnset
  | equals
  | differs
  | contains
  | lacks
  deriving DecidableEq, Repr

namespace Operator

/-- The spelling of an operator. -/
def text : Operator → String
  | isSet => "exists"
  | isUnset => "not exists"
  | equals => "equals"
  | differs => "not_equals"
  | contains => "contains"
  | lacks => "not_contains"

/-- Whether an operator compares with a value. -/
def needsValue : Operator → Bool
  | isSet | isUnset => false
  | _ => true

end Operator

/-- A question about one variable. -/
structure Predicate where
  subject : String
  operator : Operator
  value : Option String
  deriving DecidableEq, Repr

/-- How a predicate is joined to what stands before it. -/
inductive Junction where
  | and
  | or
  deriving DecidableEq, Repr

namespace Junction

/-- The spelling of a junction. -/
def text : Junction → String
  | and => "AND"
  | or => "OR"

/-- Joins two truth values. -/
def join : Junction → Bool → Bool → Bool
  | and, a, b => a && b
  | or, a, b => a || b

end Junction

/-- A chain of predicates. -/
structure Guard where
  first : Predicate
  rest : List (Junction × Predicate)
  deriving DecidableEq, Repr

/-- Whether a value and an expected text are the same: as texts without regard to case, or as
numbers. -/
def sameText (actual : Value) (expected : List Char) : Bool :=
  let actual := trim actual.display.toList
  lower actual == lower expected ||
    match Binary64.read? actual, Binary64.read? expected with
    | some a, some b => a.sameValue b
    | _, _ => false

/-- Whether a value contains an expected text: a list by one of its items, anything else as a
text without regard to case. -/
def containsText (actual : Value) (expected : List Char) : Bool :=
  match actual with
  | .null => false
  | .list items => items.any (sameText · expected)
  | other => occurs (lower expected) (lower other.display.toList)

namespace Predicate

/-- The text that a predicate compares with: its value without quotation marks. -/
def expected (p : Predicate) : List Char :=
  match p.value with
  | none => []
  | some v => trim ((unquoteChars? v.toList).getD v.toList)

/-- Whether a predicate holds under a scope. -/
def holds (scope : Value) (p : Predicate) : Bool :=
  let actual := (Value.resolve scope p.subject.toList).getD .null
  match p.operator with
  | .isSet => actual.isPresent
  | .isUnset => !actual.isPresent
  | .equals => sameText actual p.expected
  | .differs => !sameText actual p.expected
  | .contains => containsText actual p.expected
  | .lacks => !containsText actual p.expected

/-- A predicate as it is written. -/
def written (p : Predicate) : List Char :=
  "\x7b\x7b".toList ++ p.subject.toList ++ "\x7d\x7d ".toList ++ p.operator.text.toList ++
    match p.value with
    | none => []
    | some v => ' ' :: v.toList

end Predicate

namespace Guard

/-- Whether a chain holds, its predicates taken from the left. -/
def holds (scope : Value) (g : Guard) : Bool :=
  g.rest.foldl (fun held (junction, p) => junction.join held (p.holds scope))
    (g.first.holds scope)

/-- The predicates of a chain in their order. -/
def predicates (g : Guard) : List Predicate := g.first :: g.rest.map (·.2)

/-- Whether a chain uses both junctions. -/
def isMixed (g : Guard) : Bool :=
  g.rest.any (·.1 == .and) && g.rest.any (·.1 == .or)

/-- A chain as it is written. -/
def written (g : Guard) : List Char :=
  g.first.written ++ g.rest.flatMap fun (junction, p) =>
    ' ' :: (junction.text.toList ++ ' ' :: p.written)

end Guard

end Dialogue

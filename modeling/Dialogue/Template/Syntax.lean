import Dialogue.Value.Basic

/-!
# Templates

A template is a list of elements: text, expressions in braces and blocks with a body and a body for
the other case. An expression names a value or a helper and gives it arguments.
-/

namespace Dialogue.Template

/-- A part of a reference: a name, the enclosing block, a variable of the block itself, or the
whole scope. -/
inductive RefPart where
  | named (name : String)
  | up
  | own
  | root
  deriving DecidableEq, Repr

/-- An argument: a name, a reference as it was written, a literal value, or a nested call. -/
inductive Argument where
  | name (name : String)
  | reference (parts : List RefPart) (written : String)
  | literal (value : Value)
  | call (head : Argument) (arguments : List Argument) (options : List (String × Argument))
  deriving Repr, Inhabited

/-- An expression in braces, with the names that a block gives to its item and to the position of
that item. -/
structure Expression where
  head : Argument
  arguments : List Argument
  options : List (String × Argument)
  itemNames : List String
  trimBefore : Bool
  trimAfter : Bool
  deriving Repr, Inhabited

/-- An element of a template. A refused element makes the whole template fail when it is reached. -/
inductive Element where
  | text (cs : List Char)
  | value (e : Expression)
  | block (e : Expression) (body : List Element) (otherwise : Option (List Element))
  | refused
  deriving Repr, Inhabited

end Dialogue.Template

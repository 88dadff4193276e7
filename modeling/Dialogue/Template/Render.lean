import Dialogue.Template.Dialect
import Dialogue.Template.Eval
import Dialogue.Template.Layout

/-!
# Rendering

`render` gives the text of a template under a scope. It always gives one: a template that is
malformed, or that fails while it is walked, is substituted token by token, and what is left of
opening braces is collapsed. `renderValue` renders the texts inside a value; a text that is one
token becomes the value that the token names.

* `renderText_of_plain`: a text without opening braces is its own rendering.
-/

namespace Dialogue.Template

open Text

/-- The text of a template that is well formed and does not fail. -/
def evaluate? (scope : Value) (template : List Char) : Option (List Char) :=
  (parse (prepare scope template)).bind (render scope [Frame.whole])

/-- The text of a template. -/
def renderText (scope : Value) (template : List Char) : List Char :=
  if hasOpenMark template then
    sanitize ((evaluate? scope template).getD (substitute scope template))
  else template

/-- A text without opening braces is its own rendering. -/
theorem renderText_of_plain (scope : Value) {template : List Char}
    (h : hasOpenMark template = false) : renderText scope template = template := by
  simp [renderText, h]

/-- What the one token holds that makes up a text, apart from white space around it: neither braces
nor the marks of blocks. -/
def singleToken? (cs : List Char) : Option (List Char) := do
  let rest ← after? openMark (trimFront cs)
  let inner := rest.takeWhile fun c =>
    !(c == '\x7b' || c == '\x7d' || c == '#' || c == '/')
  let tail ← after? closeMark (rest.drop inner.length)
  if inner ≠ [] ∧ tail.all isBlank then some inner else none

mutual

/-- Renders the texts inside a value. -/
def renderValue (scope : Value) : Value → Value
  | .text s =>
    match singleToken? s.toList with
    | some inner => (Value.resolve scope inner).getD .null
    | none => .text (String.ofList (renderText scope s.toList))
  | .list items => .list (renderItems scope items)
  | .record fields => .record (renderFields scope fields)
  | other => other

/-- Renders the texts inside items. -/
def renderItems (scope : Value) : List Value → List Value
  | [] => []
  | item :: more => renderValue scope item :: renderItems scope more

/-- Renders the texts inside the values of fields. -/
def renderFields (scope : Value) : List (String × Value) → List (String × Value)
  | [] => []
  | (name, value) :: more => (name, renderValue scope value) :: renderFields scope more

end

end Dialogue.Template

namespace Dialogue

/-- The text of a template under a scope. -/
def renderTemplate (scope : Value) (template : String) : String :=
  String.ofList (Template.renderText scope template.toList)

end Dialogue

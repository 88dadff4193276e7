import Dialogue.Template.Reader

/-!
# From tags to elements

Blocks are matched with their ends and white space is settled: a wave trims all white space on its
side, and a block tag or remark alone on its line takes the line with it.
-/

namespace Dialogue.Template

open Text

/-- A block tag or a remark may stand on a line of its own. -/
def isInlineBlank (c : Char) : Bool := c == ' ' || c == '\t'

/-- Drops the blanks at the front and the end of line after them. -/
def dropLineEnd (cs : List Char) : List Char :=
  match cs.dropWhile isInlineBlank with
  | '\r' :: '\n' :: rest => rest
  | '\n' :: rest => rest
  | rest => rest

/-- A block whose end has not been met: what stands before it, the conditions met so far with their
bodies, the latest first, and whether the other case has begun. -/
structure Unclosed where
  hidden : Bool
  name : String
  outer : List Element
  condition : Expression
  finished : List (Expression × List Element)
  inOtherwise : Bool
  deriving Inhabited

/-- The state of the assembly. Elements are kept in reverse. -/
structure Assembly where
  trimNext : Bool
  trimLine : Bool
  here : List Element
  unclosed : List Unclosed
  deriving Inhabited

namespace Assembly

/-- Applies a change to the text just before. -/
def changeLast (f : List Char → List Char) (a : Assembly) : Assembly :=
  match a.here with
  | .text cs :: rest => { a with here := .text (f cs) :: rest }
  | _ => a

/-- Adds text. -/
def addText (cs : List Char) (a : Assembly) : Assembly :=
  let cs := if a.trimNext then trimFront cs else if a.trimLine then dropLineEnd cs else cs
  { a with here := .text cs :: a.here, trimLine := false }

/-- Adds white space that stands between tags. -/
def addGap (gap : List Char) (a : Assembly) : Assembly :=
  if gap = [] ∨ a.trimNext then a
  else
    { a with here := .text (if a.trimLine then dropLineEnd gap else gap) :: a.here, trimLine := false }

/-- Applies the waves of a tag. -/
def wave (before after : Bool) (a : Assembly) : Assembly :=
  let a := if before then a.changeLast trimBack else a
  { a with trimNext := after }

/-- Removes the line of a tag that stands alone on it. -/
def ownLine (first last : Bool) (a : Assembly) : Assembly :=
  if last then
    let a := if first then a.changeLast (dropEndWhile isInlineBlank) else a
    { a with trimLine := first }
  else { a with trimLine := false }

/-- Adds an element. -/
def add (e : Element) (a : Assembly) : Assembly := { a with here := e :: a.here }

/-- Opens a block. -/
def enter (hidden : Bool) (e : Expression) (a : Assembly) : Option Assembly :=
  match e.head with
  | .name name =>
    some { a with here := [], unclosed := ⟨hidden, name, a.here, e, [], false⟩ :: a.unclosed }
  | _ => none

/-- Begins the next case of the innermost block. -/
def turn (next : Option Expression) (a : Assembly) : Option Assembly :=
  match a.unclosed with
  | [] => none
  | u :: rest =>
    if u.hidden ∨ u.inOtherwise then none
    else
      let finished := (u.condition, a.here.reverse) :: u.finished
      let u := { u with finished, condition := next.getD u.condition, inOtherwise := next.isNone }
      some { a with here := [], unclosed := u :: rest }

/-- The blocks of a chain of conditions, the latest first, around the body of the other case. -/
def chain : List (Expression × List Element) → Option (List Element) → Option Element
  | [], _ => none
  | [(e, body)], otherwise => some (.block e body otherwise)
  | (e, body) :: more, otherwise => chain more (some [.block e body otherwise])

/-- Closes the innermost block, which has to have the given name. -/
def leave (name : String) (a : Assembly) : Option Assembly :=
  match a.unclosed with
  | [] => none
  | u :: rest =>
    if u.name ≠ name then none
    else if u.hidden then
      -- an inline definition shows nothing where it stands
      let shown : List Element := match u.name, u.condition.arguments with
        | "inline", .literal (.text _) :: _ => [.text []]
        | _, _ => [.refused]
      some { a with here := shown ++ u.outer, unclosed := rest }
    else
      let body := a.here.reverse
      let block := if u.inOtherwise then chain u.finished (some body)
        else chain ((u.condition, body) :: u.finished) none
      block.map fun b => { a with here := b :: u.outer, unclosed := rest }

/-- Takes in one tag. -/
def step (p : Placed) (a : Assembly) : Option Assembly :=
  match p.tag with
  | .text cs => some (a.addText (p.gap ++ cs))
  | .value e => some (((a.addGap p.gap).wave e.trimBefore e.trimAfter).add (.value e))
  | .opening e =>
    (((a.addGap p.gap).wave e.trimBefore e.trimAfter).ownLine p.firstOnLine p.lastOnLine).enter false e
  | .hidden e =>
    (((a.addGap p.gap).wave e.trimBefore e.trimAfter).ownLine p.firstOnLine p.lastOnLine).enter true e
  | .otherwise before after =>
    (((a.addGap p.gap).wave before after).ownLine p.firstOnLine p.lastOnLine).turn none
  | .otherwiseIf e =>
    (((a.addGap p.gap).wave e.trimBefore e.trimAfter).ownLine p.firstOnLine p.lastOnLine).turn (some e)
  | .closing name before after =>
    (((a.addGap p.gap).wave before after).ownLine p.firstOnLine p.lastOnLine).leave name
  | .verbatim e last cs name before after => do
    let a ← (((a.addGap p.gap).wave e.trimBefore e.trimAfter).ownLine p.firstOnLine last).enter false e
    let a := a.addText cs
    ((a.wave before after).ownLine (lineIsBlank false cs) p.lastOnLine).leave name
  | .comment => some (((a.addGap p.gap).ownLine p.firstOnLine p.lastOnLine).add (.text []))
  | .refused before after =>
    some ((((a.addGap p.gap).wave before after).ownLine p.firstOnLine p.lastOnLine).add .refused)

/-- Takes in all tags. -/
def steps (a : Assembly) : List Placed → Option Assembly
  | [] => some a
  | p :: more => (a.step p).bind (steps · more)

end Assembly

/-- The elements of a template; nothing where it is malformed. -/
def parse (cs : List Char) : Option (List Element) := do
  let (tags, tail) ← readTags (cs.length + 1) true cs
  let a ← Assembly.steps ⟨false, false, [], []⟩ tags
  if a.unclosed.isEmpty then some (a.addGap tail).here.reverse else none

end Dialogue.Template

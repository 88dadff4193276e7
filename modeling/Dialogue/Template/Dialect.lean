import Dialogue.Template.Token
import Dialogue.Value.Path

/-!
# The dialect of tokens

Authors write `{{list[0].name}}`, `{{name || "default"}}` and, in repeated blocks, names of the whole
scope next to names of the item. `prepare` turns such tokens into the syntax of templates.
`substitute` is the simpler reading, token by token, that a malformed template gets.
-/

namespace Dialogue.Template

open Text

/-- Whether a token opens or closes a block or is a remark. -/
def isControl (inner : List Char) : Bool :=
  begins ['#'] inner || begins ['/'] inner || begins ['!'] inner

/-- Writes every index in brackets as a step of its own; the first `skip` characters belong to an
index already written. -/
def dotIndicesFrom : (skip : Nat) → List Char → List Char
  | _, [] => []
  | skip + 1, _ :: cs => dotIndicesFrom skip cs
  | 0, c :: cs =>
    let digits := cs.takeWhile isDecimalDigit
    if c = '[' ∧ digits ≠ [] ∧ (cs.drop digits.length).head? = some ']' then
      '.' :: '[' :: (digits ++ ']' :: dotIndicesFrom (digits.length + 1) cs)
    else c :: dotIndicesFrom 0 cs

/-- Writes every index in brackets as a step of its own. -/
def dotIndices (cs : List Char) : List Char := dotIndicesFrom 0 cs

/-- The blocks around a token, the innermost first: a repeated block with what it repeats over, or
another kind of block. -/
abbrev Blocks := List (Option Value)

/-- Whether some item of what a block repeats over has a field of this name. -/
def itemHas (name : String) : Value → Bool
  | .list items => items.any fun item => (item.field? name).isSome
  | .record fields => fields.any fun (_, item) => (item.field? name).isSome
  | _ => false

/-- A path as templates write it. Within repeated blocks a name that no item has and that the whole
scope has is sought there. -/
def scopedPath (scope : Value) (blocks : Blocks) (path : List Char) : List Char :=
  let path := trim path
  let plain := dotIndices path
  let repeated := blocks.filterMap id
  let depth := repeated.length
  if depth = 0 ∨ path = "this".toList ∨ begins "this.".toList path ∨ begins ['@'] path
      ∨ begins ['.'] path then plain
  else
    match Path.steps path with
    | .key head :: _ =>
      if (repeated.head?.map (itemHas head)).getD false ∨ (Value.lookup scope path).isNone then plain
      else (List.replicate depth "../".toList).flatten ++ plain
    | _ => plain

/-- A fallback as templates write it: a text in double quotation marks, or a path. -/
def fallbackArgument (scope : Value) (blocks : Blocks) (cs : List Char) : List Char :=
  let cs := trim cs
  match cs with
  | '\'' :: rest =>
    if rest.getLast? = some '\'' then
      '"' :: (replaceAll ['"'] ['\\', '"'] rest.dropLast ++ ['"'])
    else scopedPath scope blocks cs
  | '"' :: _ => cs
  | _ => scopedPath scope blocks cs

/-- A token around what it holds. -/
def token (inner : List Char) : List Char := openMark ++ inner ++ closeMark

/-- Turns pieces into the syntax of templates, under the blocks opened so far. -/
def prepareFrom (scope : Value) : Blocks → List Piece → List Char
  | _, [] => []
  | blocks, .char c :: more => c :: prepareFrom scope blocks more
  | blocks, .token written :: more =>
    let inner := trim written
    if isControl inner || inner = "else".toList then
      let blocks := match after? "#each".toList inner with
        | some list => some ((Value.resolve scope list).getD .null) :: blocks
        | none =>
          if begins ['#'] inner then none :: blocks
          else if begins ['/'] inner then blocks.tail
          else blocks
      token (dotIndices inner) ++ prepareFrom scope blocks more
    else
      let written := match Value.splitFallback inner with
        | some (l, r) =>
          "default ".toList ++ scopedPath scope blocks l ++ ' ' :: fallbackArgument scope blocks r
        | none => scopedPath scope blocks inner
      token written ++ prepareFrom scope blocks more

/-- Turns the tokens of authors into the syntax of templates. -/
def prepare (scope : Value) (cs : List Char) : List Char := prepareFrom scope [] (tokenize cs)

/-- Puts the value of each token in its place; tokens of blocks and remarks are dropped. -/
def substitute (scope : Value) (cs : List Char) : List Char :=
  mapTokens (fun written =>
    let inner := trim written
    if isControl inner then []
    else ((Value.resolve scope inner).map fun v => v.display.toList).getD []) cs

end Dialogue.Template

import Dialogue.Text.Basic
import Dialogue.Value.Basic

/-!
# Values as text

`Value.compact` writes a value without any white space, `Value.pretty` with two blanks of
indentation per level. `Value.display` is the text that a value contributes to a message: a text
stands for itself and null for nothing.
-/

namespace Dialogue

namespace Json

/-- How a character is written inside quotation marks. Control characters without a short form are
written by their code. -/
def escape (c : Char) : List Char :=
  match c with
  | '"' => ['\\', '"']
  | '\\' => ['\\', '\\']
  | '\x08' => ['\\', 'b']
  | '\x0c' => ['\\', 'f']
  | '\n' => ['\\', 'n']
  | '\r' => ['\\', 'r']
  | '\t' => ['\\', 't']
  | c =>
    if c.toNat < 32 then
      ['\\', 'u', '0', '0', Text.hexDigit (c.toNat / 16), Text.hexDigit (c.toNat % 16)]
    else [c]

/-- A text between quotation marks. -/
def quoteChars (s : String) : List Char := '"' :: (s.toList.flatMap escape ++ ['"'])

/-- A text between quotation marks, as a text. -/
def quote (s : String) : String := String.ofList (quoteChars s)

end Json

namespace Value

/-- The text of a number, a truth value or null. -/
def atom : Value → List Char
  | null => "null".toList
  | bool b => (if b then "true" else "false").toList
  | int i => (if i < 0 then ['-'] else []) ++ digitsOf i.natAbs
  | real x => if x.isFinite then x.toText.toList else "null".toList
  | _ => []

mutual

/-- The characters of a value, without white space. -/
def compactChars : Value → List Char
  | text s => Json.quoteChars s
  | list items => '[' :: (compactItems items ++ [']'])
  | record fields => '\x7b' :: (compactFields fields ++ ['\x7d'])
  | other => atom other

/-- Items with commas between them. -/
def compactItems : List Value → List Char
  | [] => []
  | [item] => compactChars item
  | item :: more => compactChars item ++ ',' :: compactItems more

/-- Fields with commas between them. -/
def compactFields : List (String × Value) → List Char
  | [] => []
  | [(name, value)] => Json.quoteChars name ++ ':' :: compactChars value
  | (name, value) :: more =>
    Json.quoteChars name ++ ':' :: compactChars value ++ ',' :: compactFields more

end

/-- The text of a value, without white space. -/
def compact (v : Value) : String := String.ofList v.compactChars

/-- A new line at a level of indentation. -/
def newLine (level : Nat) : List Char := '\n' :: List.replicate (2 * level) ' '

mutual

/-- The characters of a value with indentation; an empty list or record stays on its line. -/
def prettyChars (level : Nat) : Value → List Char
  | text s => Json.quoteChars s
  | list [] => ['[', ']']
  | list items => '[' :: (prettyItems (level + 1) items ++ newLine level ++ [']'])
  | record [] => ['\x7b', '\x7d']
  | record fields => '\x7b' :: (prettyFields (level + 1) fields ++ newLine level ++ ['\x7d'])
  | other => atom other

/-- Items, each on a line of its own. -/
def prettyItems (level : Nat) : List Value → List Char
  | [] => []
  | [item] => newLine level ++ prettyChars level item
  | item :: more => newLine level ++ prettyChars level item ++ ',' :: prettyItems level more

/-- Fields, each on a line of its own. -/
def prettyFields (level : Nat) : List (String × Value) → List Char
  | [] => []
  | [(name, value)] => newLine level ++ Json.quoteChars name ++ ':' :: ' ' :: prettyChars level value
  | (name, value) :: more =>
    newLine level ++ Json.quoteChars name ++ ':' :: ' ' :: prettyChars level value
      ++ ',' :: prettyFields level more

end

/-- The text of a value with two blanks of indentation per level. -/
def pretty (v : Value) : String := String.ofList (prettyChars 0 v)

/-- The text that a value contributes to a message. -/
def display : Value → String
  | null => ""
  | text s => s
  | other => other.compact

end Value

end Dialogue

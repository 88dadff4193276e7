import Dialogue.Text.Case

/-!
# Comparable forms of what people write

`normalize` brings an answer into the form in which keywords are compared: lower case, Spanish
accents folded, without the punctuation around it. `containsWords` finds a sequence of whole words
in a text.
-/

namespace Dialogue.Text

/-- A letter without its Spanish accent. -/
def foldAccent (c : Char) : Char :=
  match c with
  | 'á' | 'à' | 'ä' | 'â' => 'a'
  | 'é' | 'è' | 'ë' | 'ê' => 'e'
  | 'í' | 'ì' | 'ï' | 'î' => 'i'
  | 'ó' | 'ò' | 'ö' | 'ô' => 'o'
  | 'ú' | 'ù' | 'ü' | 'û' => 'u'
  | 'ñ' => 'n'
  | other => other

/-- The marks that open a Spanish question or exclamation. -/
def isOpeningMark (c : Char) : Bool := c == '¡' || c == '¿'

/-- Lower case without accents, opening marks, closing punctuation and surrounding white space. -/
def normalizeChars (text : List Char) : List Char :=
  let folded := (lower (trim text)).map foldAccent
  trim (dropEndWhile isAsciiMark (folded.dropWhile isOpeningMark))

/-- The form in which an answer is compared with keywords. -/
def normalize (text : String) : String := String.ofList (normalizeChars text.toList)

/-- The words of a text: its runs of letters and numbers. -/
def wordsOf (text : List Char) : List (List Char) := words (fun c => !isAlphanumeric c) text

/-- Whether `wanted` stands somewhere in `items` as a run of neighbours. -/
def containsRun (wanted : List (List Char)) : List (List Char) → Bool
  | [] => wanted.isEmpty
  | item :: more => wanted.isPrefixOf (item :: more) || containsRun wanted more

/-- Whether the words of `needle`, at least one, occur in `haystack` as neighbouring words. -/
def containsWords (haystack needle : String) : Bool :=
  let wanted := wordsOf needle.toList
  !wanted.isEmpty && containsRun wanted (wordsOf haystack.toList)

/-- The text with its first character in upper case. -/
def capitalize (text : String) : String :=
  match text.toList with
  | [] => ""
  | c :: rest => String.ofList (upperChar c ++ rest)

/-- The last component of a path: what follows the last slash, trailing slashes and a trailing `/.`
left aside. There is none for a path that ends in `..` or names nothing. -/
def fileName? (path : List Char) : Option (List Char) :=
  let parts := (pieces (· == '/') path)
  -- a component that is a dot counts only at the very front
  let parts := match parts with
    | [] => []
    | first :: more => first :: more.filter (· ≠ ['.'])
  match (parts.filter (· ≠ [])).getLast? with
  | none => none
  | some last => if last = ['.', '.'] ∨ last = ['.'] then none else some last

/-- The extension of a file name: what follows its last dot, unless that dot is the first
character or the name has none. -/
def extension? (name : List Char) : Option (List Char) :=
  if name = ['.', '.'] then none
  else
    let tail := name.reverse.takeWhile (· ≠ '.')
    let front := name.reverse.dropWhile (· ≠ '.')
    match front with
    | [] => none
    | [_] => none
    | _ => some tail.reverse

/-- The extension of the file that a path names, in lower case; empty when there is none. -/
def extensionOf (path : String) : String :=
  match fileName? path.toList with
  | none => ""
  | some name => String.ofList (lower ((extension? name).getD []))

end Dialogue.Text

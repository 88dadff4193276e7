import Dialogue.Pattern.PropertyTable
import Dialogue.Pattern.Syntax

/-!
# Names of character properties

Properties are named as `L`, `Letter`, `Greek`, `script=Greek` or `gc:Lu`; case, blanks, hyphens and
underscores in a name do not matter.
-/

namespace Dialogue.Pattern

open Text PropertyTable

/-- A name without blanks, hyphens, underscores and case; `is` at its front is dropped. -/
def plainName (cs : List Char) : String :=
  let kept := (cs.filter fun c => c.toNat < 128 && !(c == ' ' || c == '-' || c == '_')).map Char.toLower
  match after? ['i', 's'] kept with
  | some [] => String.ofList kept
  | some ['c'] => "isc"
  | some rest => String.ofList rest
  | none => String.ofList kept

/-- The tables of a class of characters. -/
def tables (ts : List (Array Nat)) : CharSet := .union (ts.map .table)

/-- Letters of every category. -/
def letters : CharSet :=
  tables [uppercaseLetter, lowercaseLetter, titlecaseLetter, modifierLetter, otherLetter]

/-- Marks of every category. -/
def marks : CharSet := tables [nonspacingMark, spacingMark, enclosingMark]

/-- Numbers of every category. -/
def numbers : CharSet := tables [decimalNumber, letterNumber, otherNumber]

/-- Punctuation of every category. -/
def punctuation : CharSet :=
  tables [connectorPunctuation, dashPunctuation, openPunctuation, closePunctuation,
    initialPunctuation, finalPunctuation, otherPunctuation]

/-- Symbols of every category. -/
def symbols : CharSet := tables [mathSymbol, currencySymbol, modifierSymbol, otherSymbol]

/-- Separators of every category. -/
def separators : CharSet := tables [spaceSeparator, lineSeparator, paragraphSeparator]

/-- Characters of no other category. -/
def others : CharSet :=
  .negation (.union [letters, marks, numbers, punctuation, symbols, separators])

/-- White space. -/
def blanks : CharSet :=
  .union [.range 9 13, .range 32 32, .range 133 133, .range 160 160, .range 5760 5760,
    .range 8192 8202, .range 8232 8233, .range 8239 8239, .range 8287 8287, .range 12288 12288]

/-- The characters of a general category. -/
def category? : String → Option CharSet
  | "l" | "letter" => some letters
  | "lc" | "casedletter" => some (tables [uppercaseLetter, lowercaseLetter, titlecaseLetter])
  | "lu" | "uppercaseletter" => some (.table uppercaseLetter)
  | "ll" | "lowercaseletter" => some (.table lowercaseLetter)
  | "lt" | "titlecaseletter" => some (.table titlecaseLetter)
  | "lm" | "modifierletter" => some (.table modifierLetter)
  | "lo" | "otherletter" => some (.table otherLetter)
  | "m" | "mark" | "combiningmark" => some marks
  | "mn" | "nonspacingmark" => some (.table nonspacingMark)
  | "mc" | "spacingmark" => some (.table spacingMark)
  | "me" | "enclosingmark" => some (.table enclosingMark)
  | "n" | "number" => some numbers
  | "nd" | "decimalnumber" | "digit" => some (.table decimalNumber)
  | "nl" | "letternumber" => some (.table letterNumber)
  | "no" | "othernumber" => some (.table otherNumber)
  | "p" | "punctuation" | "punct" => some punctuation
  | "pc" | "connectorpunctuation" => some (.table connectorPunctuation)
  | "pd" | "dashpunctuation" => some (.table dashPunctuation)
  | "ps" | "openpunctuation" => some (.table openPunctuation)
  | "pe" | "closepunctuation" => some (.table closePunctuation)
  | "pi" | "initialpunctuation" => some (.table initialPunctuation)
  | "pf" | "finalpunctuation" => some (.table finalPunctuation)
  | "po" | "otherpunctuation" => some (.table otherPunctuation)
  | "s" | "symbol" => some symbols
  | "sm" | "mathsymbol" => some (.table mathSymbol)
  | "sc" | "currencysymbol" => some (.table currencySymbol)
  | "sk" | "modifiersymbol" => some (.table modifierSymbol)
  | "so" | "othersymbol" => some (.table otherSymbol)
  | "z" | "separator" => some separators
  | "zs" | "spaceseparator" => some (.table spaceSeparator)
  | "zl" | "lineseparator" => some (.table lineSeparator)
  | "zp" | "paragraphseparator" => some (.table paragraphSeparator)
  | "c" | "other" => some others
  | "cc" | "control" | "cntrl" => some (.table control)
  | "cf" | "format" => some (.table PropertyTable.format)
  | "co" | "privateuse" => some (.table privateUse)
  | "any" => some (.range 0 0x10FFFF)
  | "ascii" => some (.range 0 127)
  | _ => none

/-- The characters of a script. -/
def script? : String → Option CharSet
  | "latin" | "latn" => some (.table latin)
  | "greek" | "grek" => some (.table greek)
  | "cyrillic" | "cyrl" => some (.table cyrillic)
  | "han" | "hani" => some (.table han)
  | "hiragana" | "hira" => some (.table hiragana)
  | "katakana" | "kana" => some (.table katakana)
  | "arabic" | "arab" => some (.table arabic)
  | "hebrew" | "hebr" => some (.table hebrew)
  | "thai" => some (.table PropertyTable.thai)
  | "hangul" | "hang" => some (.table hangul)
  | "common" | "zyyy" => some (.table common)
  | _ => none

/-- The characters with a property that they have or have not. -/
def flag? : String → Option CharSet
  | "alphabetic" | "alpha" => some (.table ClassTable.alphabetic)
  | "uppercase" | "upper" => some (.table ClassTable.uppercase)
  | "lowercase" | "lower" => some (.table ClassTable.lowercase)
  | "whitespace" | "wspace" | "space" => some blanks
  | "cased" => some (.table ClassTable.cased)
  | "caseignorable" | "ci" => some (.table ClassTable.caseIgnorable)
  | _ => none

/-- Why a property is unknown: its name, or the value asked of it. -/
inductive PropertyFault where
  | name
  | value
  deriving DecidableEq, Repr

/-- The characters of a property by its name. -/
def property (name : List Char) : Except PropertyFault CharSet :=
  let name := plainName name
  let found := if name = "cf" ∨ name = "sc" ∨ name = "lc" then category? name
    else (flag? name).or ((category? name).or (script? name))
  match found with
  | some s => .ok s
  | none => .error .name

/-- The characters for which a property has a value. -/
def propertyValue (name value : List Char) : Except PropertyFault CharSet :=
  let sought (s : Option CharSet) : Except PropertyFault CharSet :=
    match s with
    | some s => .ok s
    | none => .error .value
  match plainName name with
  | "generalcategory" | "gc" => sought (category? (plainName value))
  | "script" | "sc" | "scriptextensions" | "scx" => sought (script? (plainName value))
  | _ => .error .name

end Dialogue.Pattern

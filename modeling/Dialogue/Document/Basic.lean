import Dialogue.Value.Basic

/-!
# Documents

A document is what stands in a text before anything is known of its meaning: fields keep their
order and may repeat. A text that breaks off at a mistake still is a document, with the mistake
where it was met; whoever reads the parts in order meets it in its place.

`Document.toValue` is the value that an unbroken document denotes, `Document.ofValue` the document
of a value.

* `Document.reading_ofValue`: the document of a value is read whole.
-/

namespace Dialogue

/-- What is wrong with the text of a document. -/
inductive TextFault where
  | endInValue
  | endInList
  | endInRecord
  | endInText
  | colonExpected
  | commaOrBracketExpected
  | commaOrBraceExpected
  | wordExpected
  | valueExpected
  | badEscape
  | badNumber
  | numberTooLarge
  | controlCharacter
  | nameNotText
  | loneSurrogate
  | surrogateUnfinished
  | commaAtEnd
  | textAfterEnd
  | tooDeep
  | unreadable
  deriving DecidableEq, Repr, Inhabited

namespace TextFault

/-- The wording of a mistake. -/
def message : TextFault → String
  | endInValue => "EOF while parsing a value"
  | endInList => "EOF while parsing a list"
  | endInRecord => "EOF while parsing an object"
  | endInText => "EOF while parsing a string"
  | colonExpected => "expected `:`"
  | commaOrBracketExpected => "expected `,` or `]`"
  | commaOrBraceExpected => "expected `,` or `\x7d`"
  | wordExpected => "expected ident"
  | valueExpected => "expected value"
  | badEscape => "invalid escape"
  | badNumber => "invalid number"
  | numberTooLarge => "number out of range"
  | controlCharacter => "control character (\\u0000-\\u001F) found while parsing a string"
  | nameNotText => "key must be a string"
  | loneSurrogate => "lone leading surrogate in hex escape"
  | surrogateUnfinished => "unexpected end of hex escape"
  | commaAtEnd => "trailing comma"
  | textAfterEnd => "trailing characters"
  | tooDeep => "recursion limit exceeded"
  | unreadable => "the text is not a document"

end TextFault

/-- A document, possibly broken off at a mistake. A plain scalar is kept as it is written, beside
what it means where no text is asked for. The content of a field whose reading stops at a mistake is
kept beside the mistake, if any, that is met when the content is passed over unread. -/
inductive Document where
  | null
  | bool (b : Bool)
  | int (i : Int)
  | real (x : Binary64)
  | text (s : String)
  | plain (written : String) (meaning : Value)
  | list (items : List Document) (broken : Option TextFault)
  | record (fields : List (String × Document)) (broken : Option TextFault)
  | broken (fault : TextFault)
  | stopped (reading : Document) (passing : Option TextFault)
  deriving Repr, Inhabited

namespace Document

mutual

/-- The value of a document; of fields with one name the last counts. The first mistake in the
order of the text is the one reported. -/
def toValue : Document → Except TextFault Value
  | null => .ok .null
  | bool b => .ok (.bool b)
  | int i => .ok (.int i)
  | real x => .ok (.real x)
  | text s => .ok (.text s)
  | plain _ meaning => .ok meaning
  | broken fault => .error fault
  | stopped reading _ => toValue reading
  | list items end? => do
    let values ← itemValues items
    match end? with
    | some fault => .error fault
    | none => .ok (.list values)
  | record fields end? => do
    let pairs ← fieldValues fields
    match end? with
    | some fault => .error fault
    | none => .ok (.record (Fields.ofList pairs))

/-- The values of a list of documents. -/
def itemValues : List Document → Except TextFault (List Value)
  | [] => .ok []
  | item :: more => do
    let value ← toValue item
    let values ← itemValues more
    .ok (value :: values)

/-- The values of a list of fields, in the order of the text. -/
def fieldValues : List (String × Document) → Except TextFault (List (String × Value))
  | [] => .ok []
  | (name, item) :: more => do
    let value ← toValue item
    let values ← fieldValues more
    .ok ((name, value) :: values)

end

mutual

/-- The document of a value. -/
def ofValue : Value → Document
  | .null => null
  | .bool b => bool b
  | .int i => int i
  | .real x => real x
  | .text s => text s
  | .list items => list (ofItems items) none
  | .record fields => record (ofFields fields) none

/-- The documents of a list of values. -/
def ofItems : List Value → List Document
  | [] => []
  | item :: more => ofValue item :: ofItems more

/-- The documents of a list of fields. -/
def ofFields : List (String × Value) → List (String × Document)
  | [] => []
  | (name, value) :: more => (name, ofValue value) :: ofFields more

end

/-- The content of a field as far as it was read. -/
def reading : Document → Document
  | stopped d _ => d
  | d => d

/-- The mistake met when the content of a field is passed over unread. -/
def passing : Document → Option TextFault
  | stopped _ fault => fault
  | broken fault => some fault
  | _ => none

/-- The document of a value is read whole. -/
@[simp] theorem reading_ofValue (v : Value) : (ofValue v).reading = ofValue v := by
  cases v <;> simp [ofValue, reading]

/-- A document with a plain scalar replaced by what it means. -/
def settled : Document → Document
  | plain _ meaning => ofValue meaning
  | d => d

end Document

end Dialogue

import Dialogue.Answer.Refusal
import Dialogue.Calendar.Date
import Dialogue.Flow.Basic
import Dialogue.Number.Reading
import Dialogue.Pattern.Report
import Dialogue.Text.Words

/-!
# Accepting answers

An answer to a question is trimmed and then has to meet the rules of the question in a fixed order:
an optional question may be skipped, a menu asks for one of its options, and everything else has to
have the right length, match the pattern and be of the right type.
-/

namespace Dialogue

open Text

/-- Replies that leave an optional question without an answer, in their normal form. -/
def skipWords : List String := ["skip", "omitir", "saltar", "ninguno", "n/a"]

/-- The option that a reply names: by its key as it is, or by its value or key in normal form. -/
def Fields.option? (options : Fields String) (reply : String) : Option String :=
  match Fields.get? options reply with
  | some value => some value
  | none =>
    let wanted := normalize reply
    (options.find? fun (key, value) => normalize value == wanted || normalize key == wanted).map (·.2)

namespace Answer

/-- A number, with a comma or a point before its fraction. A whole one of moderate size is kept as
such. -/
def number (reply : List Char) : Except Refusal Value :=
  match Binary64.read? (reply.map fun c => if c = ',' then '.' else c) with
  | none => .error .noNumber
  | some x =>
    if !x.isFinite then .error .noNumber
    else
      match x.toInt? with
      | some i => if i.natAbs < tenTo 15 then .ok (.int i) else .ok (.real x)
      | none => .ok (.real x)

/-- Whether a text is an address for mail: one at sign, text on both sides of it, no white space, and
a point inside of the second side. -/
def isEmail (reply : List Char) : Bool :=
  match cut? ['@'] reply with
  | none => false
  | some (name, domain) =>
    name != [] && !reply.any isBlank && !domain.contains '@' &&
      (domain.drop 1).dropLast.contains '.'

/-- A mail address in lower case. -/
def email (reply : List Char) : Except Refusal Value :=
  if isEmail reply then .ok (.text (String.ofList (lower reply))) else .error .noEmail

/-- A telephone number: its digits, after a plus sign if it began with one. -/
def phone (reply : List Char) : Except Refusal Value :=
  let rest := reply.dropWhile (· == '+')
  let digits := rest.filter isDigit
  if !rest.all fun c => isDigit c || " -().".toList.contains c then .error .noPhone
  else if digits.length < 7 ∨ 15 < digits.length then .error .noPhone
  else .ok (.text (String.ofList (if reply.head? = some '+' then '+' :: digits else digits)))

/-- A date in one of the usual forms, with the year first in the value. -/
def date (reply : List Char) : Except Refusal Value :=
  match Date.read? reply with
  | some d => .ok (.text d.toText)
  | none => .error .noDate

/-- An answer of a type. -/
def ofType (type : AnswerType) (reply : List Char) : Except Refusal Value :=
  match type with
  | .text => .ok (.text (String.ofList reply))
  | .number => number reply
  | .email => email reply
  | .phone => phone reply
  | .date => date reply

end Answer

namespace Question

/-- Whether a trimmed reply leaves an optional question without an answer. -/
def isSkippedBy (q : Question) (reply : List Char) : Bool :=
  let folded := normalize (String.ofList reply)
  !q.required && (folded == "" || skipWords.contains folded)

/-- The length that an answer may have. -/
def checkLength (q : Question) (reply : List Char) : Except Refusal Unit :=
  match q.minLength.filter (reply.length < ·), q.maxLength.filter (· < reply.length) with
  | some least, _ => .error (.tooShort least)
  | none, some most => .error (.tooLong most)
  | none, none => .ok ()

/-- The pattern that an answer has to match. -/
def checkPattern (q : Question) (reply : List Char) : Except Refusal Unit :=
  match q.pattern with
  | none => .ok ()
  | some written =>
    match Pattern.read written with
    | .error reason => .error (.internal reason)
    | .ok p => if p.occursIn reply then .ok () else .error (.pattern written)

/-- The value of an answer to an open question. -/
def acceptOpen (q : Question) (reply : List Char) : Except Refusal Value := do
  q.checkLength reply
  q.checkPattern reply
  Answer.ofType q.answerType reply

/-- The value of a reply to a question, or why it is refused. -/
def accept (q : Question) (reply : String) : Except Refusal Value :=
  let trimmed := trim reply.toList
  if trimmed = [] ∨ q.isSkippedBy trimmed then
    if q.required then .error .required else .ok .null
  else if q.options ≠ [] then
    match Fields.option? q.options (String.ofList trimmed) with
    | some value => .ok (.text value)
    | none => .error (.noOption (q.options.map (·.2)))
  else q.acceptOpen trimmed

end Question

/-- Words that agree, in their normal form. -/
def agreeingWords : List String :=
  ["si", "sí", "s", "yes", "y", "ok", "dale", "confirmo", "confirmar", "1"]

/-- Words that decline, in their normal form. -/
def decliningWords : List String := ["no", "n", "0", "cancelar", "nope"]

/-- Whether a reply agrees or declines, when it does either. -/
def consent? (reply : String) : Option Bool :=
  let folded := normalize reply
  if agreeingWords.contains folded then some true
  else if decliningWords.contains folded then some false
  else none

end Dialogue

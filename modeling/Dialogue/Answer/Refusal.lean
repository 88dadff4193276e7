import Dialogue.Value.Basic

/-!
# Refused answers

A refused answer leads to another prompt, with the reason as a complaint.
-/

namespace Dialogue

/-- Why an answer is refused. -/
inductive Refusal where
  | required
  | noOption (options : List String)
  | pattern (written : String)
  | tooShort (least : Nat)
  | tooLong (most : Nat)
  | noNumber
  | noEmail
  | noPhone
  | noDate
  | neitherYesNorNo
  | internal (reason : String)
  deriving DecidableEq, Repr

namespace Refusal

/-- The wording of a refusal. -/
def message : Refusal → String
  | required => "an answer is required"
  | noOption options => "please choose one of: " ++ String.intercalate ", " options
  | pattern _ => "the answer does not have the expected format"
  | tooShort least => "the answer must have at least " ++ toString least ++ " characters"
  | tooLong most => "the answer must have at most " ++ toString most ++ " characters"
  | noNumber => "please enter a number"
  | noEmail => "please enter a valid email address"
  | noPhone => "please enter a valid phone number"
  | noDate => "please use the format YYYY-MM-DD or DD/MM/YYYY"
  | neitherYesNorNo => "please answer yes or no"
  | internal reason => "internal validation error: " ++ reason

/-- A refusal as a document. -/
def toValue : Refusal → Value
  | required => .text "Required"
  | noOption options => .single "NotAnOption" (.list (options.map .text))
  | pattern written => .single "Pattern" (.text written)
  | tooShort least => .single "TooShort" (.int least)
  | tooLong most => .single "TooLong" (.int most)
  | noNumber => .text "NotANumber"
  | noEmail => .text "InvalidEmail"
  | noPhone => .text "InvalidPhone"
  | noDate => .text "InvalidDate"
  | neitherYesNorNo => .text "NotYesOrNo"
  | internal reason => .single "Internal" (.text reason)

end Refusal

end Dialogue

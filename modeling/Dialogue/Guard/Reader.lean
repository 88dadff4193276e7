import Dialogue.Guard.Basic

/-!
# Reading guards

A text is first cut at its junctions: a junction is `AND` or `OR` between white space, outside of
the shielded spans of tokens and quoted values. Each piece between junctions then has to be a
predicate. The variable of a predicate ends at the first closing braces that an operator follows.
-/

namespace Dialogue

open Text

/-- Why a text is no guard. -/
inductive GuardFault where
  | empty
  | unreadable (predicate : String)
  | unknownOperator (written : String)
  | valueMissing (operator : String)
  | valueUnexpected (operator : String)
  deriving DecidableEq, Repr

/-- A text that is no guard, with the reason. -/
structure GuardError where
  written : String
  fault : GuardFault
  deriving DecidableEq, Repr

namespace GuardFault

/-- The wording of a reason. -/
def reason : GuardFault → String
  | empty => "empty condition"
  | unreadable predicate => "cannot parse `" ++ predicate ++ "`"
  | unknownOperator written => "unknown operator `" ++ written ++ "`"
  | valueMissing operator => "operator `" ++ operator ++ "` needs a value"
  | valueUnexpected operator => "unexpected value after `" ++ operator ++ "`"

end GuardFault

/-- The wording of an error. -/
def GuardError.message (e : GuardError) : String :=
  e.fault.reason ++ " in `" ++ e.written ++ "`"

namespace Guard

/-- A range of positions, the last one excluded. -/
structure Span where
  start : Nat
  stop : Nat
  deriving DecidableEq, Repr

/-- Whether a position lies in a range. -/
def Span.covers (s : Span) (i : Nat) : Bool := s.start ≤ i && i < s.stop

/-- The spans of tokens and quoted values from position `i` on. The first `skip` characters belong to
a span already found; `atWord` says whether a word may begin here. -/
def spansFrom : (skip : Nat) → (atWord : Bool) → (i : Nat) → List Char → List Span
  | _, _, _, [] => []
  | skip + 1, _, i, _ :: cs => spansFrom skip false (i + 1) cs
  | 0, atWord, i, c :: cs =>
    if begins ['\x7b', '\x7b'] (c :: cs) then
      let length := match cut? ['\x7d', '\x7d'] (c :: cs) with
        | some (inner, _) => inner.length + 2
        | none => cs.length + 1
      ⟨i, i + length⟩ :: spansFrom (length - 1) false (i + 1) cs
    else if (c = '"' ∨ c = '\'') ∧ atWord then
      match cut? [c] cs with
      | some (inner, _) =>
        ⟨i, i + inner.length + 2⟩ :: spansFrom (inner.length + 1) false (i + 1) cs
      | none => spansFrom 0 (isBlank c) (i + 1) cs
    else spansFrom 0 (isBlank c) (i + 1) cs

/-- The spans of tokens in braces and of quoted values. A quotation mark opens a span only at the
start of a word, and only when it is closed. -/
def shieldedSpans (cs : List Char) : List Span := spansFrom 0 true 0 cs

/-- A junction in a text, with the white space around it. -/
structure JunctionAt where
  span : Span
  junction : Junction
  deriving DecidableEq, Repr

/-- The junction at the front of a text, with the number of characters it takes. -/
def junctionHere? (cs : List Char) : Option (Junction × Nat) :=
  let gap := cs.takeWhile isBlank
  let word := cs.dropWhile isBlank
  let ending (j : Junction) (rest : List Char) : Option (Junction × Nat) :=
    let tail := rest.takeWhile isBlank
    if tail = [] then none else some (j, gap.length + j.text.length + tail.length)
  if gap = [] then none
  else
    match after? ['A', 'N', 'D'] word with
    | some rest => ending .and rest
    | none => (after? ['O', 'R'] word).bind (ending .or)

/-- The junctions of a text from position `i` on; the first `skip` characters belong to one already
found. -/
def junctionsFrom : (skip : Nat) → (i : Nat) → List Char → List JunctionAt
  | _, _, [] => []
  | skip + 1, i, _ :: cs => junctionsFrom skip (i + 1) cs
  | 0, i, c :: cs =>
    match junctionHere? (c :: cs) with
    | some (j, n) => ⟨⟨i, i + n⟩, j⟩ :: junctionsFrom (n - 1) (i + 1) cs
    | none => junctionsFrom 0 (i + 1) cs

/-- The junctions of a text that no span shields. -/
def junctions (cs : List Char) : List JunctionAt :=
  let spans := shieldedSpans cs
  (junctionsFrom 0 0 cs).filter fun j => !spans.any (·.covers j.span.start)

/-- Cuts a text that begins at position `offset`: the piece before the first junction, and each
junction with the text it takes and the piece after it. -/
def cutAt (offset : Nat) (cs : List Char) :
    List JunctionAt → List Char × List (Junction × List Char × List Char)
  | [] => (cs, [])
  | j :: more =>
    let rest := cs.drop (j.span.start - offset)
    let length := j.span.stop - j.span.start
    let (next, others) := cutAt j.span.stop (rest.drop length) more
    (cs.take (j.span.start - offset), (j.junction, rest.take length, next) :: others)

/-- The pieces of a text and the junctions between them. -/
def pieces (cs : List Char) : List Char × List (Junction × List Char × List Char) :=
  cutAt 0 cs (junctions cs)

/-- Whether a character is a letter of an operator, without regard to case. -/
def sameLetter (letter c : Char) : Bool :=
  lowerSingle c == letter || (letter == 's' && c == 'ſ')

/-- The text after a word of letters in either case. -/
def afterWord? : (word cs : List Char) → Option (List Char)
  | [], cs => some cs
  | _ :: _, [] => none
  | w :: word, c :: cs => if sameLetter w c then afterWord? word cs else none

/-- The spellings of operators, in the order in which they are tried. -/
def spellings : List (List Char → Option (List Char)) :=
  [fun cs => do
      let rest ← afterWord? "not".toList cs
      if rest.takeWhile isBlank = [] then none
      else afterWord? "exists".toList (rest.dropWhile isBlank),
    afterWord? "exists".toList, afterWord? "not_equals".toList, afterWord? "equals".toList,
    afterWord? "not_contains".toList, afterWord? "contains".toList,
    afterWord? "==".toList, afterWord? "!=".toList]

/-- An operator at the front of a text, as it is written, with what follows it: nothing, or a value
after white space. -/
def operatorHere? (cs : List Char) : Option (List Char × List Char) :=
  spellings.findSome? fun spelling => do
    let rest ← spelling cs
    let operator := cs.take (cs.length - rest.length)
    match rest with
    | [] => some (operator, [])
    | c :: _ => if isBlank c then some (operator, rest.dropWhile isBlank) else none

/-- A variable that ends as early as possible: its name, the operator and the value, as they are
written. `held` holds the characters of the name, nearest first. -/
def variableFrom (held : List Char) : List Char → Option (List Char × List Char × List Char)
  | [] => none
  | c :: cs =>
    let held := c :: held
    let here := do
      let rest ← after? ['\x7d', '\x7d'] (cs.dropWhile isBlank)
      let (operator, value) ← operatorHere? (rest.dropWhile isBlank)
      some (held.reverse, operator, value)
    match here with
    | some found => some found
    | none => variableFrom held cs

/-- A variable after some of the white space at the front, as much of it as possible left aside. -/
def variableAfter (cs : List Char) : (blanks : Nat) → Option (List Char × List Char × List Char)
  | 0 => variableFrom [] cs
  | n + 1 =>
    match variableFrom [] (cs.drop (n + 1)) with
    | some found => some found
    | none => variableAfter cs n

/-- The operator of a spelling, in lower case and with single blanks. -/
def operatorOf (written : List Char) : Except GuardFault Operator :=
  let plain := join [' '] (words isBlank (lower written))
  match String.ofList plain with
  | "exists" => .ok .isSet
  | "not exists" => .ok .isUnset
  | "equals" | "==" => .ok .equals
  | "not_equals" | "!=" => .ok .differs
  | "contains" => .ok .contains
  | "not_contains" => .ok .lacks
  | other => .error (.unknownOperator other)

/-- The predicate that a piece of a guard writes. -/
def readPredicate (piece : List Char) : Except GuardFault Predicate :=
  let piece := trim piece
  let found := do
    let inner ← after? ['\x7b', '\x7b'] piece
    variableAfter inner (inner.takeWhile isBlank).length
  match found with
  | none => .error (.unreadable (String.ofList piece))
  | some (subject, operator, value) =>
    match operatorOf operator with
    | .error fault => .error fault
    | .ok op =>
      let value := trim value
      if op.needsValue ∧ value = [] then .error (.valueMissing (String.ofList operator))
      else if !op.needsValue ∧ value ≠ [] then
        .error (.valueUnexpected (String.ofList operator))
      else
        .ok ⟨String.ofList subject, op, if value = [] then none else some (String.ofList value)⟩

/-- The predicates after the first. -/
def readRest : List (Junction × List Char × List Char) →
    Except GuardFault (List (Junction × Predicate))
  | [] => .ok []
  | (junction, _, piece) :: more =>
    match readPredicate piece with
    | .error fault => .error fault
    | .ok p =>
      match readRest more with
      | .error fault => .error fault
      | .ok rest => .ok ((junction, p) :: rest)

/-- The guard that a text writes. -/
def readChars (cs : List Char) : Except GuardFault Guard :=
  if trim cs = [] then .error .empty
  else
    let (first, more) := pieces cs
    match readPredicate first with
    | .error fault => .error fault
    | .ok p =>
      match readRest more with
      | .error fault => .error fault
      | .ok rest => .ok ⟨p, rest⟩

/-- The guard that a text writes, or why it writes none. -/
def read (written : String) : Except GuardError Guard :=
  match readChars written.toList with
  | .ok g => .ok g
  | .error fault => .error ⟨written, fault⟩

/-- Whether the guard that a text writes holds; a text that writes none does not. -/
def holdsWritten (scope : Value) (written : String) : Bool :=
  match read written with
  | .ok g => g.holds scope
  | .error _ => false

end Guard

end Dialogue

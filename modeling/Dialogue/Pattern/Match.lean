import Dialogue.Pattern.Syntax

/-!
# Matching

A pattern moves a set of positions in a text to the set of positions where its matches end. A text
matches when some match begins anywhere in it.
-/

namespace Dialogue.Pattern

/-- The characters on both sides of a position. -/
def sides (text : Array Char) (i : Nat) : Option Char × Option Char :=
  (if i = 0 then none else text[i - 1]?, text[i]?)

/-- Whether a character belongs to a word. -/
def isOfWord (asciiOnly : Bool) (c : Char) : Bool :=
  Text.isWordChar c && (!asciiOnly || c.toNat < 128)

/-- Whether an assertion holds between two neighbours. -/
def holdsBetween (before after : Option Char) : Assertion → Bool
  | .textStart => before.isNone
  | .textEnd => after.isNone
  | .lineStart false => before.isNone || before == some '\n'
  | .lineEnd false => after.isNone || after == some '\n'
  | .lineStart true =>
    before.isNone || before == some '\n' || (before == some '\r' && after != some '\n')
  | .lineEnd true =>
    after.isNone || after == some '\r' || (after == some '\n' && before != some '\r')
  | .word place asciiOnly =>
    let left := before.any (isOfWord asciiOnly)
    let right := after.any (isOfWord asciiOnly)
    match place with
    | .boundary => left != right
    | .inside => left == right
    | .start => !left && right
    | .stop => left && !right
    | .notAfterWord => !left
    | .notBeforeWord => !right

/-- Whether an assertion holds at a position. -/
def holdsAt (text : Array Char) (i : Nat) (a : Assertion) : Bool :=
  let (before, after) := sides text i
  holdsBetween before after a

/-- Merges two ascending lists of positions. -/
def mergePositions (a b : List Nat) : List Nat :=
  (a ++ b).mergeSort (· ≤ ·) |>.eraseReps

/-- Applies a step a fixed number of times; a set without positions stays as it is. -/
def times (step : List Nat → List Nat) : Nat → List Nat → List Nat
  | 0, s => s
  | n + 1, s => if s = [] then [] else times step n (step s)

/-- The positions reached by at most `n` steps; a round that adds nothing is the last. -/
def upTo (step : List Nat → List Nat) : Nat → (reached fresh : List Nat) → List Nat
  | 0, reached, _ => reached
  | n + 1, reached, fresh =>
    let next := (step fresh).filter fun i => !reached.contains i
    if next = [] then reached else upTo step n (mergePositions reached next) next

mutual

/-- The positions where matches end that begin at one of some positions. -/
def advance (text : Array Char) (starts : List Nat) : Pattern → List Nat
  | .set s => starts.filterMap fun i =>
      match text[i]? with
      | some c => if s.mem c then some (i + 1) else none
      | none => none
  | .assertion a => starts.filter fun i => holdsAt text i a
  | .sequence parts => advanceAll text starts parts
  | .choice parts => advanceAny text starts parts
  | .repeated p least most =>
    let step := fun starts => advance text starts p
    let after := times step least starts
    let more := match most with
      | some n => n - least
      | none => text.size + 1
    upTo step more after after

/-- The positions where matches of a sequence end. -/
def advanceAll (text : Array Char) (starts : List Nat) : List Pattern → List Nat
  | [] => starts
  | p :: more => advanceAll text (advance text starts p) more

/-- The positions where matches of one of several patterns end. -/
def advanceAny (text : Array Char) (starts : List Nat) : List Pattern → List Nat
  | [] => []
  | p :: more => mergePositions (advance text starts p) (advanceAny text starts more)

end

/-- Whether a text has a match somewhere. -/
def occursIn (p : Pattern) (text : List Char) : Bool :=
  let text := text.toArray
  advance text (List.range (text.size + 1)) p != []

end Dialogue.Pattern

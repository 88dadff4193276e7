import Dialogue.Text.Class
import Dialogue.Number.Decimal

/-!
# Numbers that people type

`naturalOf?` reads a natural number of 64 bits, `Binary64.read?` a floating-point number: digits
with a point and an exponent, or the words for infinity and not-a-number.
-/

namespace Dialogue

open Text

/-- The natural number that a run of digits writes, a plus sign allowed before it, below a
limit. -/
def naturalBelow? (limit : Nat) (cs : List Char) : Option Nat :=
  let digits := match cs with
    | '+' :: rest => rest
    | _ => cs
  if digits ≠ [] ∧ digits.all isDigit then
    let n := natOfDigits digits
    if n < limit then some n else none
  else none

/-- A natural number of 64 bits. -/
def naturalOf? (cs : List Char) : Option Nat := naturalBelow? (twoTo 64) cs

/-- An integer of 64 bits, with an optional sign. -/
def integerOf? (cs : List Char) : Option Int :=
  let (negative, digits) := match cs with
    | '+' :: rest => (false, rest)
    | '-' :: rest => (true, rest)
    | _ => (false, cs)
  if digits ≠ [] ∧ digits.all isDigit then
    let n := natOfDigits digits
    if negative then (if n ≤ twoTo 63 then some (-(n : Int)) else none)
    else if n < twoTo 63 then some (n : Int) else none
  else none

namespace Binary64

/-- The exponent at the end of a number: nothing, or `e` with digits after an optional sign. -/
def exponentOf? : List Char → Option Int
  | [] => some 0
  | c :: rest =>
    if c = 'e' ∨ c = 'E' then
      let (down, digits) := match rest with
        | '-' :: rest => (true, rest)
        | '+' :: rest => (false, rest)
        | _ => (false, rest)
      if digits ≠ [] ∧ digits.all isDigit then
        let e : Int := natOfDigits digits
        some (if down then -e else e)
      else none
    else none

/-- A number without its sign. -/
def readMagnitude? (negative : Bool) (cs : List Char) : Option Binary64 :=
  let word := lowerAsciiOf cs
  if word = "inf".toList ∨ word = "infinity".toList then some (.infinite negative)
  else if word = "nan".toList then some .nan
  else
    let whole := cs.takeWhile isDigit
    let rest := cs.dropWhile isDigit
    let (fraction, rest) := match rest with
      | '.' :: rest => (rest.takeWhile isDigit, rest.dropWhile isDigit)
      | _ => ([], rest)
    if whole = [] ∧ fraction = [] then none
    else (exponentOf? rest).map fun e =>
      ofDecimal negative (natOfDigits (whole ++ fraction)) (e - fraction.length)
where
  /-- The letters of the ASCII range in lower case. -/
  lowerAsciiOf (cs : List Char) : List Char := cs.map Char.toLower

/-- The floating-point number that a text writes. -/
def read? (cs : List Char) : Option Binary64 :=
  match cs with
  | '+' :: rest => readMagnitude? false rest
  | '-' :: rest => readMagnitude? true rest
  | _ => readMagnitude? false cs

end Binary64

end Dialogue

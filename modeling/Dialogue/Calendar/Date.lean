import Dialogue.Number.Decimal
import Dialogue.Number.Power
import Dialogue.Text.Basic

/-!
# Dates

A date is a year, a month and a day of the Gregorian calendar, which is taken to hold at all times.
Days are counted from the first of January 1970.
-/

namespace Dialogue

/-- A date. -/
structure Date where
  year : Int
  month : Nat
  day : Nat
  deriving DecidableEq, Repr, Inhabited

/-- Why a text is no date or no time. -/
inductive TimeFault where
  | outOfRange
  | badCharacter
  | tooShort
  | tooLong
  deriving DecidableEq, Repr

namespace TimeFault

/-- The wording of a fault. -/
def message : TimeFault → String
  | outOfRange => "input is out of range"
  | badCharacter => "input contains invalid characters"
  | tooShort => "premature end of input"
  | tooLong => "trailing input"

end TimeFault

namespace Date

/-- Whether a year has a leap day. -/
def isLeap (year : Int) : Bool := year % 4 == 0 && (year % 100 != 0 || year % 400 == 0)

/-- The number of days of a month. -/
def daysIn (year : Int) (month : Nat) : Nat :=
  if month = 2 then (if isLeap year then 29 else 28)
  else if month = 4 ∨ month = 6 ∨ month = 9 ∨ month = 11 then 30
  else 31

/-- The first year that dates reach. -/
def firstYear : Int := -262143

/-- The last year that dates reach. -/
def lastYear : Int := 262142

/-- The date of a year, a month and a day, when there is one. -/
def of? (year : Int) (month day : Nat) : Option Date :=
  if firstYear ≤ year ∧ year ≤ lastYear ∧ 1 ≤ month ∧ month ≤ 12 ∧ 1 ≤ day
      ∧ day ≤ daysIn year month then
    some ⟨year, month, day⟩
  else none

/-- The number of days since the first of January 1970. The year is taken to begin in March, so that
the leap day is its last. -/
def toDays (d : Date) : Int :=
  let year := if d.month ≤ 2 then d.year - 1 else d.year
  let dayOfYear : Int := (153 * ((d.month + 9) % 12) + 2) / 5 + d.day - 1
  let yearOfEra := year % 400
  let dayOfEra := yearOfEra * 365 + yearOfEra / 4 - yearOfEra / 100 + dayOfYear
  year / 400 * 146097 + dayOfEra - 719468

/-- The date a number of days after the first of January 1970. -/
def ofDays (days : Int) : Date :=
  let z := days + 719468
  let dayOfEra := z % 146097
  let yearOfEra := (dayOfEra - dayOfEra / 1460 + dayOfEra / 36524 - dayOfEra / 146096) / 365
  let dayOfYear := dayOfEra - (365 * yearOfEra + yearOfEra / 4 - yearOfEra / 100)
  let shifted := (5 * dayOfYear + 2) / 153
  let day := dayOfYear - (153 * shifted + 2) / 5 + 1
  let month := if shifted < 10 then shifted + 3 else shifted - 9
  let year := yearOfEra + z / 146097 * 400 + (if month ≤ 2 then 1 else 0)
  ⟨year, month.toNat, day.toNat⟩

/-- A number in at least so many digits. -/
def padded (width n : Nat) : List Char :=
  let digits := digitsOf n
  List.replicate (width - digits.length) '0' ++ digits

/-- A year in four digits; with a sign where four digits do not suffice. -/
def yearText (year : Int) : List Char :=
  if 0 ≤ year ∧ year ≤ 9999 then padded 4 year.toNat
  else (if year < 0 then '-' else '+') :: padded 4 year.natAbs

/-- A date with hyphens, the year first. -/
def toChars (d : Date) : List Char :=
  yearText d.year ++ '-' :: padded 2 d.month ++ '-' :: padded 2 d.day

/-- A date with hyphens, the year first. -/
def toText (d : Date) : String := String.ofList d.toChars

end Date

namespace TimeText

open Text

/-- The greatest number that is read before it is out of range. -/
def greatest : Nat := twoTo 63 - 1

/-- A number of one up to `width` digits. -/
def number (width : Nat) (cs : List Char) : Except TimeFault (Nat × List Char) :=
  let digits := (cs.take width).takeWhile isDigit
  if cs = [] then .error .tooShort
  else if digits = [] then .error .badCharacter
  else
    let n := natOfDigits digits
    if greatest < n then .error .outOfRange else .ok (n, cs.drop digits.length)

/-- A number after white space. -/
def field (width : Nat) (cs : List Char) : Except TimeFault (Nat × List Char) :=
  number width (trimFront cs)

/-- A year after white space: of up to four digits, or of any number of digits after a sign. -/
def year (cs : List Char) : Except TimeFault (Int × List Char) := do
  match trimFront cs with
  | '-' :: rest =>
    let (n, rest) ← number rest.length rest
    return (-n, rest)
  | '+' :: rest =>
    let (n, rest) ← number rest.length rest
    return (n, rest)
  | rest =>
    let (n, rest) ← number 4 rest
    return (n, rest)

/-- A mark that has to stand next. -/
def mark (c : Char) : List Char → Except TimeFault (List Char)
  | [] => .error .tooShort
  | d :: rest => if d = c then .ok rest else .error .badCharacter

/-- A number that has to lie between two limits. -/
def within (least most n : Nat) : Except TimeFault Unit :=
  if least ≤ n ∧ n ≤ most then .ok () else .error .outOfRange

end TimeText

namespace Date

open TimeText

/-- The date of its parts. -/
def ofParts (year : Int) (month day : Nat) : Except TimeFault Date := do
  within 1 12 month
  within 1 31 day
  match of? year month day with
  | some d => .ok d
  | none => .error .outOfRange

/-- The date in a text with the year first and the marks given. -/
def readYearFirst (separator : Char) (cs : List Char) : Except TimeFault (Date × List Char) := do
  let (y, cs) ← TimeText.year cs
  let cs ← mark separator cs
  let (m, cs) ← field 2 cs
  let cs ← mark separator cs
  let (d, cs) ← field 2 cs
  return (← ofParts y m d, cs)

/-- The date in a text with the day first and the marks given. -/
def readDayFirst (separator : Char) (cs : List Char) : Except TimeFault (Date × List Char) := do
  let (d, cs) ← field 2 cs
  let cs ← mark separator cs
  let (m, cs) ← field 2 cs
  let cs ← mark separator cs
  let (y, cs) ← TimeText.year cs
  return (← ofParts y m d, cs)

/-- The date that makes up a whole text: with the year first and hyphens, or with the day first and
slashes or hyphens. -/
def read? (cs : List Char) : Option Date :=
  let whole (r : Except TimeFault (Date × List Char)) : Option Date :=
    match r with
    | .ok (d, []) => some d
    | _ => none
  whole (readYearFirst '-' cs) <|> whole (readDayFirst '/' cs) <|> whole (readDayFirst '-' cs)

end Date

end Dialogue

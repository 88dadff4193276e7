import Dialogue.Calendar.Date

/-!
# Moments

A moment is a number of seconds since the start of 1970 with a part of a second. Moments end with the
last year that dates reach.
-/

namespace Dialogue

/-- A moment: seconds since the start of 1970, and nanoseconds since then; a thousand million of them
or more within a leap second. -/
structure Moment where
  seconds : Int
  nanos : Nat
  deriving DecidableEq, Repr, Inhabited

namespace Moment

/-- Whether a moment is not after another. -/
def le (a b : Moment) : Bool :=
  a.seconds < b.seconds || (a.seconds == b.seconds && a.nanos ≤ b.nanos)

/-- A whole number of seconds since the start of 1970. -/
def ofSeconds (seconds : Int) : Moment := ⟨seconds, 0⟩

/-- The seconds of the last moment. -/
def lastSecond : Int := 8210266876799

/-- The last moment. -/
def latest : Moment := ⟨lastSecond, 999999999⟩

/-- The seconds of the first moment. -/
def firstSecond : Int := -8334601228800

/-- The greatest number of seconds that can be added at once. -/
def greatestSpan : Int := ((twoTo 63 - 1) / 1000 : Nat)

/-- The moment a number of seconds later, when there is one. Leaving a leap second takes the part of a
second along and counts on from the second that it prolongs, or back from the one after. -/
def add? (m : Moment) (seconds : Int) : Option Moment :=
  let stays := m.nanos < 1000000000 ∨ seconds = 0
  let sum := m.seconds + seconds + (if ¬stays ∧ seconds < 0 then 1 else 0)
  if -greatestSpan ≤ seconds ∧ seconds ≤ greatestSpan ∧ firstSecond ≤ sum ∧ sum ≤ lastSecond then
    some ⟨sum, if stays then m.nanos else m.nanos - 1000000000⟩
  else none

/-- The moment a number of seconds later, at most the last one. -/
def plus (m : Moment) (seconds : Int) : Moment := (m.add? seconds).getD latest

/-- A part of a second in three, six or nine digits, whichever suffices. -/
def fractionText (nanos : Nat) : List Char :=
  if nanos = 0 then []
  else if nanos % 1000000 = 0 then '.' :: Date.padded 3 (nanos / 1000000)
  else if nanos % 1000 = 0 then '.' :: Date.padded 6 (nanos / 1000)
  else '.' :: Date.padded 9 nanos

/-- A moment in universal time, with what stands between date and time and what follows. A leap
second is the sixtieth of its minute. -/
def toChars (between zone : List Char) (m : Moment) : List Char :=
  let date := Date.ofDays (m.seconds / 86400)
  let second := (m.seconds % 86400).toNat
  date.toChars ++ between ++ Date.padded 2 (second / 3600) ++
    ':' :: Date.padded 2 (second / 60 % 60) ++
    ':' :: Date.padded 2 (second % 60 + m.nanos / 1000000000) ++
    fractionText (m.nanos % 1000000000) ++ zone

/-- A moment as text for documents. -/
def toText (m : Moment) : String := String.ofList (m.toChars ['T'] ['Z'])

/-- A moment as text for messages. -/
def display (m : Moment) : String := String.ofList (m.toChars [' '] " UTC".toList)

open Text TimeText

/-- A part of a second after its point; digits beyond the ninth are dropped. -/
def readFraction (cs : List Char) : Except TimeFault (Nat × List Char) :=
  match cs with
  | '.' :: rest => do
    let (n, after) ← number 9 rest
    let digits := rest.length - after.length
    return (n * tenTo (9 - digits), after.dropWhile isDigit)
  | rest => .ok (0, rest)

/-- Two digits. -/
def twoDigits : List Char → Except TimeFault (Nat × List Char)
  | a :: b :: rest =>
    if isDigit a && isDigit b then .ok (natOfDigits [a, b], rest) else .error .badCharacter
  | _ => .error .tooShort

/-- The distance of a time zone from universal time, in seconds. -/
def readZone (cs : List Char) : Except TimeFault (Int × List Char) :=
  let signed (sign : Int) (rest : List Char) : Except TimeFault (Int × List Char) := do
    let (hours, rest) ← twoDigits rest
    let rest := rest.dropWhile fun c => c == ':' || isBlank c
    let (minutes, rest) ← twoDigits rest
    within 0 59 minutes
    within 0 23 hours
    return (sign * ((hours * 60 + minutes) * 60 : Nat), rest)
  match cs with
  | 'Z' :: rest | 'z' :: rest => .ok (0, rest)
  | '+' :: rest => signed 1 rest
  | '-' :: rest | '−' :: rest => signed (-1) rest
  | [] => .error .tooShort
  | cs =>
    if lowerAsciiThree cs = ['u', 't', 'c'] then .ok (0, cs.drop 3) else .error .badCharacter
where
  /-- The first three characters in lower case. -/
  lowerAsciiThree (cs : List Char) : List Char := (cs.take 3).map Char.toLower

/-- The parts of a date between hyphens, with white space allowed. -/
def readDate (cs : List Char) : Except TimeFault ((Int × Nat × Nat) × List Char) := do
  let (y, cs) ← TimeText.year cs
  let cs ← mark '-' (trimFront cs)
  let (m, cs) ← field 2 cs
  within 1 12 m
  let cs ← mark '-' (trimFront cs)
  let (d, cs) ← field 2 cs
  within 1 31 d
  return ((y, m, d), cs)

/-- The seconds and nanoseconds of a time between colons, with white space allowed. -/
def readTime (cs : List Char) : Except TimeFault ((Nat × Nat) × List Char) := do
  let (h, cs) ← field 2 cs
  within 0 23 h
  let cs ← mark ':' (trimFront cs)
  let (m, cs) ← field 2 cs
  within 0 59 m
  let cs ← mark ':' (trimFront cs)
  let (s, cs) ← field 2 cs
  within 0 60 s
  let (nanos, cs) ← readFraction cs
  if s = 60 then return (((h * 60 + m) * 60 + 59, nanos + 1000000000), trimFront cs)
  else return (((h * 60 + m) * 60 + s, nanos), trimFront cs)

/-- The moment that a text writes: a date and a time with `T` or a blank between them, and a time
zone. -/
def read (text : String) : Except TimeFault Moment := do
  let ((y, m, d), cs) ← readDate text.toList
  let cs ← match cs with
    | 't' :: rest | 'T' :: rest | ' ' :: rest => .ok rest
    | [] => .error TimeFault.tooShort
    | _ => .error .badCharacter
  let ((seconds, nanos), cs) ← readTime cs
  let (offset, cs) ← readZone cs
  if trimFront cs ≠ [] then throw .tooLong
  match Date.of? y m d with
  | none => throw .outOfRange
  | some date => return ⟨date.toDays * 86400 + seconds - offset, nanos⟩

end Moment

end Dialogue

import Dialogue.Text.Basic
import Dialogue.Document.Basic

/-!
# Reading JSON

The reader walks a list of characters once. Each function answers with what it read and with the
characters that follow, or with nothing to follow after a mistake. Nesting deeper than 127 levels is
refused.

A number with a point, with an exponent or beyond 64 bits is a floating-point number: its first
digits, as many as fit 64 bits, times or divided by a power of ten, rounded once for the digits and
once for the scaling.

A field whose content cannot be read may still be passed over: `passValue` goes past content that
nobody asks for.
-/

namespace Dialogue

namespace Json

open Text

/-- Drops blanks, tabs and ends of lines. -/
def skipSpace (cs : List Char) : List Char :=
  cs.dropWhile fun c => c == ' ' || c == '\n' || c == '\t' || c == '\r'

/-- The four hexadecimal digits of an escape. -/
def readHex : List Char → Except TextFault (Nat × List Char)
  | a :: b :: c :: d :: rest =>
    match hexValue? a, hexValue? b, hexValue? c, hexValue? d with
    | some a, some b, some c, some d => .ok (((a * 16 + b) * 16 + c) * 16 + d, rest)
    | _, _, _, _ => .error .badEscape
  | _ => .error .endInText

/-- The character of an escape that begins with `\u`; one beyond the basic plane takes two. -/
def readUnicode (cs : List Char) : Except TextFault (Char × List Char) := do
  let (high, rest) ← readHex cs
  if 0xDC00 ≤ high ∧ high ≤ 0xDFFF then .error .loneSurrogate
  else if high < 0xD800 ∨ 0xDBFF < high then .ok (Char.ofNat high, rest)
  else
    match rest with
    | [] => .error .endInText
    | '\\' :: [] => .error .endInText
    | '\\' :: 'u' :: rest =>
      let (low, rest) ← readHex rest
      if low < 0xDC00 ∨ 0xDFFF < low then .error .loneSurrogate
      else .ok (Char.ofNat (0x10000 + (high - 0xD800) * 0x400 + (low - 0xDC00)), rest)
    | _ => .error .surrogateUnfinished

/-- The characters up to the closing quotation mark. -/
def readTextFrom : (fuel : Nat) → List Char → List Char → Except TextFault (String × List Char)
  | 0, _, _ => .error .endInText
  | _ + 1, _, [] => .error .endInText
  | fuel + 1, done, c :: rest =>
    if c = '"' then .ok (String.ofList done.reverse, rest)
    else if c = '\\' then
      match rest with
      | [] => .error .endInText
      | '"' :: rest => readTextFrom fuel ('"' :: done) rest
      | '\\' :: rest => readTextFrom fuel ('\\' :: done) rest
      | '/' :: rest => readTextFrom fuel ('/' :: done) rest
      | 'b' :: rest => readTextFrom fuel ('\x08' :: done) rest
      | 'f' :: rest => readTextFrom fuel ('\x0c' :: done) rest
      | 'n' :: rest => readTextFrom fuel ('\n' :: done) rest
      | 'r' :: rest => readTextFrom fuel ('\r' :: done) rest
      | 't' :: rest => readTextFrom fuel ('\t' :: done) rest
      | 'u' :: rest =>
        match readUnicode rest with
        | .ok (c, rest) => readTextFrom fuel (c :: done) rest
        | .error fault => .error fault
      | _ => .error .badEscape
    else if c.toNat < 32 then .error .controlCharacter
    else readTextFrom fuel (c :: done) rest

/-- The text after an opening quotation mark. -/
def readText (cs : List Char) : Except TextFault (String × List Char) := readTextFrom (cs.length + 1) [] cs

/-- The greatest natural number of 64 bits. -/
def greatestNatural : Nat := twoTo 64 - 1

/-- Multiplies by a power of ten in one rounded operation, or divides by one; powers beyond
`10 ^ 308` take several. -/
def scale : (fuel : Nat) → Binary64 → Int → Except TextFault Binary64
  | 0, x, _ => .ok x
  | fuel + 1, x, exponent =>
    if exponent.natAbs ≤ 308 then
      let power := Binary64.ofNat (tenTo exponent.natAbs)
      if 0 ≤ exponent then
        let y := x.mul power
        if y.isFinite then .ok y else .error .numberTooLarge
      else .ok (x.div power)
    else if x.isZero then .ok x
    else if 0 ≤ exponent then .error .numberTooLarge
    else scale fuel (x.div (Binary64.ofNat (tenTo 308))) (exponent + 308)

/-- The floating-point number of some digits and a power of ten. -/
def toReal (positive : Bool) (digits : Nat) (exponent : Int) : Except TextFault Binary64 := do
  let x ← scale 8 (Binary64.ofNat digits) (max exponent (-2147483648))
  .ok (if positive then x else x.neg)

/-- Digits as long as they fit 64 bits: the number they make, how many there were and the rest. -/
def takeDigits (n count : Nat) : List Char → Nat × Nat × List Char
  | [] => (n, count, [])
  | c :: rest =>
    if isDigit c then
      let next := n * 10 + (c.toNat - '0'.toNat)
      if greatestNatural < next then (n, count, c :: rest) else takeDigits next (count + 1) rest
    else (n, count, c :: rest)

/-- The exponent and what follows it. -/
def readExponent (positive : Bool) (digits : Nat) (exponent : Int) (cs : List Char) :
    Except TextFault (Binary64 × List Char) := do
  let (up, cs) := match cs with
    | '+' :: rest => (true, rest)
    | '-' :: rest => (false, rest)
    | _ => (true, cs)
  match cs with
  | [] => .error .endInValue
  | c :: _ =>
    if isDigit c then
      let e := natOfDigits (cs.takeWhile isDigit)
      let rest := cs.dropWhile isDigit
      if 2147483647 < e then
        if digits ≠ 0 ∧ up then .error .numberTooLarge
        else .ok (if positive then Binary64.ofNat 0 else (Binary64.ofNat 0).neg, rest)
      else
        let x ← toReal positive digits (if up then exponent + e else exponent - e)
        .ok (x, rest)
    else .error .badNumber

/-- What follows the digits of a number, when it makes it a floating-point number. -/
def readScaled (positive : Bool) (digits : Nat) (exponent : Int) (cs : List Char) :
    Except TextFault (Binary64 × List Char) :=
  match cs with
  | 'e' :: rest | 'E' :: rest => readExponent positive digits exponent rest
  | _ => do
    let x ← toReal positive digits exponent
    .ok (x, cs)

/-- The digits after a point. -/
def readFraction (positive : Bool) (digits : Nat) (exponent : Int) (cs : List Char) :
    Except TextFault (Binary64 × List Char) :=
  let (n, count, rest) := takeDigits digits 0 cs
  match rest with
  | c :: _ =>
    if isDigit c then
      -- further digits do not fit and are passed over
      readScaled positive n (exponent - count) (rest.dropWhile isDigit)
    else if count = 0 then .error .badNumber
    else readScaled positive n (exponent - count) rest
  | [] => if count = 0 then .error .endInValue else readScaled positive n (exponent - count) rest

/-- The number that begins with the digits already read. -/
def readRest (positive : Bool) (n : Nat) (cs : List Char) : Except TextFault (Document × List Char) :=
  match cs with
  | '.' :: rest => (readFraction positive n 0 rest).map fun (x, rest) => (.real x, rest)
  | 'e' :: rest | 'E' :: rest =>
    (readExponent positive n 0 rest).map fun (x, rest) => (.real x, rest)
  | _ =>
    if positive then .ok (.int n, cs)
    else if 0 < n ∧ n ≤ twoTo 63 then .ok (.int (-n), cs)
    else .ok (.real (Binary64.ofNat n).neg, cs)

/-- A number after its sign. -/
def readNumber (positive : Bool) (cs : List Char) : Except TextFault (Document × List Char) :=
  match cs with
  | [] => .error .endInValue
  | c :: rest =>
    if c = '0' then
      match rest with
      | d :: _ => if isDigit d then .error .badNumber else readRest positive 0 rest
      | [] => readRest positive 0 rest
    else if isDigit c then
      let (n, _, rest) := takeDigits 0 0 cs
      match rest with
      | d :: _ =>
        if isDigit d then
          let more := rest.takeWhile isDigit
          let rest := rest.dropWhile isDigit
          match rest with
          | '.' :: rest =>
            (readFraction positive n more.length rest).map fun (x, rest) => (.real x, rest)
          | _ => (readScaled positive n more.length rest).map fun (x, rest) => (.real x, rest)
        else readRest positive n rest
      | [] => readRest positive n rest
    else .error .badNumber

/-- The rest of a word that has to follow. -/
def readWord : (word cs : List Char) → Except TextFault (List Char)
  | [], cs => .ok cs
  | _ :: _, [] => .error .endInValue
  | w :: word, c :: cs => if w = c then readWord word cs else .error .wordExpected

/-- A word and the document it stands for. -/
def readKeyword (word : List Char) (d : Document) (cs : List Char) :
    Document × Option (List Char) :=
  match readWord word cs with
  | .ok rest => (d, some rest)
  | .error fault => (.broken fault, none)

/-- A step as a document and the rest of the text. -/
def ofStep (step : Except TextFault (Document × List Char)) : Document × Option (List Char) :=
  match step with
  | .ok (d, rest) => (d, some rest)
  | .error fault => (.broken fault, none)

/-! ### Passing over

Content that nobody asks for is passed over: its form is checked, but numbers may be of any size,
escapes need not make characters and nesting may be of any depth. -/

/-- Passes over the characters up to the closing quotation mark. -/
def passText : (fuel : Nat) → List Char → Except TextFault (List Char)
  | 0, _ => .error .endInText
  | fuel + 1, cs =>
    match cs with
    | [] | '\\' :: [] => .error .endInText
    | '"' :: rest => .ok rest
    | '\\' :: 'u' :: rest => (readHex rest).bind fun (_, rest) => passText fuel rest
    | '\\' :: c :: rest =>
      if c ∈ ['"', '\\', '/', 'b', 'f', 'n', 'r', 't'] then passText fuel rest
      else .error .badEscape
    | c :: rest => if c.toNat < 32 then .error .controlCharacter else passText fuel rest

/-- Passes over digits, at least one. -/
def passDigits (cs : List Char) : Except TextFault (List Char) :=
  if (cs.head?.map isDigit).getD false then .ok (cs.dropWhile isDigit) else .error .badNumber

/-- Passes over an exponent. -/
def passExponent (cs : List Char) : Except TextFault (List Char) :=
  match cs with
  | 'e' :: '+' :: rest | 'E' :: '+' :: rest | 'e' :: '-' :: rest | 'E' :: '-' :: rest
  | 'e' :: rest | 'E' :: rest => passDigits rest
  | _ => .ok cs

/-- Passes over a number after its sign. -/
def passNumber (cs : List Char) : Except TextFault (List Char) := do
  let rest ← match cs with
    | '0' :: rest => if (rest.head?.map isDigit).getD false then .error .badNumber else .ok rest
    | _ => passDigits cs
  match rest with
  | '.' :: rest => passExponent (← passDigits rest)
  | _ => passExponent rest

/-- What is passed over next: a value, the name of a field, the first entry of a list or record, or
what follows an entry. -/
inductive Passage where
  | value
  | name
  | first
  | after
  deriving DecidableEq, Repr

/-- Passes over a value within lists and records; `frames` tells of each whether it is a record, the
innermost first. -/
def passFrom : (fuel : Nat) → Passage → (frames : List Bool) → List Char →
    Except TextFault (List Char)
  | 0, _, _, _ => .error .endInValue
  | fuel + 1, .value, frames, cs =>
    match skipSpace cs with
    | [] => .error .endInValue
    | 'n' :: rest => (readWord "ull".toList rest).bind (passFrom fuel .after frames)
    | 't' :: rest => (readWord "rue".toList rest).bind (passFrom fuel .after frames)
    | 'f' :: rest => (readWord "alse".toList rest).bind (passFrom fuel .after frames)
    | '-' :: rest => (passNumber rest).bind (passFrom fuel .after frames)
    | '"' :: rest => (passText (rest.length + 1) rest).bind (passFrom fuel .after frames)
    | '[' :: rest => passFrom fuel .first (false :: frames) rest
    | '\x7b' :: rest => passFrom fuel .first (true :: frames) rest
    | c :: rest =>
      if isDigit c then (passNumber (c :: rest)).bind (passFrom fuel .after frames)
      else .error .valueExpected
  | fuel + 1, .name, frames, cs =>
    match skipSpace cs with
    | [] => .error .endInRecord
    | '"' :: rest => do
      let rest ← passText (rest.length + 1) rest
      match skipSpace rest with
      | [] => .error .endInRecord
      | ':' :: rest => passFrom fuel .value frames rest
      | _ => .error .colonExpected
    | _ => .error .nameNotText
  | _ + 1, _, [], cs => .ok cs
  | fuel + 1, passage, isRecord :: frames, cs =>
    let entry : Passage := if isRecord then .name else .value
    match skipSpace cs with
    | [] => .error (if isRecord then .endInRecord else .endInList)
    | c :: rest =>
      if c = (if isRecord then '\x7d' else ']') then passFrom fuel .after frames rest
      else if passage = .first then passFrom fuel entry (isRecord :: frames) (c :: rest)
      else if c = ',' then passFrom fuel entry (isRecord :: frames) rest
      else .error (if isRecord then .commaOrBraceExpected else .commaOrBracketExpected)

/-- Passes over a value. -/
def passValue (cs : List Char) : Except TextFault (List Char) :=
  passFrom (2 * cs.length + 2) .value [] cs

/-! ### Values -/

mutual

/-- A value with at most `depth` levels of lists and records in it. -/
def readValue : (fuel depth : Nat) → List Char → Document × Option (List Char)
  | 0, _, _ => (.broken .endInValue, none)
  | fuel + 1, depth, cs =>
    match skipSpace cs with
    | [] => (.broken .endInValue, none)
    | 'n' :: rest => readKeyword "ull".toList .null rest
    | 't' :: rest => readKeyword "rue".toList (.bool true) rest
    | 'f' :: rest => readKeyword "alse".toList (.bool false) rest
    | '-' :: rest => ofStep (readNumber false rest)
    | '"' :: rest => ofStep ((readText rest).map fun (s, rest) => (.text s, rest))
    | '[' :: rest =>
      match depth with
      | 0 | 1 => (.broken .tooDeep, none)
      | depth + 1 =>
        let (items, fault, rest) := readItems fuel depth true rest
        (.list items fault, rest)
    | '\x7b' :: rest =>
      match depth with
      | 0 | 1 => (.broken .tooDeep, none)
      | depth + 1 =>
        let (fields, fault, rest) := readFields fuel depth true rest
        (.record fields fault, rest)
    | c :: rest =>
      if isDigit c then ofStep (readNumber true (c :: rest)) else (.broken .valueExpected, none)
termination_by structural fuel => fuel

/-- The items of a list, up to its closing bracket. -/
def readItems : (fuel depth : Nat) → (first : Bool) → List Char →
    List Document × Option TextFault × Option (List Char)
  | 0, _, _, _ => ([], some .endInList, none)
  | fuel + 1, depth, first, cs =>
    match skipSpace cs with
    | [] => ([], some .endInList, none)
    | ']' :: rest => ([], none, some rest)
    | c :: rest =>
      if first then
        let (item, next) := readValue fuel depth (c :: rest)
        match next with
        | none => ([item], none, none)
        | some rest =>
          let (items, fault, rest) := readItems fuel depth false rest
          (item :: items, fault, rest)
      else if c = ',' then
        match skipSpace rest with
        | ']' :: _ => ([], some .commaAtEnd, none)
        | [] => ([], some .endInValue, none)
        | rest =>
          let (item, next) := readValue fuel depth rest
          match next with
          | none => ([item], none, none)
          | some rest =>
            let (items, fault, rest) := readItems fuel depth false rest
            (item :: items, fault, rest)
      else ([], some .commaOrBracketExpected, none)
termination_by structural fuel => fuel

/-- The fields of a record, up to its closing brace. -/
def readFields : (fuel depth : Nat) → (first : Bool) → List Char →
    List (String × Document) × Option TextFault × Option (List Char)
  | 0, _, _, _ => ([], some .endInRecord, none)
  | fuel + 1, depth, first, cs =>
    match skipSpace cs with
    | [] => ([], some .endInRecord, none)
    | '\x7d' :: rest => ([], none, some rest)
    | c :: rest =>
      if first then
        if c = '"' then readField fuel depth rest else ([], some .nameNotText, none)
      else if c = ',' then
        match skipSpace rest with
        | '"' :: rest => readField fuel depth rest
        | '\x7d' :: _ => ([], some .commaAtEnd, none)
        | [] => ([], some .endInValue, none)
        | _ => ([], some .nameNotText, none)
      else ([], some .commaOrBraceExpected, none)
termination_by structural fuel => fuel

/-- A field after the quotation mark that opens its name, and the fields after it. -/
def readField : (fuel depth : Nat) → List Char →
    List (String × Document) × Option TextFault × Option (List Char)
  | 0, _, _ => ([], some .endInText, none)
  | fuel + 1, depth, cs =>
    match readText cs with
    | .error fault => ([], some fault, none)
    | .ok (name, rest) =>
      match skipSpace rest with
      | [] => ([(name, .broken .endInRecord)], none, none)
      | ':' :: rest =>
        let (value, next) := readValue fuel depth rest
        match next with
        | none =>
          match passValue rest with
          | .error fault => ([(name, .stopped value (some fault))], none, none)
          | .ok rest =>
            let (fields, fault, rest) := readFields fuel depth false rest
            ((name, .stopped value none) :: fields, fault, rest)
        | some rest =>
          let (fields, fault, rest) := readFields fuel depth false rest
          ((name, value) :: fields, fault, rest)
      | _ => ([(name, .broken .colonExpected)], none, none)
termination_by structural fuel => fuel

end

/-- How deep lists and records may nest, the refused level included. -/
def depthLimit : Nat := 128

/-- The first value of a text and what follows it. -/
def readPart (cs : List Char) : Document × Option (List Char) :=
  readValue (2 * cs.length + 2) depthLimit cs

/-- The document of a text that holds nothing else, with the mistake at the end of it, if any. -/
def read (text : String) : Document × Option TextFault :=
  let (document, rest) := readPart text.toList
  match rest with
  | none => (document, none)
  | some rest => (document, if skipSpace rest = [] then none else some .textAfterEnd)

/-- The value that a text denotes. -/
def parse (text : String) : Except TextFault Value := do
  let (document, fault) := read text
  let value ← document.toValue
  match fault with
  | some fault => .error fault
  | none => .ok value

end Json

end Dialogue

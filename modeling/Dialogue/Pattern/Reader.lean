import Dialogue.Number.Decimal
import Dialogue.Pattern.Match
import Dialogue.Pattern.Property

/-!
# Reading patterns

A pattern is read from left to right; the first mistake in its form is reported with the place where
it was met. Mistakes about the characters meant, such as an unknown property, count only when the
form of the whole pattern is right.
-/

namespace Dialogue

/-- What is wrong with the text of a pattern. -/
inductive PatternFault where
  | classEscape
  | classRangeOrder
  | classRangeBoundary
  | classUnclosed
  | decimalInvalid
  | hexEmpty
  | hexNoCharacter
  | hexDigit
  | escapeUnfinished
  | escapeUnknown
  | flagDangling
  | flagRepeated
  | negationRepeated
  | flagUnfinished
  | flagUnknown
  | groupNameRepeated
  | groupNameEmpty
  | groupNameCharacter
  | groupNameUnclosed
  | groupUnclosed
  | groupUnopened
  | countOrder
  | countMissing
  | countUnclosed
  | nothingToRepeat
  | wordPlaceUnclosed
  | wordPlaceUnknown
  | wordPlaceUnfinished
  | propertyForm
  | backReference
  | lookAround
  | propertyName
  | propertyValue
  | notAscii
  | notText
  deriving DecidableEq, Repr, Inhabited

namespace PatternFault

/-- The wording of a mistake. -/
def message : PatternFault → String
  | classEscape => "invalid escape sequence found in character class"
  | classRangeOrder => "invalid character class range, the start must be <= the end"
  | classRangeBoundary => "invalid range boundary, must be a literal"
  | classUnclosed => "unclosed character class"
  | decimalInvalid => "decimal literal invalid"
  | hexEmpty => "hexadecimal literal empty"
  | hexNoCharacter => "hexadecimal literal is not a Unicode scalar value"
  | hexDigit => "invalid hexadecimal digit"
  | escapeUnfinished => "incomplete escape sequence, reached end of pattern prematurely"
  | escapeUnknown => "unrecognized escape sequence"
  | flagDangling => "dangling flag negation operator"
  | flagRepeated => "duplicate flag"
  | negationRepeated => "flag negation operator repeated"
  | flagUnfinished => "expected flag but got end of regex"
  | flagUnknown => "unrecognized flag"
  | groupNameRepeated => "duplicate capture group name"
  | groupNameEmpty => "empty capture group name"
  | groupNameCharacter => "invalid capture group character"
  | groupNameUnclosed => "unclosed capture group name"
  | groupUnclosed => "unclosed group"
  | groupUnopened => "unopened group"
  | countOrder => "invalid repetition count range, the start must be <= the end"
  | countMissing => "repetition quantifier expects a valid decimal"
  | countUnclosed => "unclosed counted repetition"
  | nothingToRepeat => "repetition operator missing expression"
  | wordPlaceUnclosed =>
    "special word boundary assertion is either unclosed or contains an invalid character"
  | wordPlaceUnknown =>
    "unrecognized special word boundary assertion, valid choices are: start, end, start-half or end-half"
  | wordPlaceUnfinished =>
    "found either the beginning of a special word boundary or a bounded repetition on a \\b with an opening brace, but no closing brace"
  | propertyForm => "invalid Unicode character class"
  | backReference => "backreferences are not supported"
  | lookAround => "look-around, including look-ahead and look-behind, is not supported"
  | propertyName => "Unicode property not found"
  | propertyValue => "Unicode property value not found"
  | notAscii => "Unicode not allowed here"
  | notText => "pattern can match invalid UTF-8"

end PatternFault

/-- A part of a pattern's text, by positions; the last one is excluded. -/
structure Place where
  start : Nat
  stop : Nat
  deriving DecidableEq, Repr, Inhabited

/-- A mistake in a pattern with its place, and a second place that it refers to. -/
structure PatternError where
  fault : PatternFault
  place : Place
  earlier : Option Place
  deriving DecidableEq, Repr, Inhabited

namespace Pattern

open Text

/-- The modes under which a part of a pattern is read. -/
structure Modes where
  caseless : Bool
  everyLine : Bool
  dotIsAny : Bool
  anyScript : Bool
  withReturns : Bool
  spaced : Bool
  deriving DecidableEq, Repr

/-- The modes at the start of a pattern. -/
def Modes.usual : Modes := ⟨false, false, false, true, false, false⟩

/-- Where a reader stands: the text before it is measured, the text after it kept. -/
structure Cursor where
  rest : List Char
  position : Nat
  modes : Modes
  groupNames : List (List Char × Place)
  late : Option PatternError

/-- Steps of a reader. -/
abbrev Read := StateT Cursor (Except PatternError)

/-- Gives up at a place. -/
def refuse {α : Type} (fault : PatternFault) (start stop : Nat) : Read α :=
  throw ⟨fault, ⟨start, stop⟩, none⟩

/-- Notes a mistake that counts only when nothing else is wrong. -/
def refuseLate (fault : PatternFault) (start stop : Nat) : Read Unit :=
  modify fun s => { s with late := s.late <|> some ⟨fault, ⟨start, stop⟩, none⟩ }

/-- The position. -/
def here : Read Nat := return (← get).position

/-- The modes. -/
def modes : Read Modes := return (← get).modes

/-- The next character. -/
def next? : Read (Option Char) := return (← get).rest.head?

/-- Goes past one character. -/
def advance1 : Read Unit :=
  modify fun s => match s.rest with
    | [] => s
    | _ :: rest => { s with rest, position := s.position + 1 }

/-- Goes past a number of characters. -/
def advanceBy (n : Nat) : Read Unit :=
  modify fun s => { s with rest := s.rest.drop n, position := s.position + n }

/-- Goes past a mark, when it comes next. -/
def accept (mark : String) : Read Bool := do
  match after? mark.toList (← get).rest with
  | some rest =>
    modify fun s => { s with rest, position := s.position + mark.length }
    return true
  | none => return false

/-- How many characters of white space and comments stand in front; `inComment` says whether a
comment is open. -/
def spaceLength (inComment : Bool) : List Char → Nat
  | [] => 0
  | c :: cs =>
    if inComment then spaceLength (c != '\n') cs + 1
    else if isBlank c then spaceLength false cs + 1
    else if c = '#' then spaceLength true cs + 1
    else 0

/-- Goes past white space and comments, where they do not count. -/
def skipSpaced : Read Unit := do
  if (← modes).spaced then advanceBy (spaceLength false (← get).rest)

/-- Goes past one character and what does not count after it; the answer says whether a character
follows. -/
def step : Read Bool := do
  advance1
  skipSpaced
  return (← next?).isSome

/-- The character after the next one, what does not count left aside. -/
def second? : Read (Option Char) := do
  let after := (← get).rest.drop 1
  if (← modes).spaced then return (after.drop (spaceLength false after)).head?
  else return after.head?

/-! ## Items -/

/-- What one item outside or inside of a set of characters stands for. -/
inductive Item where
  | literal (c : Char)
  | chars (s : CharSet)
  | assertion (a : Assertion)
  | dot

/-- Characters that have a meaning of their own somewhere in patterns. -/
def isMeta (c : Char) : Bool :=
  ['\\', '.', '+', '*', '?', '(', ')', '|', '[', ']', '\x7b', '\x7d', '^', '$', '#', '&', '-',
    '~'].contains c

/-- Characters that may stand after a backslash for themselves. -/
def mayBeEscaped (c : Char) : Bool :=
  isMeta c || (c.toNat < 128 && !isDigit c && !isAsciiLetter c && c != '<' && c != '>')

/-- A character of the ASCII range or, where all scripts count, any. -/
def asciiRange : CharSet := .range 0 127

/-- A set under the modes that forbid other scripts. -/
def limited (anyScript : Bool) (s : CharSet) : CharSet :=
  if anyScript then s else .intersection s asciiRange

/-- The characters of a digit, blank or word class. -/
def classOfLetter (anyScript : Bool) (c : Char) : CharSet :=
  let s : CharSet := match c.toLower with
    | 'd' => .table PropertyTable.decimalNumber
    | 's' => blanks
    | _ => .table ClassTable.word
  let s : CharSet := if c.toLower = 'w' then .union [s, .range 48 57, .range 65 90, .range 95 95,
    .range 97 122] else s
  if c.isUpper then .negation (limited anyScript s) else limited anyScript s

/-- The character that hexadecimal digits stand for. -/
def charOfHex? (digits : List Char) : Option Char :=
  let n := digits.foldl (fun n c => n * 16 + (hexValue? c).getD 0) 0
  if n < 0xD800 ∨ (0xDFFF < n ∧ n ≤ 0x10FFFF) then some (Char.ofNat n) else none

/-- Hexadecimal digits up to a closing brace. -/
def hexInBraces : (fuel : Nat) → (done : List Char) → Read (List Char)
  | 0, done => return done
  | fuel + 1, done => do
    let more ← step
    match ← next? with
    | some c =>
      if !more ∨ c = '\x7d' then return done
      else if (hexValue? c).isNone then refuse .hexDigit (← here) ((← here) + 1)
      else hexInBraces fuel (done ++ [c])
    | none => return done

/-- A fixed number of hexadecimal digits. -/
def hexDigits : (count : Nat) → (done : List Char) → Read (List Char)
  | 0, done => return done
  | count + 1, done => do
    if done ≠ [] then
      if !(← step) then refuse .escapeUnfinished (← here) (← here)
    match ← next? with
    | some c =>
      if (hexValue? c).isNone then refuse .hexDigit (← here) ((← here) + 1)
      else hexDigits count (done ++ [c])
    | none => refuse .escapeUnfinished (← here) (← here)

/-- The character of an escape by its number. -/
def readHex (letter : Char) : Read Char := do
  if !(← step) then refuse .escapeUnfinished (← here) (← here)
  let start ← here
  if (← next?) = some '\x7b' then
    let digits ← hexInBraces (← get).rest.length []
    if (← next?).isNone then refuse .escapeUnfinished start (← here)
    let stop ← here
    let _ ← step
    if digits = [] then refuse .hexEmpty start (← here)
    match charOfHex? digits with
    | some c => return c
    | none => refuse .hexNoCharacter (start + 1) stop
  else
    let digits ← hexDigits (if letter = 'x' then 2 else if letter = 'u' then 4 else 8) []
    let _ ← step
    match charOfHex? digits with
    | some c => return c
    | none => refuse .hexNoCharacter start (← here)

/-- The name of a property up to a closing brace. -/
def nameInBraces : (fuel : Nat) → (done : List Char) → Read (List Char)
  | 0, done => return done
  | fuel + 1, done => do
    let more ← step
    match ← next? with
    | some c => if !more ∨ c = '\x7d' then return done else nameInBraces fuel (done ++ [c])
    | none => return done

/-- The characters of a property as it is written between braces. -/
def namedProperty (name : List Char) : Except PropertyFault CharSet :=
  match cut? ['!', '='] name with
  | some (l, r) => (propertyValue l r).map .negation
  | none =>
    match cut? [':'] name with
    | some (l, r) => propertyValue l r
    | none =>
      match cut? ['='] name with
      | some (l, r) => propertyValue l r
      | none => property name

/-- The set of an escape by a property; `start` is the place of its backslash. -/
def readProperty (start : Nat) : Read CharSet := do
  let negated := (← next?) = some 'P'
  if !(← step) then refuse .escapeUnfinished (← here) (← here)
  let found ← do
    if (← next?) = some '\x7b' then
      let name ← nameInBraces (← get).rest.length []
      if (← next?).isNone then refuse .escapeUnfinished (← here) (← here)
      advance1
      pure (namedProperty name)
    else
      match ← next? with
      | some '\\' => refuse .propertyForm (← here) ((← here) + 1)
      | some c => let _ ← step; pure (property [c])
      | none => refuse .escapeUnfinished (← here) (← here)
  let m ← modes
  if !m.anyScript then
    refuseLate .notAscii start (← here)
  match found with
  | .ok s =>
    let s := if m.caseless then .caseless s else s
    return if negated then .negation s else s
  | .error .name => refuseLate .propertyName start (← here); return .union []
  | .error .value => refuseLate .propertyValue start (← here); return .union []

/-- The letters and hyphens in front, with what does not count between them. -/
def wordPlaceName : (fuel : Nat) → (done : List Char) → Read (List Char)
  | 0, done => return done
  | fuel + 1, done => do
    match ← next? with
    | some c =>
      if isAsciiLetter c || c == '-' then
        let _ ← step
        wordPlaceName fuel (done ++ [c])
      else return done
    | none => return done

/-- The place named in braces after a word boundary; `start` is the place of its backslash. Braces
that hold no name are left to be read as a count. -/
def readWordPlace (start : Nat) : Read WordPlace := do
  if (← next?) ≠ some '\x7b' then return .boundary
  let before ← get
  if !(← step) then refuse .wordPlaceUnfinished start (← here)
  let contents ← here
  let isName := (← next?).any fun c => isAsciiLetter c || c == '-'
  if !isName then
    modify fun _ => before
    return .boundary
  let name ← wordPlaceName (← get).rest.length []
  if (← next?) ≠ some '\x7d' then refuse .wordPlaceUnclosed before.position (← here)
  let stop ← here
  advance1
  match String.ofList name with
  | "start" => return .start
  | "end" => return .stop
  | "start-half" => return .notAfterWord
  | "end-half" => return .notBeforeWord
  | _ => refuse .wordPlaceUnknown contents stop

/-- The item after a backslash. -/
def readEscape : Read Item := do
  let start ← here
  advance1
  let asciiOnly := !(← modes).anyScript
  match ← next? with
  | none => refuse .escapeUnfinished start (← here)
  | some c =>
    if isDigit c then refuse .backReference start ((← here) + 1)
    else if c = 'x' ∨ c = 'u' ∨ c = 'U' then
      let d ← readHex c
      if asciiOnly && c == 'x' && 127 < d.toNat && d.toNat < 256 then refuseLate .notText start (← here)
      return .literal d
    else if c = 'p' ∨ c = 'P' then return .chars (← readProperty start)
    else if ['d', 's', 'w', 'D', 'S', 'W'].contains c then
      advance1
      if asciiOnly && c.isUpper then refuseLate .notText start (← here)
      return .chars (classOfLetter (!asciiOnly) c)
    else
      advance1
      if mayBeEscaped c then return .literal c
      else
        match c with
        | 'a' => return .literal '\x07'
        | 'f' => return .literal '\x0c'
        | 't' => return .literal '\t'
        | 'n' => return .literal '\n'
        | 'r' => return .literal '\r'
        | 'v' => return .literal '\x0b'
        | 'A' => return .assertion .textStart
        | 'z' => return .assertion .textEnd
        | 'b' => return .assertion (.word (← readWordPlace start) asciiOnly)
        | 'B' => return .assertion (.word .inside asciiOnly)
        | '<' => return .assertion (.word .start asciiOnly)
        | '>' => return .assertion (.word .stop asciiOnly)
        | _ => refuse .escapeUnknown start (← here)

/-! ## Sets of characters -/

/-- The sets of the ASCII range by name. -/
def namedAscii? : String → Option (List (Nat × Nat))
  | "alnum" => some [(48, 57), (65, 90), (97, 122)]
  | "alpha" => some [(65, 90), (97, 122)]
  | "ascii" => some [(0, 127)]
  | "blank" => some [(9, 9), (32, 32)]
  | "cntrl" => some [(0, 31), (127, 127)]
  | "digit" => some [(48, 57)]
  | "graph" => some [(33, 126)]
  | "lower" => some [(97, 122)]
  | "print" => some [(32, 126)]
  | "punct" => some [(33, 47), (58, 64), (91, 96), (123, 126)]
  | "space" => some [(9, 13), (32, 32)]
  | "upper" => some [(65, 90)]
  | "word" => some [(48, 57), (65, 90), (95, 95), (97, 122)]
  | "xdigit" => some [(48, 57), (65, 70), (97, 102)]
  | _ => none

/-- A named set such as `[:alpha:]` or `[:^digit:]` at the front of a text, with its length. -/
def namedSet? (cs : List Char) : Option (CharSet × Nat) := do
  let inner ← after? ['[', ':'] cs
  let (negated, name) := match inner with
    | '^' :: rest => (true, rest)
    | rest => (false, rest)
  let word := name.takeWhile (· ≠ ':')
  let _ ← after? [':', ']'] (name.dropWhile (· ≠ ':'))
  let ranges ← namedAscii? (String.ofList word)
  let s := CharSet.union (ranges.map fun (a, b) => .range a b)
  some (if negated then .negation s else s, word.length + 4 + (if negated then 1 else 0))

/-- How two sets are combined. -/
inductive SetOperator where
  | intersection
  | difference
  | symmetricDifference
  deriving DecidableEq

/-- Combines two sets. -/
def SetOperator.apply (caseless : Bool) (op : SetOperator) (a b : CharSet) : CharSet :=
  let a := if caseless then .caseless a else a
  let b := if caseless then .caseless b else b
  match op with
  | intersection => .intersection a b
  | difference => .difference a b
  | symmetricDifference => .symmetricDifference a b

/-- One item of a set of characters, with its place. -/
def readSetItem : Read (Item × Place) := do
  let start ← here
  match ← next? with
  | some '\\' =>
    let item ← readEscape
    return (item, ⟨start, ← here⟩)
  | some c =>
    advance1
    return (.literal c, ⟨start, ← here⟩)
  | none => return (.chars (.union []), ⟨start, start⟩)

/-- The set of an item that stands for itself. -/
def setOfItem (item : Item) (place : Place) : Read CharSet :=
  match item with
  | .literal c => do
    if !(← modes).anyScript && 127 < c.toNat then refuseLate .notAscii place.start place.stop
    return .single c
  | .chars s => return s
  | .assertion _ | .dot => refuse .classEscape place.start place.stop

/-- The character of an item that bounds a range. -/
def boundOfItem (item : Item) (place : Place) : Read Char :=
  match item with
  | .literal c => return c
  | _ => refuse .classRangeBoundary place.start place.stop

/-- An item or a range of a set; `opening` is the place where the set was opened. -/
def readSetRange (opening : Place) : Read CharSet := do
  let (first, firstPlace) ← readSetItem
  skipSpaced
  match ← next? with
  | none => refuse .classUnclosed opening.start opening.stop
  | some c =>
    let after ← second?
    if c ≠ '-' ∨ after = some ']' ∨ after = some '-' then setOfItem first firstPlace
    else
      if !(← step) then refuse .classUnclosed opening.start opening.stop
      let (last, lastPlace) ← readSetItem
      let a ← boundOfItem first firstPlace
      let b ← boundOfItem last lastPlace
      if b.toNat < a.toNat then refuse .classRangeOrder firstPlace.start lastPlace.stop
      return .range a.toNat b.toNat

/-- The hyphens at the start of a set. -/
def leadingHyphens (start : Nat) : (fuel : Nat) → (done : List CharSet) → Read (List CharSet)
  | 0, done => return done
  | fuel + 1, done => do
    if (← next?) = some '-' then
      if !(← step) then refuse .classUnclosed start start
      leadingHyphens start fuel (done ++ [.single '-'])
    else return done

/-- The start of a set: its place, whether it is negated, and the marks that stand for themselves
there. -/
def openSet : Read (Place × Bool × List CharSet) := do
  let start ← here
  if !(← step) then refuse .classUnclosed start (← here)
  let negated := (← next?) = some '^'
  if negated then
    if !(← step) then refuse .classUnclosed start (← here)
  let marks ← leadingHyphens start (← get).rest.length []
  if marks = [] ∧ (← next?) = some ']' then
    if !(← step) then refuse .classUnclosed start (← here)
    return (⟨start, ← here⟩, negated, [.single ']'])
  return (⟨start, ← here⟩, negated, marks)

/-- A set with what was gathered: the sets combined so far with the operator that waits, and the
items since. -/
def gather (caseless : Bool) (waiting : Option (CharSet × SetOperator)) (items : List CharSet) : CharSet :=
  let s := CharSet.union items
  match waiting with
  | none => s
  | some (left, op) => op.apply caseless left s

mutual

/-- A set of characters from its bracket on. -/
def readSet : (fuel : Nat) → Read CharSet
  | 0 => return .union []
  | fuel + 1 => do
    let (opening, negated, marks) ← openSet
    let s ← readSetItems fuel opening none marks
    let m ← modes
    let s := if m.caseless then CharSet.caseless s else s
    if negated && !m.anyScript then refuseLate .notText opening.start (← here)
    return if negated then .negation s else s

/-- The items of a set up to its closing bracket. -/
def readSetItems : (fuel : Nat) → (opening : Place) → Option (CharSet × SetOperator) →
    List CharSet → Read CharSet
  | 0, _, _, _ => return .union []
  | fuel + 1, opening, waiting, items => do
    skipSpaced
    let caseless := (← modes).caseless
    let rest := (← get).rest
    match rest with
    | [] => refuse .classUnclosed opening.start opening.stop
    | '[' :: _ =>
      match namedSet? rest with
      | some (s, n) =>
        advanceBy n
        readSetItems fuel opening waiting (items ++ [s])
      | none =>
        let s ← readSet fuel
        readSetItems fuel opening waiting (items ++ [s])
    | ']' :: _ =>
      advance1
      return gather caseless waiting items
    | '&' :: '&' :: _ =>
      advanceBy 2
      readSetItems fuel opening (some (gather caseless waiting items, .intersection)) []
    | '-' :: '-' :: _ =>
      advanceBy 2
      readSetItems fuel opening (some (gather caseless waiting items, .difference)) []
    | '~' :: '~' :: _ =>
      advanceBy 2
      readSetItems fuel opening (some (gather caseless waiting items, .symmetricDifference)) []
    | _ =>
      let s ← readSetRange opening
      readSetItems fuel opening waiting (items ++ [s])

end

/-! ## Groups and repetitions -/

/-- The mode that a letter names, switched. -/
def switchMode? (letter : Char) (on : Bool) (m : Modes) : Option Modes :=
  match letter with
  | 'i' => some { m with caseless := on }
  | 'm' => some { m with everyLine := on }
  | 's' => some { m with dotIsAny := on }
  | 'U' => some m
  | 'u' => some { m with anyScript := on }
  | 'R' => some { m with withReturns := on }
  | 'x' => some { m with spaced := on }
  | _ => none

/-- The letters of modes up to a colon or a closing parenthesis, each with its place. -/
def readFlags : (fuel : Nat) → (seen : List (Char × Nat)) → (m : Modes) →
    Read (List (Char × Nat) × Modes)
  | 0, seen, m => return (seen, m)
  | fuel + 1, seen, m => do
    let i ← here
    match ← next? with
    | none => refuse .flagUnfinished i i
    | some c =>
      if c = ':' ∨ c = ')' then
        match seen.getLast? with
        | some ('-', j) => refuse .flagDangling j (j + 1)
        | _ => return (seen, m)
      else
        match seen.find? (·.1 == c), switchMode? c (!seen.any (·.1 == '-')) m with
        | some (_, j), some _ => throw ⟨.flagRepeated, ⟨i, i + 1⟩, some ⟨j, j + 1⟩⟩
        | some (_, j), none => throw ⟨.negationRepeated, ⟨i, i + 1⟩, some ⟨j, j + 1⟩⟩
        | none, switched =>
          if c ≠ '-' ∧ switched.isNone then refuse .flagUnknown i (i + 1)
          advance1
          if (← next?).isNone then refuse .flagUnfinished (← here) (← here)
          readFlags fuel (seen ++ [(c, i)]) (switched.getD m)

/-- Whether a character may stand in the name of a group. -/
def isNameChar (first : Bool) (c : Char) : Bool :=
  c == '_' || isAlphabetic c ||
    (!first && (c == '.' || c == '[' || c == ']' || isAlphanumeric c))

/-- The name of a group after its opening bracket. -/
def readName : Read Unit := do
  let start ← here
  let rest := (← get).rest
  if rest = [] then refuse .groupNameUnclosed start start
  let name := rest.takeWhile (· ≠ '>')
  let good := match name with
    | [] => []
    | c :: more => if isNameChar true c then c :: more.takeWhile (isNameChar false) else []
  if good.length < name.length then
    refuse .groupNameCharacter (start + good.length) (start + good.length + 1)
  advanceBy name.length
  if (← next?).isNone then refuse .groupNameUnclosed (← here) (← here)
  let place : Place := ⟨start, ← here⟩
  advance1
  if name = [] then refuse .groupNameEmpty start start
  match (← get).groupNames.find? (·.1 == name) with
  | some (_, earlier) => throw ⟨.groupNameRepeated, place, some earlier⟩
  | none => modify fun s => { s with groupNames := (name, place) :: s.groupNames }

/-- The start of a group. The answer says whether a group was opened; otherwise the modes of the rest
were switched. -/
def openGroup : Read Bool := do
  let start ← here
  advance1
  skipSpaced
  if ← accept "?=" then refuse .lookAround start (← here)
  if ← accept "?!" then refuse .lookAround start (← here)
  if ← accept "?<=" then refuse .lookAround start (← here)
  if ← accept "?<!" then refuse .lookAround start (← here)
  let inner ← here
  if ← accept "?P<" then
    readName
    return true
  if ← accept "?<" then
    readName
    return true
  if ← accept "?" then
    if (← next?).isNone then refuse .groupUnclosed start (start + 1)
    let (flags, m) ← readFlags ((← get).rest.length + 1) [] (← modes)
    let closes := (← next?) = some ')'
    advance1
    if closes ∧ flags = [] then refuse .nothingToRepeat inner inner
    modify fun s => { s with modes := m }
    return !closes
  return true

/-- A count as it is written: a number, none where one should stand, or one that is too large. -/
inductive Count where
  | number (n : Nat)
  | missing (place : Place)
  | tooLarge (place : Place)

/-- A count that has to be there. -/
def Count.get : Count → Read Nat
  | number n => return n
  | missing place => refuse .countMissing place.start place.stop
  | tooLarge place => refuse .decimalInvalid place.start place.stop

/-- The digits in front, with what does not count between them. -/
def countDigits : (fuel : Nat) → (done : List Char) → Read (List Char)
  | 0, done => return done
  | fuel + 1, done => do
    match ← next? with
    | some c =>
      if isDigit c then
        let _ ← step
        countDigits fuel (done ++ [c])
      else return done
    | none => return done

/-- A count, with white space around it. -/
def readCount : Read Count := do
  advanceBy ((← get).rest.takeWhile isBlank).length
  let start ← here
  let digits ← countDigits (← get).rest.length []
  let place : Place := ⟨start, ← here⟩
  advanceBy ((← get).rest.takeWhile isBlank).length
  if digits = [] then return .missing place
  let n := natOfDigits digits
  return if n < 4294967296 then .number n else .tooLarge place

/-- The limits of a counted repetition from its brace on. -/
def readLimits : Read (Nat × Option Nat) := do
  let start ← here
  if !(← step) then refuse .countUnclosed start (← here)
  let least ← readCount
  match ← next? with
  | none => refuse .countUnclosed start (← here)
  | some c =>
    let limits : Nat × Option Nat ← do
      if c = ',' then
        if !(← step) then refuse .countUnclosed start (← here)
        if (← next?) = some '\x7d' then pure (← least.get, none)
        else
          let least ← least.get
          let most ← readCount
          pure (least, some (← most.get))
      else
        let n ← least.get
        pure (n, some n)
    if (← next?) ≠ some '\x7d' then refuse .countUnclosed start (← here)
    let more ← step
    if more ∧ (← next?) = some '?' then advance1
    match limits with
    | (least, some most) =>
      if most < least then refuse .countOrder start (← here)
      return limits
    | _ => return limits

/-- What stands at the end of what was read of a sequence, for a repetition. -/
def lastPattern (done : List (Option Pattern)) : Read (Pattern × List (Option Pattern)) := do
  match done.getLast? with
  | some (some p) => return (p, done.dropLast)
  | _ => refuse .nothingToRepeat (← here) (← here)

/-- The pattern of an item. -/
def ofItem (m : Modes) (start : Nat) : Item → Read Pattern
  | .literal c =>
    return .set (if m.caseless then .caseless (.single c) else .single c)
  | .chars s => return .set s
  | .assertion a => return .assertion a
  | .dot => do
    if !m.anyScript then refuseLate .notText start (start + 1)
    if m.dotIsAny then return .set (.range 0 0x10FFFF)
    else if m.withReturns then
      return .set (.negation (.union [.single '\n', .single '\r']))
    else return .set (.negation (.single '\n'))

/-- One item outside of sets. -/
def readItem : Read Pattern := do
  let start ← here
  let m ← modes
  match ← next? with
  | some '\\' => ofItem m start (← readEscape)
  | some '.' => advance1; ofItem m start .dot
  | some '^' =>
    advance1
    return .assertion (if m.everyLine then .lineStart m.withReturns else .textStart)
  | some '$' =>
    advance1
    return .assertion (if m.everyLine then .lineEnd m.withReturns else .textEnd)
  | some c => advance1; ofItem m start (.literal c)
  | none => return .sequence []

/-- The pattern of the branches read so far and the last of them. -/
def finish (branches : List Pattern) (done : List (Option Pattern)) : Pattern :=
  let last := Pattern.sequence (done.filterMap id)
  if branches = [] then last else .choice (branches ++ [last])

/-- Reads up to the end of the text or an unmatched closing parenthesis. -/
def readBranches : (fuel : Nat) → (branches : List Pattern) → (done : List (Option Pattern)) →
    Read Pattern
  | 0, branches, done => return finish branches done
  | fuel + 1, branches, done => do
    skipSpaced
    match ← next? with
    | none => return finish branches done
    | some ')' => return finish branches done
    | some '|' =>
      advance1
      readBranches fuel (branches ++ [.sequence (done.filterMap id)]) []
    | some '(' =>
      let start ← here
      let outer ← modes
      if ← openGroup then
        let p ← readBranches fuel [] []
        if (← next?).isNone then refuse .groupUnclosed start (start + 1)
        modify fun s => { s with modes := outer }
        advance1
        readBranches fuel branches (done ++ [some p])
      else readBranches fuel branches (done ++ [none])
    | some '[' =>
      let s ← readSet (← get).rest.length
      readBranches fuel branches (done ++ [some (.set s)])
    | some '?' => repeatLast fuel branches done 0 (some 1)
    | some '*' => repeatLast fuel branches done 0 none
    | some '+' => repeatLast fuel branches done 1 none
    | some '\x7b' =>
      let (p, others) ← lastPattern done
      let (least, most) ← readLimits
      readBranches fuel branches (others ++ [some (.repeated p least most)])
    | some _ =>
      let p ← readItem
      readBranches fuel branches (done ++ [some p])
where
  /-- Repeats what was read last, and reads on. -/
  repeatLast (fuel : Nat) (branches : List Pattern) (done : List (Option Pattern)) (least : Nat)
      (most : Option Nat) : Read Pattern := do
    let (p, others) ← lastPattern done
    advance1
    if (← next?) = some '?' then advance1
    readBranches fuel branches (others ++ [some (.repeated p least most)])

/-- The pattern that a text writes. -/
def readChars (cs : List Char) : Except PatternError Pattern := do
  let (p, s) ← (readBranches (cs.length + 1) [] []).run ⟨cs, 0, .usual, [], none⟩
  match s.rest, s.late with
  | _ :: _, _ => .error ⟨.groupUnopened, ⟨s.position, s.position + 1⟩, none⟩
  | [], some late => .error late
  | [], none => .ok p

end Pattern

end Dialogue

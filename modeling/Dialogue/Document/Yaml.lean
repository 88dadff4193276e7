import Dialogue.Number.Reading
import Dialogue.Value.Written
import Dialogue.Document.Basic

/-!
# Reading and writing YAML

A block is read at the column where its first token stands: entries of a sequence begin with a
hyphen, entries of a mapping with a key on one line. Scalars without quotation marks keep their text
beside what they mean. A text that is not one document in this form is no document at all; no reason
is given.
-/

namespace Dialogue

namespace Yaml

open Text

/-! ## Plain scalars -/

/-- Whether a scalar is a row of digits that begins with a zero, and so no number. -/
def isPaddedDigits (cs : List Char) : Bool :=
  let digits := match cs with
    | '+' :: rest | '-' :: rest => rest
    | rest => rest
  1 < digits.length && digits.head? == some '0' && digits.all isDigit

/-- The number of digits of a base from two to sixteen. -/
def inBase? (base : Nat) (cs : List Char) : Option Nat :=
  if cs = [] then none
  else cs.foldl (fun n c => do
    let n ← n
    let d ← hexValue? c
    if d < base then some (n * base + d) else none) (some 0)

/-- The magnitude of a whole number, in base ten unless it says otherwise. -/
def magnitude? (cs : List Char) : Option Nat :=
  match cs with
  | '0' :: 'x' :: rest => inBase? 16 rest
  | '0' :: 'o' :: rest => inBase? 8 rest
  | '0' :: 'b' :: rest => inBase? 2 rest
  | rest => inBase? 10 rest

/-- The whole number that a plain scalar writes. -/
def integer? (cs : List Char) : Option Int :=
  if isPaddedDigits cs then none
  else
    match cs with
    | '-' :: rest => (magnitude? rest).bind fun n => if n ≤ twoTo 63 then some (-n) else none
    | '+' :: rest => (magnitude? rest).bind fun n => if n < twoTo 64 then some n else none
    | rest => (magnitude? rest).bind fun n => if n < twoTo 64 then some n else none

/-- The floating-point number that a plain scalar writes; the infinite ones are no values. -/
def real? (cs : List Char) : Option Value :=
  let body := match cs with
    | '+' :: rest => rest
    | rest => rest
  if [".inf", ".Inf", ".INF", "-.inf", "-.Inf", "-.INF", ".nan", ".NaN", ".NAN"].contains
      (String.ofList body) then some .null
  else (Binary64.read? body).bind fun x => if x.isFinite then some (.real x) else none

/-- What a plain scalar means where its type is open. -/
def meaning (cs : List Char) : Value :=
  match String.ofList cs with
  | "" | "~" | "null" | "Null" | "NULL" => .null
  | "true" | "True" | "TRUE" => .bool true
  | "false" | "False" | "FALSE" => .bool false
  | s =>
    match integer? cs with
    | some i => .int i
    | none =>
      if isPaddedDigits cs then .text s
      else (real? cs).getD (.text s)

/-! ## The reader -/

/-- Where a reader stands: the text that follows, the column, and the nodes that have names. -/
structure Cursor where
  rest : List Char
  column : Nat
  anchors : List (List Char × Document)

/-- Steps of a reader; one that does not succeed leaves no trace. -/
abbrev Read := StateT Cursor Option

/-- What follows. -/
def rest : Read (List Char) := return (← get).rest

/-- The next character. -/
def next? : Read (Option Char) := return (← get).rest.head?

/-- The column of the next character. -/
def column : Read Nat := return (← get).column

/-- Goes past a number of characters of the line. -/
def advance (n : Nat) : Read Unit :=
  modify fun s => { s with rest := s.rest.drop n, column := s.column + n }

/-- Goes past any characters, with the column counted anew after each end of a line. -/
def advanceOver (taken : List Char) : Read Unit :=
  modify fun s =>
    { s with
      rest := s.rest.drop taken.length
      column := if taken.contains '\n' then (taken.reverse.takeWhile (· ≠ '\n')).length
        else s.column + taken.length }

/-- A blank or a tab. -/
def isSpace (c : Char) : Bool := c == ' ' || c == '\t'

/-- Whether a text is at its end or goes on with white space. -/
def isGap : List Char → Bool
  | [] => true
  | c :: _ => isSpace c || c == '\n'

/-- Goes past blanks and tabs. -/
def skipSpaces : Read Unit := do
  advance ((← rest).takeWhile isSpace).length

/-- Whether a text begins with a mark of three characters that bounds documents. -/
def isBoundary (mark : List Char) (cs : List Char) : Bool :=
  match after? mark cs with
  | some rest => isGap rest
  | none => false

/-- Whether a document ends here. -/
def atBoundary : Read Bool := do
  let cs ← rest
  return (← column) == 0 && (isBoundary ['-', '-', '-'] cs || isBoundary ['.', '.', '.'] cs)

/-- The white space and comments in front; tabs count as white space only where `tabs` says so, and
not at the start of a line. -/
def gapOf (inFlow : Bool) : (comment tabs : Bool) → List Char → List Char
  | _, _, [] => []
  | true, tabs, c :: cs =>
    if c = '\n' then '\n' :: gapOf inFlow false inFlow cs else c :: gapOf inFlow true tabs cs
  | false, tabs, c :: cs =>
    if c = ' ' then ' ' :: gapOf inFlow false tabs cs
    else if c = '\t' ∧ tabs then '\t' :: gapOf inFlow false tabs cs
    else if c = '#' then '#' :: gapOf inFlow true tabs cs
    else if c = '\n' then '\n' :: gapOf inFlow false inFlow cs
    else []

/-- Goes past white space, ends of lines and comments between tokens. -/
def skipGap (inFlow : Bool) : Read Unit := do
  advanceOver (gapOf inFlow false (inFlow || (← column) != 0) (← rest))

/-- The line breaks that folding leaves of a number of ends of lines. -/
def folded : Nat → List Char
  | 0 => []
  | 1 => [' ']
  | n + 1 => List.replicate n '\n'

/-! ### Scalars on lines -/

/-- Whether a plain scalar may begin with these characters. -/
def startsPlain (inFlow : Bool) : List Char → Bool
  | [] => false
  | c :: cs =>
    if c = '-' then !isGap cs && !(inFlow && (cs.head?.any fun d => ",[]\x7b\x7d".toList.contains d))
    else if c = '?' ∨ c = ':' then !inFlow && !isGap cs
    else !(",[]\x7b\x7d#&*!|>'\"%@\x60 \t\n".toList.contains c)

/-- The part of a plain scalar on its line; `spaced` says whether white space stands before it. -/
def plainPart (inFlow spaced : Bool) : List Char → List Char
  | [] => []
  | c :: cs =>
    if c = '\n' ∨ (c = '#' ∧ spaced) then []
    else if c = ':' ∧ (isGap cs || (inFlow && cs.head?.any fun d => ",[]\x7b\x7d".toList.contains d)) then []
    else if inFlow ∧ ",[]\x7b\x7d".toList.contains c then []
    else c :: plainPart inFlow (isSpace c) cs

/-- The lines of a plain scalar after the first: each has to reach column `least`. -/
def plainMore (inFlow : Bool) (least : Nat) : (fuel : Nat) → (done : List Char) → Read (List Char)
  | 0, done => return done
  | fuel + 1, done => do
    let gap := (← rest).takeWhile fun c => isSpace c || c == '\n'
    if !gap.contains '\n' then return done
    let margin := gap.reverse.takeWhile (· ≠ '\n')
    let after := (← rest).drop gap.length
    if !inFlow ∧ (margin.reverse.takeWhile (· == ' ')).length < least then
      -- a tab may not stand in for indentation
      if margin.contains '\t' then failure
      return done
    if margin = [] ∧ (isBoundary ['-', '-', '-'] after || isBoundary ['.', '.', '.'] after) then
      return done
    let part := dropEndWhile isSpace (plainPart inFlow true after)
    if part = [] then return done
    advanceOver (gap ++ part)
    plainMore inFlow least fuel (done ++ folded (gap.count '\n') ++ part)

/-- A plain scalar. -/
def readPlain (inFlow : Bool) (least : Nat) : Read (List Char) := do
  if !startsPlain inFlow (← rest) then failure
  let part := dropEndWhile isSpace (plainPart inFlow false (← rest))
  advance part.length
  plainMore inFlow least (← rest).length part

/-- The character of an escape by its number, of so many digits. -/
def readCode (count : Nat) : Read Char := do
  let digits := (← rest).take count
  let n ← inBase? 16 digits
  if digits.length < count ∨ 0x10FFFF < n ∨ (0xD800 ≤ n ∧ n ≤ 0xDFFF) then failure
  advance count
  return Char.ofNat n

/-- The character of an escape in a text between double quotation marks. -/
def readEscape : Read Char := do
  let c ← (← next?)
  advance 1
  match c with
  | '0' => return '\x00'
  | 'a' => return '\x07'
  | 'b' => return '\x08'
  | 't' | '\t' => return '\t'
  | 'n' => return '\n'
  | 'v' => return '\x0b'
  | 'f' => return '\x0c'
  | 'r' => return '\r'
  | 'e' => return '\x1b'
  | ' ' => return ' '
  | '"' => return '"'
  | '/' => return '/'
  | '\\' => return '\\'
  | 'N' => return '\u0085'
  | '_' => return '\u00a0'
  | 'L' => return '\u2028'
  | 'P' => return '\u2029'
  | 'x' => readCode 2
  | 'u' => readCode 4
  | 'U' => readCode 8
  | _ => failure

/-- The rest of a text between quotation marks. `done` holds what was read, `gap` the white space
since; both nearest first. -/
def readQuotedFrom (double : Bool) : (fuel : Nat) → (done gap : List Char) → Read (List Char)
  | 0, _, _ => failure
  | fuel + 1, done, gap => do
    let c ← (← next?)
    if isSpace c then
      advance 1
      readQuotedFrom double fuel done (c :: gap)
    else if c = '\n' then
      let breaks := (← rest).takeWhile fun c => isSpace c || c == '\n'
      advanceOver breaks
      readQuotedFrom double fuel ((folded (breaks.count '\n')).reverse ++ done) []
    else
      let done := gap ++ done
      advance 1
      if double then
        if c = '"' then return done.reverse
        else if c = '\\' then
          if (← next?) = some '\n' then
            let breaks := (← rest).takeWhile fun c => isSpace c || c == '\n'
            advanceOver breaks
            readQuotedFrom double fuel (List.replicate (breaks.count '\n' - 1) '\n' ++ done) []
          else
            let d ← readEscape
            readQuotedFrom double fuel (d :: done) []
        else readQuotedFrom double fuel (c :: done) []
      else if c = '\'' then
        if (← next?) = some '\'' then
          advance 1
          readQuotedFrom double fuel ('\'' :: done) []
        else return done.reverse
      else readQuotedFrom double fuel (c :: done) []

/-- A text between quotation marks. -/
def readQuoted : Read (List Char) := do
  let c ← (← next?)
  if c ≠ '"' ∧ c ≠ '\'' then failure
  advance 1
  readQuotedFrom (c = '"') (← rest).length [] []

/-! ### Scalars of several lines -/

/-- What happens to the ends of lines at the end of a block. -/
inductive Chomp where
  | strip
  | clip
  | keep

/-- The signs after the mark of a block: how it ends, and its indentation if that is given. -/
def readHeader : (fuel : Nat) → Chomp → Option Nat → Read (Chomp × Option Nat)
  | 0, chomp, indent => return (chomp, indent)
  | fuel + 1, chomp, indent => do
    match ← next? with
    | some '-' => advance 1; readHeader fuel .strip indent
    | some '+' => advance 1; readHeader fuel .keep indent
    | some c =>
      if isDigit c && c != '0' then
        advance 1
        readHeader fuel chomp (some (c.toNat - 48))
      else return (chomp, indent)
    | none => return (chomp, indent)

/-- The lines of a block: those that reach its indentation, and the empty ones between and after
them. Empty lines are given without their blanks. -/
def blockLines (indent : Nat) : List (List Char) → List (List Char)
  | [] => []
  | line :: more =>
    let margin := (line.takeWhile (· == ' ')).length
    if indent ≤ margin ∧ margin < line.length then line.drop indent :: blockLines indent more
    else if margin = line.length then line.drop indent :: blockLines indent more
    else []

/-- The text of the lines of a folded block. `open?` says whether a line has just ended that may be
joined with the next one, `breaks` counts the empty lines since. -/
def foldLines : (joinable : Bool) → (started : Bool) → (breaks : Nat) → List (List Char) → List Char
  | _, _, _, [] => []
  | joinable, started, breaks, line :: more =>
    if line = [] then foldLines joinable started (breaks + 1) more
    else
      let indented := line.head?.any isSpace
      let gap :=
        if !started then List.replicate breaks '\n'
        else if joinable && !indented then folded (breaks + 1)
        else List.replicate (breaks + 1) '\n'
      gap ++ line ++ foldLines (!indented) true 0 more

/-- The text of the lines of a literal block. -/
def literalLines : (started : Bool) → List (List Char) → List Char
  | _, [] => []
  | started, line :: more => (if started then ['\n'] else []) ++ line ++ literalLines true more

/-- A block of lines after its mark. The lines have to reach column `least`. -/
def readBlock (least : Nat) : Read (List Char) := do
  let literal := (← next?) = some '|'
  advance 1
  let (chomp, given) ← readHeader 2 .clip none
  let spaces := (← rest).takeWhile isSpace
  advance spaces.length
  if (← next?) = some '#' ∧ spaces ≠ [] then
    advance ((← rest).takeWhile (· ≠ '\n')).length
  match ← next? with
  | none => return []
  | some c => if c ≠ '\n' then failure
  advanceOver ['\n']
  let parts := pieces (· == '\n') (← rest)
  let blank (line : List Char) : Bool := line.all (· == ' ')
  let firstMargin := (parts.dropWhile blank).head?.map fun line => (line.takeWhile (· == ' ')).length
  let indent := match given with
    | some n => (least - 1) + n
    | none => max least (firstMargin.getD 0)
  let taken := blockLines indent parts
  let taken := if taken.length = parts.length then taken.dropLast ++ [taken.getLast?.getD []] else taken
  -- the last piece of the text is a line only when it holds something
  let whole := taken.length = parts.length
  let consumed := join ['\n'] (parts.take taken.length) ++ (if whole then [] else ['\n'])
  advanceOver consumed
  let taken := if whole ∧ (parts.getLast?.getD []) = [] then taken.dropLast else taken
  let ended := !whole || (parts.getLast?.getD []) = []
  let content := dropEndWhile (· == []) taken
  let trailing := taken.length - content.length
  let body := if literal then literalLines false content else foldLines false false 0 content
  match chomp with
  | .strip => return body
  | .clip => return if content = [] then [] else body ++ (if ended || trailing != 0 then ['\n'] else [])
  | .keep =>
    return if content = [] then List.replicate trailing '\n'
      else body ++ List.replicate (trailing + (if ended then 1 else 0)) '\n'
where
  /-- Drops from the end while `p` holds. -/
  dropEndWhile (p : List Char → Bool) (xs : List (List Char)) : List (List Char) :=
    (xs.reverse.dropWhile p).reverse

/-! ### Nodes -/

/-- The properties of a node: its name, and whether it is a text by its tag. -/
structure Properties where
  anchor : Option (List Char)
  isText : Bool

/-- A name or tag up to white space or a mark of a collection. -/
def wordOf (cs : List Char) : List Char :=
  cs.takeWhile fun c => !isSpace c && c != '\n' && !(",[]\x7b\x7d".toList.contains c)

/-- The properties in front of a node, in either order. -/
def readProperties : (fuel : Nat) → Properties → Read Properties
  | 0, p => return p
  | fuel + 1, p => do
    match ← next? with
    | some '&' =>
      let name := wordOf ((← rest).drop 1)
      if name = [] then failure
      advance (name.length + 1)
      skipSpaces
      readProperties fuel { p with anchor := some name }
    | some '!' =>
      let tag := wordOf (← rest)
      advance tag.length
      skipSpaces
      let isText := tag = ['!'] ∨ tag = ['!', '!', 's', 't', 'r']
      readProperties fuel { p with isText }
    | _ => return p

/-- No properties. -/
def noProperties : Properties := ⟨none, false⟩

/-- Gives a node its properties. -/
def name (p : Properties) (d : Document) : Read Document := do
  let d := match d with
    | .plain written _ => if p.isText then .text written else d
    | d => d
  match p.anchor with
  | some anchor => modify fun s => { s with anchors := (anchor, d) :: s.anchors }
  | none => pure ()
  return d

/-- The document of a plain scalar. -/
def plain (cs : List Char) : Document := .plain (String.ofList cs) (meaning cs)

/-- The node that a name refers to. -/
def readAlias : Read Document := do
  advance 1
  let name := wordOf (← rest)
  if name = [] then failure
  advance name.length
  match (← get).anchors.find? (·.1 == name) with
  | some (_, d) => return d
  | none => failure

/-- The text of a scalar used as a key. -/
def keyText : Document → Read String
  | .text s => return s
  | .plain written _ => return written
  | _ => failure

/-- A record of entries, whose keys have to differ. -/
def recordOf (entries : List (String × Document)) : Read Document :=
  if (entries.map (·.1)).eraseDups.length = entries.length then return .record entries none
  else failure

mutual

/-- A node between marks, or a scalar whose further lines reach column `least`. -/
def readFlow : (fuel : Nat) → (inFlow : Bool) → (least : Nat) → Read Document
  | 0, _, _ => failure
  | fuel + 1, inFlow, least => do
    let p ← readProperties 2 noProperties
    let d ← do
      match ← next? with
      | some '[' =>
        advance 1
        pure (.list (← readFlowItems fuel []) none)
      | some '\x7b' =>
        advance 1
        recordOf (← readFlowFields fuel [])
      | some '"' | some '\'' => pure (.text (String.ofList (← readQuoted)))
      | some '*' => readAlias
      | _ => pure (plain (← readPlain inFlow least))
    name p d

/-- The items of a list between brackets. -/
def readFlowItems : (fuel : Nat) → (done : List Document) → Read (List Document)
  | 0, _ => failure
  | fuel + 1, done => do
    skipGap true
    if (← next?) = some ']' then
      advance 1
      return done
    let first ← readFlow fuel true 0
    skipGap true
    let item ← do
      if (← next?) = some ':' then
        advance 1
        pure (.record [(← keyText first, ← readFlowValue fuel)] none)
      else pure first
    skipGap true
    match ← next? with
    | some ',' =>
      advance 1
      readFlowItems fuel (done ++ [item])
    | some ']' =>
      advance 1
      return done ++ [item]
    | _ => failure

/-- The value after a colon between marks; nothing stands for null. -/
def readFlowValue : (fuel : Nat) → Read Document
  | 0 => failure
  | fuel + 1 => do
    skipGap true
    match ← next? with
    | some ',' | some ']' | some '\x7d' => return plain []
    | _ => readFlow fuel true 0

/-- The fields of a record between braces. -/
def readFlowFields : (fuel : Nat) → (done : List (String × Document)) →
    Read (List (String × Document))
  | 0, _ => failure
  | fuel + 1, done => do
    skipGap true
    if (← next?) = some '\x7d' then
      advance 1
      return done
    let key ← keyText (← readFlow fuel true 0)
    skipGap true
    let value ← do
      if (← next?) = some ':' then
        advance 1
        readFlowValue fuel
      else pure (plain [])
    skipGap true
    match ← next? with
    | some ',' =>
      advance 1
      readFlowFields fuel (done ++ [(key, value)])
    | some '\x7d' =>
      advance 1
      return done ++ [(key, value)]
    | _ => failure

end

/-- A key on one line with the colon after it. -/
def readKey : Read String := do
  let before ← rest
  let p ← readProperties 2 noProperties
  let d ← do
    match ← next? with
    | some '"' | some '\'' => pure (.text (String.ofList (← readQuoted)))
    | some '*' => readAlias
    | _ =>
      if !startsPlain false (← rest) then failure
      let part := dropEndWhile isSpace (plainPart false false (← rest))
      advance part.length
      pure (plain part)
  let d ← name p d
  let taken := before.take (before.length - (← rest).length)
  if taken.contains '\n' then failure
  skipSpaces
  match ← rest with
  | ':' :: after => if !isGap after then failure else advance 1
  | _ => failure
  keyText d

/-- Whether a key with a colon stands here. -/
def atKey : Read Bool := do
  return (readKey.run (← get)).isSome

/-- Whether an entry of a sequence begins here. -/
def atEntry : Read Bool := do
  match ← rest with
  | '-' :: after => return isGap after
  | _ => return false

/-- Whether the line is at its end, but for a comment after white space. -/
def endLine : Read Unit := do
  let before ← rest
  skipSpaces
  match ← next? with
  | none | some '\n' => return
  | some '#' => if before.head? = some '#' then failure
  | _ => failure

mutual

/-- A node in a block, where it stands; its further lines reach column `least`. -/
def readNode : (fuel : Nat) → (least : Nat) → Read Document
  | 0, _ => failure
  | fuel + 1, least => do
    let here ← column
    if ← atEntry then
      return .list (← readEntries fuel here []) none
    if ← atKey then
      recordOf (← readFields fuel here [])
    else
      let p ← readProperties 2 noProperties
      match ← next? with
      | some '|' | some '>' => name p (.text (String.ofList (← readBlock least)))
      | none | some '\n' | some '#' =>
        -- a node with properties on the line before it
        skipGap false
        if (← rest) = [] ∨ (← column) < least ∨ (← atBoundary) then name p (plain [])
        else name p (← readNode fuel least)
      | _ =>
        let d ← readFlow fuel false least
        endLine
        name p d

/-- The entries of a sequence at a column. -/
def readEntries : (fuel : Nat) → (here : Nat) → (done : List Document) → Read (List Document)
  | 0, _, _ => failure
  | fuel + 1, here, done => do
    advance 1
    skipSpaces
    let item ← do
      match ← next? with
      | none | some '\n' | some '#' =>
        skipGap false
        if (← rest) = [] ∨ (← column) ≤ here ∨ (← atBoundary) then pure (plain [])
        else readNode fuel (here + 1)
      | _ => readNode fuel (here + 1)
    skipGap false
    if (← rest) = [] ∨ (← column) < here ∨ (← atBoundary) then return done ++ [item]
    if (← column) = here then
      if ← atEntry then readEntries fuel here (done ++ [item])
      else return done ++ [item]
    else failure

/-- The fields of a mapping at a column. -/
def readFields : (fuel : Nat) → (here : Nat) → (done : List (String × Document)) →
    Read (List (String × Document))
  | 0, _, _ => failure
  | fuel + 1, here, done => do
    let key ← readKey
    skipSpaces
    let p ← readProperties 2 noProperties
    let value ← do
      match ← next? with
      | none | some '\n' | some '#' =>
        skipGap false
        if (← rest) = [] ∨ (← atBoundary) then pure (plain [])
        else if here < (← column) then readNode fuel (here + 1)
        else if (← column) = here ∧ (← atEntry) then
          pure (.list (← readEntries fuel here []) none)
        else pure (plain [])
      | some '|' | some '>' => pure (.text (String.ofList (← readBlock (here + 1))))
      | _ =>
        let d ← readFlow fuel false (here + 1)
        endLine
        pure d
    let value ← name p value
    skipGap false
    let done := done ++ [(key, value)]
    if (← rest) = [] ∨ (← column) < here ∨ (← atBoundary) then return done
    if (← column) = here then readFields fuel here done else failure

end

/-- Goes past lines of directives. -/
def skipDirectives : (fuel : Nat) → Read Unit
  | 0 => return
  | fuel + 1 => do
    skipGap false
    if (← next?) = some '%' ∧ (← column) = 0 then
      advance ((← rest).takeWhile (· ≠ '\n')).length
      skipDirectives fuel

/-- The only document of a text. -/
def readDocument : Read Document := do
  skipDirectives (← rest).length
  if isBoundary ['-', '-', '-'] (← rest) then
    advance 3
    skipSpaces
    skipGap false
  if (← rest) = [] ∨ (← atBoundary) then failure
  let d ← readNode (2 * (← rest).length + 2) 0
  skipGap false
  if isBoundary ['.', '.', '.'] (← rest) then
    advance 3
    skipGap false
  if (← rest) ≠ [] then failure
  return d

/-- A text with line feeds for all ends of lines. -/
def plainBreaks : List Char → List Char
  | '\r' :: '\n' :: cs => '\n' :: plainBreaks cs
  | '\r' :: cs => '\n' :: plainBreaks cs
  | c :: cs => c :: plainBreaks cs
  | [] => []

/-- The document of a text. -/
def read (text : String) : Document :=
  let cs := plainBreaks text.toList
  let cs := if cs.head? = some '\ufeff' then cs.tail else cs
  match readDocument.run ⟨cs, 0, []⟩ with
  | some (d, _) => d
  | none => .broken .unreadable

/-! ## Writing -/

/-- Whether a name may stand without quotation marks. -/
def isPlainName (s : String) : Bool :=
  s != "" && s.toList.all (fun c => isAsciiLetter c || c == '_') &&
    meaning s.toList = .text s

/-- A name as a key. -/
def keyChars (s : String) : List Char := if isPlainName s then s.toList else Json.quoteChars s

/-- A new line at an indentation. -/
def newLine (indent : Nat) : List Char := '\n' :: List.replicate indent ' '

mutual

/-- A value that stands after a key or a hyphen, its blocks at an indentation. -/
def valueChars (indent : Nat) : Value → List Char
  | .list (item :: more) => newLine indent ++ itemsChars indent (item :: more)
  | .record (field :: more) => newLine indent ++ fieldsChars indent (field :: more)
  | other => ' ' :: other.compactChars

/-- The entries of a sequence. -/
def itemsChars (indent : Nat) : List Value → List Char
  | [] => []
  | [item] => '-' :: valueChars (indent + 2) item
  | item :: more => '-' :: (valueChars (indent + 2) item ++ newLine indent ++ itemsChars indent more)

/-- The entries of a mapping. -/
def fieldsChars (indent : Nat) : List (String × Value) → List Char
  | [] => []
  | [(key, value)] => keyChars key ++ ':' :: valueChars (indent + 2) value
  | (key, value) :: more =>
    keyChars key ++ ':' :: (valueChars (indent + 2) value ++ newLine indent ++ fieldsChars indent more)

end

/-- The document of a value. -/
def write (v : Value) : String :=
  String.ofList (match v with
    | .list (item :: more) => itemsChars 0 (item :: more) ++ ['\n']
    | .record (field :: more) => fieldsChars 0 (field :: more) ++ ['\n']
    | other => other.compactChars ++ ['\n'])

end Yaml

end Dialogue

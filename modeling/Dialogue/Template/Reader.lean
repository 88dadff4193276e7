import Dialogue.Document.Json
import Dialogue.Template.Syntax

/-!
# Reading tags

Every reader takes a list of characters and answers with what it read and with what follows, or
with nothing where the text does not fit. Blanks may stand between the parts of a tag but not inside
a reference. Alternatives are tried in order and the first that fits is kept, even when what follows
it does not fit.
-/

namespace Dialogue.Template

open Text

/-- Drops the white space that may stand between the parts of a tag. -/
def skip (cs : List Char) : List Char := Json.skipSpace cs

/-- A fixed mark. -/
def mark? (m : String) (cs : List Char) : Option (List Char) := after? m.toList cs

/-- Characters of names: letters and digits of the ASCII range, `-`, `_` and everything beyond
that range. -/
def isNameChar (c : Char) : Bool := isAsciiLetter c || isDigit c || c == '-' || c == '_' || 128 ≤ c.toNat

/-- A name. -/
def readName (cs : List Char) : Option (String × List Char) :=
  let name := cs.takeWhile isNameChar
  if name = [] then none else some (String.ofList name, cs.dropWhile isNameChar)

/-- A name between brackets, or a plain one. -/
def readItem (cs : List Char) : Option (String × List Char) :=
  match cs with
  | '[' :: rest =>
    match rest.dropWhile (· ≠ ']') with
    | _ :: after => some (String.ofList (rest.takeWhile (· ≠ ']')), after)
    | [] => none
  | _ => readName cs

/-- A dot or a slash. -/
def readSeparator (cs : List Char) : Option (List Char) :=
  match cs with
  | '.' :: rest | '/' :: rest => some rest
  | _ => none

/-- The further items of a reference. -/
def readItems : (fuel : Nat) → List Char → List String × List Char
  | 0, cs => ([], cs)
  | fuel + 1, cs =>
    match readSeparator cs with
    | none => ([], cs)
    | some rest =>
      match readItem rest with
      | none => ([], cs)
      | some (item, rest) => let (items, rest) := readItems fuel rest; (item :: items, rest)

/-- The steps to enclosing blocks at the front of a reference. -/
def readUps : (fuel : Nat) → List Char → Nat × List Char
  | 0, cs => (0, cs)
  | fuel + 1, cs =>
    match cs with
    | '.' :: '.' :: rest =>
      match readSeparator rest with
      | some rest => let (n, rest) := readUps fuel rest; (n + 1, rest)
      | none => (0, cs)
    | _ => (0, cs)

/-- A reference. The name `this` stands for the place itself and adds no part. -/
def readReference (cs : List Char) : Option (Argument × List Char) :=
  let start := cs
  let cs := match mark? "this" cs with
    | some rest => (readSeparator rest).getD cs
    | none => (mark? "./" cs).getD cs
  let (root, cs) := match (mark? "@root" cs).bind readSeparator with
    | some rest => ([RefPart.root], rest)
    | none => ([], cs)
  let (own, cs) := match cs with
    | '@' :: rest => ([RefPart.own], rest)
    | _ => ([], cs)
  let (ups, cs) := readUps cs.length cs
  match readItem cs with
  | none => none
  | some (first, rest) =>
    let (more, rest) := readItems rest.length rest
    let names := ((first :: more).filter (· ≠ "this")).map RefPart.named
    let written := start.take (start.length - rest.length)
    some (.reference (root ++ own ++ List.replicate ups .up ++ names) (String.ofList written), rest)

/-- The characters between two equal quotation marks, with their escapes still in place. -/
def readQuotedFrom (q : Char) : (fuel : Nat) → List Char → Option (List Char × List Char)
  | 0, _ => none
  | fuel + 1, cs =>
    match cs with
    | [] => none
    | '\\' :: 'u' :: a :: b :: c :: d :: rest =>
      if [a, b, c, d].all (fun x => (hexValue? x).isSome) then
        (readQuotedFrom q fuel rest).map fun (s, rest) => ('\\' :: 'u' :: a :: b :: c :: d :: s, rest)
      else none
    | '\\' :: e :: rest =>
      if e = q ∨ e ∈ ['\\', '/', 'b', 'f', 'n', 'r', 't'] then
        (readQuotedFrom q fuel rest).map fun (s, rest) => ('\\' :: e :: s, rest)
      else none
    | c :: rest =>
      if c = q then some ([], rest)
      else if c = '\\' then none
      else (readQuotedFrom q fuel rest).map fun (s, rest) => (c :: s, rest)

/-- A text literal with its quotation marks, escapes still in place. -/
def skipQuoted (cs : List Char) : Option (List Char) :=
  match cs with
  | '"' :: rest => (readQuotedFrom '"' (rest.length + 1) rest).map (·.2)
  | '\'' :: rest => (readQuotedFrom '\'' (rest.length + 1) rest).map (·.2)
  | _ => none

/-- Skips a word that no name character follows. -/
def skipWord (word : String) (cs : List Char) : Option (List Char) :=
  match mark? word cs with
  | some [] => some []
  | some (c :: rest) => if isNameChar c then none else some (c :: rest)
  | none => none

/-- Skips a number that no name character follows. -/
def skipNumber (cs : List Char) : Option (List Char) :=
  let cs := (mark? "-" cs).getD cs
  if (cs.takeWhile isDigit) = [] then none
  else
    let cs := cs.dropWhile isDigit
    let cs := ((mark? "." cs).getD cs).dropWhile isDigit
    let cs := match cs with
      | 'E' :: rest =>
        let rest := (mark? "-" rest).getD rest
        if rest.takeWhile isDigit = [] then cs else rest.dropWhile isDigit
      | _ => cs
    match cs with
    | c :: _ => if isNameChar c then none else some cs
    | [] => some []

mutual

/-- Skips a literal. -/
def skipLiteral : (fuel : Nat) → List Char → Option (List Char)
  | 0, _ => none
  | fuel + 1, cs =>
    match cs with
    | '"' :: _ | '\'' :: _ => skipQuoted cs
    | '[' :: rest =>
      let first := (skipLiteral fuel (skip rest)).getD rest
      mark? "]" (skip (skipMore fuel first))
    | '\x7b' :: rest =>
      let first := (skipPair fuel (skip rest)).getD rest
      mark? "\x7d" (skip (skipMorePairs fuel first))
    | _ => ((skipNumber cs).or (skipWord "null" cs)).or
        ((skipWord "true" cs).or (skipWord "false" cs))

/-- Skips further items, each after a comma. -/
def skipMore : (fuel : Nat) → List Char → List Char
  | 0, cs => cs
  | fuel + 1, cs =>
    match mark? "," (skip cs) with
    | none => cs
    | some rest =>
      match skipLiteral fuel (skip rest) with
      | none => cs
      | some rest => skipMore fuel rest

/-- Skips a name with its value. -/
def skipPair : (fuel : Nat) → List Char → Option (List Char)
  | 0, _ => none
  | fuel + 1, cs =>
    match skipQuoted cs with
    | none => none
    | some rest =>
      match mark? ":" (skip rest) with
      | none => none
      | some rest => skipLiteral fuel (skip rest)

/-- Skips further names with their values, each after a comma. -/
def skipMorePairs : (fuel : Nat) → List Char → List Char
  | 0, cs => cs
  | fuel + 1, cs =>
    match mark? "," (skip cs) with
    | none => cs
    | some rest =>
      match skipPair fuel (skip rest) with
      | none => cs
      | some rest => skipMorePairs fuel rest

end

/-- The value that a literal denotes; a text in single quotation marks is read as one in double
marks. A literal of the right form may still denote nothing, as `01` does. -/
def literalValue? (written : List Char) : Option Value :=
  let json := match written with
    | '\'' :: rest =>
      '"' :: (replaceAll ['"'] ['\\', '"'] (replaceAll ['\\', '\''] ['\''] rest.dropLast) ++ ['"'])
    | _ => written
  match Json.parse (String.ofList json) with
  | .ok v => some v
  | .error _ => none

/-- Whether a word that cannot begin an argument comes next. -/
def atKeyword (cs : List Char) : Bool :=
  (skipWord "as" cs).isSome || (skipWord "else" cs).isSome

mutual

/-- An argument: a literal, a reference or a nested call. -/
def readArgument : (fuel : Nat) → List Char → Option (Argument × List Char)
  | 0, _ => none
  | fuel + 1, cs =>
    if atKeyword cs then none
    else
      match skipLiteral (cs.length + 1) cs with
      | some rest =>
        (literalValue? (cs.take (cs.length - rest.length))).map fun v => (.literal v, rest)
      | none =>
        match readReference cs with
        | some read => some read
        | none =>
          match cs with
          | '(' :: rest => readCall fuel (skip rest)
          | _ => none

/-- A nested call after its opening parenthesis. -/
def readCall : (fuel : Nat) → List Char → Option (Argument × List Char)
  | 0, _ => none
  | fuel + 1, cs =>
    match readHead fuel cs with
    | none => none
    | some (head, arguments, options, rest) =>
      (mark? ")" (skip rest)).map fun rest => (.call head arguments options, rest)

/-- A name with at least one argument, or else a reference or a nested call alone. -/
def readHead : (fuel : Nat) → List Char →
    Option (Argument × List Argument × List (String × Argument) × List Char)
  | 0, _ => none
  | fuel + 1, cs =>
    let alone :=
      match cs with
      | '(' :: rest => readCall fuel (skip rest)
      | _ => readReference cs
    let alone := alone.map fun (head, rest) => (head, [], [], rest)
    match readName cs with
    | none => alone
    | some (name, rest) =>
      match readArguments fuel rest with
      | ([], [], _) => alone
      | (arguments, options, rest) => some (.name name, arguments, options, rest)

/-- Arguments and named options, as many as there are. -/
def readArguments : (fuel : Nat) → List Char →
    List Argument × List (String × Argument) × List Char
  | 0, cs => ([], [], cs)
  | fuel + 1, cs =>
    let named : Option (String × Argument × List Char) :=
      match readName (skip cs) with
      | none => none
      | some (name, rest) =>
        match mark? "=" (skip rest) with
        | none => none
        | some rest => (readArgument fuel (skip rest)).map fun (a, rest) => (name, a, rest)
    match named with
    | some (name, a, rest) =>
      let (arguments, options, rest) := readArguments fuel rest
      (arguments, (name, a) :: options, rest)
    | none =>
      match readArgument fuel (skip cs) with
      | none => ([], [], cs)
      | some (a, rest) =>
        let (arguments, options, rest) := readArguments fuel rest
        (a :: arguments, options, rest)

end

/-- The names after `as` between two bars. -/
def readItemNames (cs : List Char) : Option (List String × List Char) := do
  let cs ← mark? "as" cs
  let cs ← mark? "|" (skip cs)
  let (first, cs) ← readName (skip cs)
  match readName (skip cs) with
  | some (second, cs) => do
    let cs ← mark? "|" (skip cs)
    some ([first, second], cs)
  | none => do
    let cs ← mark? "|" (skip cs)
    some ([first], cs)

/-- An optional wave that trims the white space beside a tag. -/
def readWave (cs : List Char) : Bool × List Char :=
  match skip cs with
  | '~' :: rest => (true, rest)
  | _ => (false, cs)

/-- The end of a tag: an optional wave and the closing marks. -/
def readEnd (close : String) (cs : List Char) : Option (Bool × List Char) :=
  let (wave, cs) := readWave cs
  (mark? close (skip cs)).map fun rest => (wave, rest)

/-- What was read of a tag. -/
inductive Tag where
  | text (cs : List Char)
  | value (e : Expression)
  | opening (e : Expression)
  | hidden (e : Expression)
  | otherwise (trimBefore trimAfter : Bool)
  | otherwiseIf (e : Expression)
  | closing (name : String) (trimBefore trimAfter : Bool)
  | verbatim (e : Expression) (lastOnLine : Bool) (cs : List Char) (name : String)
    (trimBefore trimAfter : Bool)
  | comment
  | refused (trimBefore trimAfter : Bool)
  deriving Repr, Inhabited

/-- A name with arguments and item names, as blocks begin. -/
def readBlockHead (trimBefore : Bool) (cs : List Char) : Option (Expression × List Char) :=
  match readName (skip cs) with
  | none => none
  | some (name, rest) =>
    let (arguments, options, rest) := readArguments (2 * cs.length + 2) rest
    let (names, rest) := (readItemNames (skip rest)).getD ([], rest)
    some (⟨.name name, arguments, options, names, trimBefore, false⟩, rest)

/-- An expression, after its opening marks. -/
def readValue (trimBefore : Bool) (close : List Char → Option (Bool × List Char)) (cs : List Char) :
    Option (Tag × List Char) :=
  match readHead (2 * cs.length + 2) (skip cs) with
  | none => none
  | some (head, arguments, options, rest) =>
    (close rest).map fun (after, rest) =>
      (.value ⟨head, arguments, options, [], trimBefore, after⟩, rest)

/-- The tag of the other case of a block, alone. -/
def readOtherwise (cs : List Char) : Option (Tag × List Char) := do
  let cs ← mark? "\x7b\x7b" cs
  let (before, cs) := readWave cs
  let cs ← (mark? "else" (skip cs)).or (mark? "^" (skip cs))
  let (after, cs) ← readEnd "\x7d\x7d" cs
  some (.otherwise before after, cs)

/-- The tag of the other case of a block with a condition of its own. -/
def readOtherwiseIf (cs : List Char) : Option (Tag × List Char) := do
  let cs ← mark? "\x7b\x7b" cs
  let (before, cs) := readWave cs
  let cs ← (mark? "else" (skip cs)).or (mark? "^" (skip cs))
  let (e, cs) ← readBlockHead before cs
  let (after, cs) ← readEnd "\x7d\x7d" cs
  some (.otherwiseIf { e with trimAfter := after }, cs)

/-- An expression between triple braces or after an ampersand. -/
def readUnescaped (cs : List Char) : Option (Tag × List Char) :=
  let bare := (mark? "\x7b\x7b\x7b" cs).bind
    (readValue false fun cs => (mark? "\x7d\x7d\x7d" (skip cs)).map (false, ·))
  let triple := do
    let cs ← mark? "\x7b\x7b" cs
    let (before, cs) := readWave cs
    let cs ← mark? "\x7b" (skip cs)
    readValue before (fun cs => (mark? "\x7d" (skip cs)).bind (readEnd "\x7d\x7d")) cs
  let ampersand := do
    let cs ← mark? "\x7b\x7b" cs
    let (before, cs) := readWave cs
    let cs ← mark? "&" (skip cs)
    let alone (cs : List Char) : Option (Tag × List Char) :=
      match cs with
      | '(' :: _ => readValue before (readEnd "\x7d\x7d") cs
      | _ => do
        let (r, cs) ← readReference cs
        let (after, cs) ← readEnd "\x7d\x7d" cs
        some (.value ⟨r, [], [], [], before, after⟩, cs)
    alone (skip cs)
  bare.or (triple.or ampersand)

/-- The tag that opens a block. -/
def readOpening (cs : List Char) : Option (Tag × List Char) := do
  let cs ← mark? "\x7b\x7b" cs
  let (before, cs) := readWave cs
  let cs ← mark? "#" (skip cs)
  match skip cs with
  | '*' :: cs => do
    let (e, cs) ← readBlockHead before cs
    let (after, cs) ← readEnd "\x7d\x7d" cs
    some (.hidden { e with trimAfter := after }, cs)
  | _ => do
    let (e, cs) ← readBlockHead before cs
    let (after, cs) ← readEnd "\x7d\x7d" cs
    some (.opening { e with trimAfter := after }, cs)

/-- The tag that closes a block. -/
def readClosing (cs : List Char) : Option (Tag × List Char) := do
  let cs ← mark? "\x7b\x7b" cs
  let (before, cs) := readWave cs
  let cs ← mark? "/" (skip cs)
  let (name, cs) ← readName (skip cs)
  let (after, cs) ← readEnd "\x7d\x7d" cs
  some (.closing name before after, cs)

/-- Text up to a mark. A backslash before two opening braces takes them as text and is dropped; of
several backslashes before them the first is dropped. -/
def readPlain (stop : List Char) : (fuel : Nat) → List Char → List Char × List Char
  | 0, cs => ([], cs)
  | fuel + 1, cs =>
    match cs with
    | [] => ([], [])
    | c :: rest =>
      if begins stop cs then ([], cs)
      else if c = '\\' then
        match mark? "\x7b\x7b" rest with
        | some after =>
          let (more, after) := match mark? "\x7b\x7b" after with
            | some after => (['\x7b', '\x7b'], after)
            | none => ([], after)
          let (text, rest) := readPlain stop fuel after
          ('\x7b' :: '\x7b' :: (more ++ text), rest)
        | none =>
          let slashes := rest.takeWhile (· = '\\')
          let after := rest.dropWhile (· = '\\')
          if slashes ≠ [] ∧ begins ['\x7b', '\x7b'] after then
            let (text, rest) := readPlain stop fuel after
            (slashes ++ text, rest)
          else
            let (text, rest) := readPlain stop fuel rest
            (c :: text, rest)
      else
        let (text, rest) := readPlain stop fuel rest
        (c :: text, rest)

/-- Whether only blanks stand on the line after some more characters. -/
def lineIsBlank (blank : Bool) (cs : List Char) : Bool :=
  cs.foldl (fun blank c =>
    if c = '\n' ∨ c = '\r' then true else if c = ' ' ∨ c = '\t' then blank else false) blank

/-- Whether nothing but blanks comes before the end of the line or of the text. -/
def restIsBlank (cs : List Char) : Bool :=
  cs = [] || (match cs.dropWhile (fun c => c == ' ' || c == '\t') with
    | c :: _ => c == '\n' || c == '\r'
    | [] => false)

/-- A block whose text is taken as it stands, between quadruple braces. -/
def readVerbatim (cs : List Char) : Option (Tag × List Char) := do
  let cs ← mark? "\x7b\x7b\x7b\x7b" cs
  let (before, cs) := readWave cs
  let (e, cs) ← readBlockHead before cs
  let (after, cs) ← readEnd "\x7d\x7d\x7d\x7d" cs
  let last := restIsBlank cs
  let (text, cs) := readPlain "\x7b\x7b\x7b\x7b".toList (cs.length + 1) (skip cs)
  let cs ← mark? "\x7b\x7b\x7b\x7b" (skip cs)
  let (before, cs) := readWave cs
  let cs ← mark? "/" (skip cs)
  let (name, cs) ← readName (skip cs)
  let (close, cs) ← readEnd "\x7d\x7d\x7d\x7d" cs
  some (.verbatim { e with trimAfter := after } last text name before close, cs)

/-- A remark, long or short. -/
def readComment (cs : List Char) : Option (Tag × List Char) := do
  let inner ← mark? "\x7b\x7b" cs
  let inner ← mark? "!" (skip inner)
  let long := do
    let inner ← mark? "--" (skip inner)
    let (_, rest) ← cut? "--\x7d\x7d".toList inner
    some rest
  let rest ← long.or ((cut? "\x7d\x7d".toList inner).map (·.2))
  some (.comment, rest)

/-- A tag that no program of this library supplies: a decorator or an included template. -/
def readForeign (cs : List Char) : Option (Tag × List Char) := do
  let cs ← mark? "\x7b\x7b" cs
  let (before, cs) := readWave cs
  match skip cs with
  | '*' :: cs => do
    let (_, cs) ← readBlockHead before cs
    let (after, cs) ← readEnd "\x7d\x7d" cs
    some (.refused before after, cs)
  | '>' :: cs => do
    let isNamed (c : Char) : Bool := isNameChar c || c == '/' || c == '.'
    let cs := skip cs
    let rest := if cs.takeWhile isNamed = [] then (readReference cs).map (·.2)
      else some (cs.dropWhile isNamed)
    let rest ← rest
    let (_, _, rest) := readArguments (2 * cs.length + 2) rest
    let (after, rest) ← readEnd "\x7d\x7d" rest
    some (.refused before after, rest)
  | _ => none

/-- The tag at the front of a text that begins with two opening braces. -/
def readTag (cs : List Char) : Option (Tag × List Char) :=
  match readOtherwise cs with
  | some r => some r
  | none =>
    match readOtherwiseIf cs with
    | some r => some r
    | none =>
      let value := do
        let inner ← mark? "\x7b\x7b" cs
        let (before, inner) := readWave inner
        readValue before (readEnd "\x7d\x7d") inner
      value.or ((readUnescaped cs).or ((readOpening cs).or ((readVerbatim cs).or
        ((readComment cs).or ((readForeign cs).or (readClosing cs))))))

/-- A tag in its place: the white space before it, whether only blanks stand before it on its line
and whether nothing but blanks follows it there. -/
structure Placed where
  gap : List Char
  tag : Tag
  firstOnLine : Bool
  lastOnLine : Bool
  deriving Repr, Inhabited

/-- The tags of a template in their places, and the white space at its end. -/
def readTags : (fuel : Nat) → (blank : Bool) → List Char → Option (List Placed × List Char)
  | 0, _, _ => none
  | fuel + 1, blank, cs =>
    let here := skip cs
    let gap := cs.take (cs.length - here.length)
    let start := lineIsBlank blank gap
    if here = [] then some ([], gap)
    else
      let next : Option (Tag × List Char) :=
        if begins ['\x7b', '\x7b'] here then readTag here
        else
          let (text, rest) := readPlain ['\x7b', '\x7b'] (here.length + 1) here
          some (.text text, rest)
      match next with
      | none => none
      | some (tag, rest) =>
        let passed := here.take (here.length - rest.length)
        match readTags fuel (lineIsBlank start passed) rest with
        | none => none
        | some (more, tail) => some (⟨gap, tag, start, restIsBlank rest⟩ :: more, tail)

end Dialogue.Template

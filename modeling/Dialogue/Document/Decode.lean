import Dialogue.Value.Written
import Dialogue.Document.Basic

/-!
# From documents to typed data

A decoder turns a document into data of a type or says why the document does not fit. The parts of a
record are examined in the order of the text, so that of several misfits the first one is reported;
missing fields come last.

A record is described once, field by field, by a `RecordDecoder`; the same description reads a list
of values in the order of the fields.
-/

namespace Dialogue

/-- Where a document comes from: a text that is being read, a value that was read before, or a part
of a text that was set aside until its kind was known. -/
inductive Origin where
  | text
  | value
  | aside
  deriving DecidableEq, Repr

/-- Why a document does not fit a type. -/
inductive Misfit where
  | malformed (fault : TextFault)
  | wrongType (found expected : String)
  | wrongValue (found expected : String)
  | wrongLength (length : Nat) (expected : String)
  | unknownVariant (name : String) (known : List String)
  | missing (name : String)
  | repeated (name : String)
  | refused (reason : String)
  deriving DecidableEq, Repr

namespace Misfit

/-- Names between back quotes, with `or` before the last of two and `one of` before more. -/
def oneOf (names : List String) : String :=
  let quoted := names.map fun name => "`" ++ name ++ "`"
  match quoted with
  | [] => "there are no variants"
  | [a] => "expected " ++ a
  | [a, b] => "expected " ++ a ++ " or " ++ b
  | many => "expected one of " ++ String.intercalate ", " many

/-- The wording of a misfit. -/
def message : Misfit → String
  | malformed fault => fault.message
  | wrongType found expected => "invalid type: " ++ found ++ ", expected " ++ expected
  | wrongValue found expected => "invalid value: " ++ found ++ ", expected " ++ expected
  | wrongLength length expected =>
    "invalid length " ++ toString length ++ ", expected " ++ expected
  | unknownVariant name known => "unknown variant `" ++ name ++ "`, " ++ oneOf known
  | missing name => "missing field `" ++ name ++ "`"
  | repeated name => "duplicate field `" ++ name ++ "`"
  | refused reason => reason

end Misfit

namespace Document

/-- A character of a text shown between quotation marks in a message. -/
def shownChar (c : Char) : List Char :=
  match c with
  | '"' => ['\\', '"']
  | '\\' => ['\\', '\\']
  | '\n' => ['\\', 'n']
  | '\r' => ['\\', 'r']
  | '\t' => ['\\', 't']
  | '\x00' => ['\\', '0']
  | c =>
    if c.toNat < 32 ∨ c.toNat = 127 then
      "\\u\x7b".toList ++ Nat.toDigits 16 c.toNat ++ ['\x7d']
    else [c]

/-- A text shown between quotation marks in a message. -/
def shownText (s : String) : String :=
  String.ofList ('"' :: (s.toList.flatMap shownChar ++ ['"']))

/-- How a message names what was found. -/
def kind : Document → String
  | null => "null"
  | bool b => "boolean `" ++ (if b then "true" else "false") ++ "`"
  | int i => "integer `" ++ toString i ++ "`"
  | real x => "floating point `" ++ x.toText ++ "`"
  | text s => "string " ++ shownText s
  | plain written _ => "string " ++ shownText written
  | list .. => "sequence"
  | record .. => "map"
  | broken _ => "nothing"
  | stopped d _ => d.kind

end Document

/-- A decoder of documents. -/
abbrev Decoder (α : Type) := Origin → Document → Except Misfit α

namespace Decoder

variable {α β : Type}

/-- The misfit of a document where something else was expected. -/
def expected (what : String) (d : Document) : Except Misfit α :=
  match d with
  | .broken fault => .error (.malformed fault)
  | d => .error (.wrongType d.kind what)

/-- The text of a scalar; a plain one counts as it is written. -/
def scalarText? : Document → Option String
  | .text s => some s
  | .plain written _ => some written
  | _ => none

/-- A text. -/
def text : Decoder String := fun _ d =>
  match scalarText? d with
  | some s => .ok s
  | none => expected "a string" d

/-- A truth value. -/
def bool : Decoder Bool := fun _ d =>
  match d.settled with
  | .bool b => .ok b
  | d => expected "a boolean" d

/-- A whole number between two limits, under the name of its type. -/
def integer (least most : Int) (name : String) : Decoder Int := fun _ d =>
  match d.settled with
  | .int i => if least ≤ i ∧ i ≤ most then .ok i else .error (.wrongValue d.kind name)
  | d => expected name d

/-- A natural number below a power of two, under the name of its type. -/
def natural (bits : Nat) (name : String) : Decoder Nat := fun origin d =>
  (integer 0 (twoTo bits - 1) name origin d).map Int.toNat

/-- A natural number of 32 bits. -/
def natural32 : Decoder Nat := natural 32 "u32"

/-- A natural number of 64 bits. -/
def natural64 : Decoder Nat := natural 64 "u64"

/-- A size. -/
def size : Decoder Nat := natural 64 "usize"

/-- An integer of 32 bits. -/
def integer32 : Decoder Int := integer (-twoTo 31) (twoTo 31 - 1) "i32"

/-- A number in single precision. -/
def single : Decoder Binary64 := fun _ d =>
  match d.settled with
  | .real x => .ok x.toSingle
  | .int i => .ok (Binary64.singleOfQuotient (i < 0) i.natAbs 1)
  | d => expected "f32" d

/-- Any value. -/
def any : Decoder Value := fun _ d =>
  match d.toValue with
  | .ok v => .ok v
  | .error fault => .error (.malformed fault)

/-- Nothing for null, something for anything else. -/
def optional (f : Decoder α) : Decoder (Option α) := fun origin d =>
  match d with
  | .null | .plain _ .null => .ok none
  | d => (f origin d).map some

/-- Decodes items in their order. -/
def items (f : Decoder α) (origin : Origin) : List Document → Except Misfit (List α)
  | [] => .ok []
  | item :: more =>
    match f origin item with
    | .error m => .error m
    | .ok a =>
      match items f origin more with
      | .error m => .error m
      | .ok rest => .ok (a :: rest)

/-- A list. -/
def list (f : Decoder α) : Decoder (List α) := fun origin d =>
  match d with
  | .list ds end? =>
    match items f origin ds, end? with
    | .error m, _ => .error m
    | .ok _, some fault => .error (.malformed fault)
    | .ok as, none => .ok as
  | d => expected "a sequence" d

/-- Decodes the values of fields in their order. -/
def pairs (f : Decoder α) (origin : Origin) :
    List (String × Document) → Except Misfit (List (String × α))
  | [] => .ok []
  | (name, item) :: more =>
    match f origin item.reading with
    | .error m => .error m
    | .ok a =>
      match pairs f origin more with
      | .error m => .error m
      | .ok rest => .ok ((name, a) :: rest)

/-- A collection of named values; of several with one name the last counts. -/
def fields (f : Decoder α) : Decoder (Fields α) := fun origin d =>
  match d with
  | .record ds end? =>
    match pairs f origin ds, end? with
    | .error m, _ => .error m
    | .ok _, some fault => .error (.malformed fault)
    | .ok as, none => .ok (Fields.ofList as)
  | d => expected "a map" d

/-- What a name stands for, among the accepted ones. -/
def named (names : List (String × α)) (name : String) : Except Misfit α :=
  match names.find? (·.1 == name) with
  | some (_, a) => .ok a
  | none => .error (.unknownVariant name (names.map (·.1)))

/-- Nothing at all, as null says it. -/
def nothing (d : Document) : Except Misfit Unit :=
  match d.reading.settled with
  | .null => .ok ()
  | d => expected "unit" d

/-- A name given as the only field of a record, without content. In a text the name is judged before
anything that follows it. -/
def oneOfRecord (names : List (String × α)) (origin : Origin) (fs : List (String × Document))
    (end? : Option TextFault) : Except Misfit α :=
  match fs with
  | [] =>
    if origin = .text then
      .error (.malformed (if end? = some .endInRecord then .endInValue else .valueExpected))
    else .error (.wrongValue "map" "map with a single key")
  | (name, d) :: more =>
    if origin ≠ .text ∧ more ≠ [] then .error (.wrongValue "map" "map with a single key")
    else
      match named names name, nothing d with
      | .error m, _ => .error m
      | .ok _, .error m => .error m
      | .ok a, .ok () =>
        if more ≠ [] then .error (.malformed .valueExpected)
        else
          match end? with
          | none => .ok a
          | some .endInRecord => .error (.malformed .endInRecord)
          | some _ => .error (.malformed .valueExpected)

/-- One of several names; the list gives each accepted name with what it stands for. -/
def oneOf (names : List (String × α)) : Decoder α := fun origin d =>
  match scalarText? d, d with
  | some s, _ => named names s
  | none, .record fs end? => oneOfRecord names origin fs end?
  | none, .broken fault => .error (.malformed fault)
  | none, d =>
    if origin = .text then .error (.malformed .valueExpected) else expected "string or map" d

end Decoder

/-- What a record decoder knows of one field: its name, whether it may be missing, and whether a
document fits it. -/
structure FieldRule where
  name : String
  mayMiss : Bool
  check : Origin → Document → Except Misfit Unit

/-- A decoder of records: the rules of its fields in their order, and how the data is made from the
documents of the fields. -/
structure RecordDecoder (α : Type) where
  rules : List FieldRule
  make : Origin → (String → Option Document) → Except Misfit α

namespace RecordDecoder

variable {α β : Type}

/-- No fields. -/
def pure (a : α) : RecordDecoder α := ⟨[], fun _ _ => .ok a⟩

/-- The fields of two decoders, one after the other. -/
def ap (f : RecordDecoder (α → β)) (x : RecordDecoder α) : RecordDecoder β :=
  ⟨f.rules ++ x.rules, fun origin find =>
    match f.make origin find with
    | .error m => .error m
    | .ok g =>
      match x.make origin find with
      | .error m => .error m
      | .ok a => .ok (g a)⟩

instance : Pure RecordDecoder := ⟨pure⟩

instance : Seq RecordDecoder := ⟨fun f x => ap f (x ())⟩

instance : Functor RecordDecoder where
  map f x := ap (pure f) x

/-- A field that has to be there. -/
def field (name : String) (f : Decoder α) : RecordDecoder α :=
  ⟨[⟨name, false, fun origin d => (f origin d).map fun _ => ()⟩], fun origin find =>
    match find name with
    | some d => f origin d
    | none => .error (.missing name)⟩

/-- A field that may be missing. -/
def fieldOr (name : String) (f : Decoder α) (default : α) : RecordDecoder α :=
  ⟨[⟨name, true, fun origin d => (f origin d).map fun _ => ()⟩], fun origin find =>
    match find name with
    | some d => f origin d
    | none => .ok default⟩

/-- A field that may be missing or null. -/
def option (name : String) (f : Decoder α) : RecordDecoder (Option α) :=
  fieldOr name (Decoder.optional f) none

/-- Examines fields in the order of the text; `seen` holds the known names met so far. Fields of
other names are passed over. -/
def examine (rules : List FieldRule) (origin : Origin) (seen : List String) :
    List (String × Document) → Except Misfit Unit
  | [] => .ok ()
  | (name, d) :: more =>
    match rules.find? (·.name == name) with
    | some rule =>
      if seen.contains name then .error (.repeated name)
      else
        match rule.check origin d.reading with
        | .error m => .error m
        | .ok () => examine rules origin (name :: seen) more
    | none =>
      match d.passing with
      | some fault => .error (.malformed fault)
      | none => examine rules origin seen more

/-- Examines a list of values against the fields in their order; `taken` values are behind. -/
def examineItems (expected : String) (origin : Origin) :
    (taken : Nat) → List FieldRule → List Document → Except Misfit Unit
  | _, [], _ => .ok ()
  | taken, rule :: rules, d :: ds =>
    match rule.check origin d with
    | .error m => .error m
    | .ok () => examineItems expected origin (taken + 1) rules ds
  | taken, rule :: rules, [] =>
    if rule.mayMiss then examineItems expected origin (taken + 1) rules []
    else .error (.wrongLength taken expected)

/-- How many elements a list for a record has, in a message. -/
def elementCount (n : Nat) : String :=
  if n = 1 then "1 element" else toString n ++ " elements"

/-- The mistake after the last of the values that a list may hold for a record; `exact` says that all
of them stand there. -/
def faultAfterLast (exact : Bool) (fault : TextFault) : TextFault :=
  if exact ∧ (fault = .commaOrBracketExpected ∨ fault = .endInValue) then .textAfterEnd else fault

/-- The decoder of a record under the name of its type. -/
def decode (r : RecordDecoder α) (name : String) : Decoder α := fun origin d =>
  match d with
  | .record fs end? =>
    match examine r.rules origin [] fs, end? with
    | .error m, _ => .error m
    | .ok (), some fault => .error (.malformed fault)
    | .ok (), none => r.make origin fun name => (fs.find? (·.1 == name)).map (·.2.reading)
  | .list ds end? =>
    let names := r.rules.map (·.name)
    let what := name ++ " with " ++ elementCount names.length
    let given := if end?.isSome then ds.length else 0
    match examineItems what origin 0 r.rules ds, end? with
    | .error m, some fault =>
      -- the end of the list was never reached
      if given < names.length then
        match m with
        | .wrongLength .. => .error (.malformed fault)
        | m => .error m
      else .error m
    | .error m, none => .error m
    | .ok (), some fault =>
      if names.length < ds.length then .error (.malformed .textAfterEnd)
      else .error (.malformed (faultAfterLast (ds.length = names.length) fault))
    | .ok (), none =>
      if names.length < ds.length then
        match origin with
        | .text => .error (.malformed .textAfterEnd)
        | _ => .error (.wrongLength ds.length "fewer elements in array")
      else
        let pairs := names.zip ds
        r.make origin fun name => (pairs.find? (·.1 == name)).map (·.2)
  | d => Decoder.expected name d

end RecordDecoder

/-- The value of a text read as data of a type, or why it does not fit. -/
def Decoder.run {α : Type} (f : Decoder α) (origin : Origin) (document : Document)
    (atEnd : Option TextFault) : Except Misfit α :=
  match f origin document, atEnd with
  | .error m, _ => .error m
  | .ok _, some fault => .error (.malformed fault)
  | .ok a, none => .ok a

/-- A value read as data of a type. -/
def Decoder.ofValue {α : Type} (f : Decoder α) (v : Value) : Except Misfit α :=
  f .value (Document.ofValue v)

end Dialogue

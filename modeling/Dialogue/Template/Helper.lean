import Dialogue.Value.Path
import Dialogue.Template.Syntax

/-!
# Helpers

What values mean to helpers: which of them count as true, how they are shown, how they compare, and
the helpers that compute a value from their arguments.
-/

namespace Dialogue.Template

/-- A value that counts as true. Zero counts only where asked for; numbers too small for a full
mantissa count as zero. -/
def isTruthy (includeZero : Bool) : Value → Bool
  | .null => false
  | .bool b => b
  | .int i => includeZero || i != 0
  | .real x => includeZero || x.isNormal
  | .text s => s != ""
  | .list items => !items.isEmpty
  | .record fields => !fields.isEmpty

mutual

/-- How a value is shown: lists by their items, records not at all. -/
def shown : Value → List Char
  | .text s => s.toList
  | .null => []
  | .list items => '[' :: (shownItems items ++ [']'])
  | .record _ => "[object]".toList
  | other => other.atom

/-- How items are shown. -/
def shownItems : List Value → List Char
  | [] => []
  | [item] => shown item
  | item :: more => shown item ++ ',' :: ' ' :: shownItems more

end

/-- The order of an integer and a floating-point number, compared exactly. -/
def compareIntReal (i : Int) : Binary64 → Option Ordering
  | .nan => none
  | .infinite negative => some (if negative then .gt else .lt)
  | .finite negative m e =>
    let (num, den) := Binary64.quotient m e
    let num : Int := if negative then -num else num
    some (compare (i * den) num)

/-- The order of two values: numbers, texts and truth values among themselves, and a number with a
text that writes one. -/
def compareValues : Value → Value → Option Ordering
  | .int a, .int b => some (compare a b)
  | .int a, .real b => compareIntReal a b
  | .real a, .int b => (compareIntReal b a).map Ordering.swap
  | .real a, .real b => a.compare? b
  | .text a, .text b => some (compare a b)
  | .bool a, .bool b => some (compare a b)
  | .int a, .text b => (Binary64.read? b.toList).bind ((Binary64.ofInt a).compare? ·)
  | .real a, .text b => (Binary64.read? b.toList).bind (a.compare? ·)
  | .text a, .int b =>
    ((Binary64.read? a.toList).bind ((Binary64.ofInt b).compare? ·)).map Ordering.swap
  | .text a, .real b => ((Binary64.read? a.toList).bind (b.compare? ·)).map Ordering.swap
  | _, _ => none

/-- The part of a list or record that another value points at. -/
def lookupIn (collection index : Value) : Value :=
  match collection, index with
  | .list items, .int i => if 0 ≤ i then items[i.toNat]?.getD .null else .null
  | .record fields, .text name => (Fields.get? fields name).getD .null
  | _, _ => .null

/-- The size of a list, a record or a text; a text counts bytes. -/
def sizeOfValue : Value → Nat
  | .list items => items.length
  | .record fields => fields.length
  | .text s => s.utf8ByteSize
  | _ => 0

/-- The helpers that compute a value. -/
inductive ValueHelper where
  | lookup | eq | ne | gt | gte | lt | lte | and | or | not | len
  deriving DecidableEq, Repr

/-- The helpers that show something. -/
inductive ShowingHelper where
  | ifTrue | unlessTrue | each | with | raw | log | default
  deriving DecidableEq, Repr

/-- A helper of either kind. -/
inductive Helper where
  | computing (h : ValueHelper)
  | showing (h : ShowingHelper)
  deriving DecidableEq, Repr

namespace Helper

/-- The helper of a name. -/
def ofName? : String → Option Helper
  | "if" => some (.showing .ifTrue)
  | "unless" => some (.showing .unlessTrue)
  | "each" => some (.showing .each)
  | "with" => some (.showing .with)
  | "raw" => some (.showing .raw)
  | "log" => some (.showing .log)
  | "default" => some (.showing .default)
  | "lookup" => some (.computing .lookup)
  | "eq" => some (.computing .eq)
  | "ne" => some (.computing .ne)
  | "gt" => some (.computing .gt)
  | "gte" => some (.computing .gte)
  | "lt" => some (.computing .lt)
  | "lte" => some (.computing .lte)
  | "and" => some (.computing .and)
  | "or" => some (.computing .or)
  | "not" => some (.computing .not)
  | "len" => some (.computing .len)
  | _ => none

end Helper

namespace ValueHelper

/-- The value that a helper computes; nothing where it lacks an argument. -/
def compute (h : ValueHelper) (arguments : List Value) : Option Value :=
  match h, arguments with
  | lookup, a :: b :: _ => some (lookupIn a b)
  | eq, a :: b :: _ => some (.bool (a.same b))
  | ne, a :: b :: _ => some (.bool (!a.same b))
  | gt, a :: b :: _ => some (.bool (compareValues a b == some .gt))
  | gte, a :: b :: _ => some (.bool ((compareValues a b).any (· != .lt)))
  | lt, a :: b :: _ => some (.bool (compareValues a b == some .lt))
  | lte, a :: b :: _ => some (.bool ((compareValues a b).any (· != .gt)))
  | and, a :: b :: _ => some (.bool (isTruthy false a && isTruthy false b))
  | or, a :: b :: _ => some (.bool (isTruthy false a || isTruthy false b))
  | not, a :: _ => some (.bool (!isTruthy false a))
  | len, a :: _ => some (.int (sizeOfValue a))
  | _, _ => none

end ValueHelper

/-- The levels that a remark to the log may have. -/
def logLevels : List String := ["error", "warn", "info", "debug", "trace"]

/-- The text that `default` shows: the first argument when it is set, or else the second. -/
def defaultText (arguments : List Value) : List Char :=
  let first := arguments[0]?.getD .null
  let chosen := if first.isPresent then first else arguments[1]?.getD .null
  chosen.display.toList

end Dialogue.Template

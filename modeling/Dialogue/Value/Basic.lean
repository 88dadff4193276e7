import Dialogue.Fields
import Dialogue.Number.Decimal

/-!
# Values

The values that conversations carry: variables, answers, bodies of calls. A record keeps its fields
in ascending order of names, except where a document is laid out for writing.

* `Value.isPresent_text`, `Value.isPresent_null`: what counts as set.
-/

namespace Dialogue

/-- A value: nothing, a truth value, a whole number, a floating-point number, a text, a list or a
record of named values. -/
inductive Value where
  | null
  | bool (b : Bool)
  | int (i : Int)
  | real (x : Binary64)
  | text (s : String)
  | list (items : List Value)
  | record (fields : List (String × Value))
  deriving Repr, Inhabited

namespace Value

mutual

/-- Equality of values is decidable. -/
def decEq : (a b : Value) → Decidable (a = b)
  | null, null => isTrue rfl
  | bool a, bool b => if h : a = b then isTrue (h ▸ rfl) else isFalse (by simpa using h)
  | int a, int b => if h : a = b then isTrue (h ▸ rfl) else isFalse (by simpa using h)
  | real a, real b => if h : a = b then isTrue (h ▸ rfl) else isFalse (by simpa using h)
  | text a, text b => if h : a = b then isTrue (h ▸ rfl) else isFalse (by simpa using h)
  | list a, list b =>
    match decEqItems a b with
    | isTrue h => isTrue (h ▸ rfl)
    | isFalse h => isFalse (by simpa using h)
  | record a, record b =>
    match decEqFields a b with
    | isTrue h => isTrue (h ▸ rfl)
    | isFalse h => isFalse (by simpa using h)
  | null, bool _ | null, int _ | null, real _ | null, text _ | null, list _ | null, record _
  | bool _, null | bool _, int _ | bool _, real _ | bool _, text _ | bool _, list _
  | bool _, record _
  | int _, null | int _, bool _ | int _, real _ | int _, text _ | int _, list _ | int _, record _
  | real _, null | real _, bool _ | real _, int _ | real _, text _ | real _, list _
  | real _, record _
  | text _, null | text _, bool _ | text _, int _ | text _, real _ | text _, list _
  | text _, record _
  | list _, null | list _, bool _ | list _, int _ | list _, real _ | list _, text _
  | list _, record _
  | record _, null | record _, bool _ | record _, int _ | record _, real _ | record _, text _
  | record _, list _ => isFalse (by simp)

/-- Equality of lists of values is decidable. -/
def decEqItems : (a b : List Value) → Decidable (a = b)
  | [], [] => isTrue rfl
  | [], _ :: _ | _ :: _, [] => isFalse (by simp)
  | a :: as, b :: bs =>
    match decEq a b, decEqItems as bs with
    | isTrue h, isTrue hs => isTrue (by rw [h, hs])
    | isFalse h, _ => isFalse (by simp [h])
    | _, isFalse h => isFalse (by simp [h])

/-- Equality of lists of fields is decidable. -/
def decEqFields : (a b : List (String × Value)) → Decidable (a = b)
  | [], [] => isTrue rfl
  | [], _ :: _ | _ :: _, [] => isFalse (by simp)
  | (k, a) :: as, (l, b) :: bs =>
    if hk : k = l then
      match decEq a b, decEqFields as bs with
      | isTrue h, isTrue hs => isTrue (by rw [hk, h, hs])
      | isFalse h, _ => isFalse (by simp [h])
      | _, isFalse h => isFalse (by simp [h])
    else isFalse (by simp [hk])

end

instance : DecidableEq Value := decEq

mutual

/-- Sameness of values: the two zeros are one number, a whole number and a floating-point number
are never the same. -/
def same : Value → Value → Bool
  | null, null => true
  | bool a, bool b => a == b
  | int a, int b => a == b
  | real a, real b => a.sameValue b
  | text a, text b => a == b
  | list a, list b => sameItems a b
  | record a, record b => sameFields a b
  | _, _ => false

/-- Sameness of lists of values. -/
def sameItems : List Value → List Value → Bool
  | [], [] => true
  | a :: as, b :: bs => same a b && sameItems as bs
  | _, _ => false

/-- Sameness of lists of fields. -/
def sameFields : List (String × Value) → List (String × Value) → Bool
  | [], [] => true
  | (k, a) :: as, (l, b) :: bs => k == l && same a b && sameFields as bs
  | _, _ => false

end

/-- A value counts as set when it is neither null nor an empty text. -/
def isPresent : Value → Bool
  | null => false
  | text s => s != ""
  | _ => true

@[simp] theorem isPresent_null : isPresent null = false := rfl

@[simp] theorem isPresent_text (s : String) : isPresent (text s) = (s != "") := rfl

/-- The value of a record under a name. -/
def field? : Value → String → Option Value
  | record fields, name => Fields.get? fields name
  | _, _ => none

/-- The text in a text value. -/
def text? : Value → Option String
  | text s => some s
  | _ => none

/-- The truth value in a value. -/
def bool? : Value → Option Bool
  | bool b => some b
  | _ => none

/-- The items of a list. -/
def items? : Value → Option (List Value)
  | list items => some items
  | _ => none

/-- A number as a floating-point number. -/
def number? : Value → Option Binary64
  | int i => some (Binary64.ofInt i)
  | real x => some x
  | _ => none

/-- A natural number of 64 bits. -/
def natural? : Value → Option Nat
  | int i => if 0 ≤ i then some i.toNat else none
  | _ => none

/-- The record with one field. -/
def single (name : String) (value : Value) : Value := record [(name, value)]

/-- A finite number as a value, nothing for the others. -/
def ofNumber (x : Binary64) : Value := if x.isFinite then real x else null

end Value

end Dialogue

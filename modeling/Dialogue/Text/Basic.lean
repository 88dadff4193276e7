/-!
# Runs of characters

The text operations of the library on lists of characters: cutting at a mark, replacing, splitting
and trimming. All of them recurse on the text.

* `cut?_eq_some`: the two sides of a cut, with the mark between them, are the text.
* `trim_nil`: nothing comes of nothing.
-/

namespace Dialogue.Text

/-- White space: the characters with the Unicode property of that name. -/
def isBlank (c : Char) : Bool :=
  let n := c.toNat
  (9 ≤ n && n ≤ 13) || n == 32 || n == 133 || n == 160 || n == 5760 || (8192 ≤ n && n ≤ 8202)
    || n == 8232 || n == 8233 || n == 8239 || n == 8287 || n == 12288

/-- The text after `mark`, when it begins with it. -/
def after? : (mark text : List Char) → Option (List Char)
  | [], text => some text
  | _ :: _, [] => none
  | m :: mark, c :: text => if m = c then after? mark text else none

@[simp] theorem after?_nil (text : List Char) : after? [] text = some text := by
  cases text <;> rfl

/-- A text begins with the mark exactly when the mark and what follows it make up the text. -/
theorem after?_eq_some {mark text rest : List Char} :
    after? mark text = some rest ↔ text = mark ++ rest := by
  induction mark generalizing text with
  | nil => simp [eq_comm]
  | cons m mark ih =>
    cases text with
    | nil => simp [after?]
    | cons c text =>
      by_cases h : m = c
      · simp [after?, h, ih]
      · simp [after?, h, Ne.symm h]

/-- Whether the text begins with the mark. -/
def begins (mark text : List Char) : Bool := (after? mark text).isSome

/-- Whether the text ends with the mark. -/
def ends (mark text : List Char) : Bool := begins mark.reverse text.reverse

/-- What stands before and after the first occurrence of `mark`. -/
def cut? (mark : List Char) : List Char → Option (List Char × List Char)
  | [] => if mark = [] then some ([], []) else none
  | c :: text =>
    match after? mark (c :: text) with
    | some rest => some ([], rest)
    | none => (cut? mark text).map fun (before, rest) => (c :: before, rest)

/-- The two sides of a cut, with the mark between them, are the text. -/
theorem cut?_eq_some {mark text before rest : List Char}
    (h : cut? mark text = some (before, rest)) : text = before ++ mark ++ rest := by
  induction text generalizing before with
  | nil =>
    by_cases hm : mark = []
    · simp [cut?, hm] at h; simp [hm, h]
    · simp [cut?, hm] at h
  | cons c text ih =>
    unfold cut? at h
    split at h
    · rename_i r hr
      simp only [Option.some.injEq, Prod.mk.injEq] at h
      obtain ⟨rfl, rfl⟩ := h
      simpa using after?_eq_some.1 hr
    · obtain ⟨⟨b, r⟩, hb, hc⟩ := Option.map_eq_some_iff.1 h
      simp only [Prod.mk.injEq] at hc
      obtain ⟨rfl, rfl⟩ := hc
      simp [ih hb]

/-- Whether the mark occurs in the text. -/
def occurs (mark text : List Char) : Bool := (cut? mark text).isSome

/-- Replaces every occurrence of a mark, from left to right; `skip` characters of an occurrence
already replaced are passed over. -/
def replaceFrom (mark new : List Char) : Nat → List Char → List Char
  | _, [] => []
  | skip + 1, _ :: text => replaceFrom mark new skip text
  | 0, c :: text =>
    if begins mark (c :: text) then new ++ replaceFrom mark new (mark.length - 1) text
    else c :: replaceFrom mark new 0 text

/-- Replaces every occurrence of a non-empty mark, from left to right. -/
def replaceAll (mark new text : List Char) : List Char := replaceFrom mark new 0 text

/-- The pieces between the characters that satisfy `p`; there is always one piece. -/
def pieces (p : Char → Bool) : List Char → List (List Char)
  | [] => [[]]
  | c :: text =>
    if p c then [] :: pieces p text
    else match pieces p text with
      | [] => [[c]]
      | piece :: more => (c :: piece) :: more

/-- The non-empty pieces between the characters that satisfy `p`. -/
def words (p : Char → Bool) (text : List Char) : List (List Char) :=
  (pieces p text).filter (· ≠ [])

/-- Drops from the end while `p` holds. -/
def dropEndWhile (p : Char → Bool) (text : List Char) : List Char :=
  (text.reverse.dropWhile p).reverse

/-- Drops white space at the front. -/
def trimFront (text : List Char) : List Char := text.dropWhile isBlank

/-- Drops white space at the end. -/
def trimBack (text : List Char) : List Char := dropEndWhile isBlank text

/-- Drops white space at both ends. -/
def trim (text : List Char) : List Char := trimBack (trimFront text)

@[simp] theorem trim_nil : trim [] = [] := rfl

/-- A text without white space at its ends is its own trimmed form when it is empty or blank-free
there; in particular trimming white space only leaves nothing. -/
theorem trim_eq_nil_of_all {text : List Char} (h : ∀ c ∈ text, isBlank c = true) :
    trim text = [] := by
  have : trimFront text = [] := by
    unfold trimFront
    induction text with
    | nil => rfl
    | cons c r ih => simp_all [List.dropWhile]
  simp [trim, this, trimBack, dropEndWhile]

/-- The lines of a text: pieces ended by a line feed, a carriage return before it dropped, and what
follows the last one unless it is empty. -/
def lines (text : List Char) : List (List Char) :=
  let parts := pieces (· == '\n') text
  let ended := parts.dropLast.map fun line =>
    if line.getLast? = some '\r' then line.dropLast else line
  ended ++ parts.getLast?.toList.filter (· ≠ [])

/-- Joins pieces with a separator between them. -/
def join (separator : List Char) : List (List Char) → List Char
  | [] => []
  | [piece] => piece
  | piece :: more => piece ++ separator ++ join separator more

/-- A decimal digit of the ASCII range. -/
def isDigit (c : Char) : Bool := '0' ≤ c && c ≤ '9'

/-- A hexadecimal digit of the ASCII range. -/
def hexValue? (c : Char) : Option Nat :=
  if '0' ≤ c && c ≤ '9' then some (c.toNat - '0'.toNat)
  else if 'a' ≤ c && c ≤ 'f' then some (c.toNat - 'a'.toNat + 10)
  else if 'A' ≤ c && c ≤ 'F' then some (c.toNat - 'A'.toNat + 10)
  else none

/-- A letter of the ASCII range. -/
def isAsciiLetter (c : Char) : Bool := ('a' ≤ c && c ≤ 'z') || ('A' ≤ c && c ≤ 'Z')

/-- A printing character of the ASCII range that is neither a letter, a digit nor the blank. -/
def isAsciiMark (c : Char) : Bool :=
  '!' ≤ c && c ≤ '~' && !isDigit c && !isAsciiLetter c

/-- A digit of base sixteen in lower case. -/
def hexDigit (n : Nat) : Char :=
  if n < 10 then Char.ofNat ('0'.toNat + n) else Char.ofNat ('a'.toNat + (n - 10))

/-- The bytes of a text in UTF-8. -/
def utf8 (text : List Char) : List UInt8 := text.flatMap String.utf8EncodeChar

/-- The length in bytes of a text in UTF-8. -/
def utf8Length (text : List Char) : Nat := text.foldl (fun n c => n + c.utf8Size) 0

end Dialogue.Text

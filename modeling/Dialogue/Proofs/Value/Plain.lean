import Dialogue.Proofs.Document.Printed
import Dialogue.Template.Helper

/-!
# Values that are shown without braces

What a value contributes to a message has braces only from a text or from a record. A value that is
read from a word without quotation marks, brackets or braces is therefore shown without them.

* `Value.isPlain`: values that are shown alike in messages and in templates, without braces.
* `Value.any_display_of_isAtom`: numbers, truth values and null are shown without braces.
* `Json.isAtom_of_parse`: what such a word denotes.
-/

namespace Dialogue

open Text

/-- Whether a character is a brace. -/
def isBrace (c : Char) : Bool := c == '\x7b' || c == '\x7d'

namespace Value

/-- Null, a truth value, a whole number or a text without braces. -/
def isPlain : Value → Bool
  | null | bool _ | int _ => true
  | text s => !s.toList.any isBrace
  | _ => false

/-- A value that is no text and has no parts. -/
def isAtom : Value → Bool
  | null | bool _ | int _ | real _ => true
  | _ => false

end Value

/-! ### Numbers as they are written -/

theorem isBrace_of_isDigit {c : Char} (h : isDigit c = true) : isBrace c = false := by
  cases hb : isBrace c with
  | false => rfl
  | true =>
    simp only [isBrace, Bool.or_eq_true, beq_iff_eq] at hb
    rcases hb with rfl | rfl <;> cases h

theorem any_digitsOf (n : Nat) : (digitsOf n).any isBrace = false :=
  List.any_eq_false.2 fun _ hc => by simp [isBrace_of_isDigit (Json.isDigit_of_mem_digitsOf hc)]

theorem any_of_mem_digitsOf {n : Nat} {cs : List Char} (h : ∀ c ∈ cs, c ∈ digitsOf n) :
    cs.any isBrace = false :=
  List.any_eq_false.2 fun _ hc => by
    simp [isBrace_of_isDigit (Json.isDigit_of_mem_digitsOf (h _ hc))]

namespace DecimalLayout

variable (l : DecimalLayout)

/-- A number is written without braces when its suffixes are. -/
theorem any_write (hs : l.wholeSuffix.toList.any isBrace = false)
    (hp : l.exponentPlus.toList.any isBrace = false) (negative : Bool) (digits : Nat)
    (exponent : Int) : (l.write negative digits exponent).toList.any isBrace = false := by
  have hzeros : ∀ n, (List.replicate n '0').any isBrace = false := fun n =>
    List.any_eq_false.2 fun c hc => by simp [List.eq_of_mem_replicate hc, isBrace]
  have htake : ∀ n, ((digitsOf digits).take n).any isBrace = false := fun n =>
    any_of_mem_digitsOf fun _ hc => List.mem_of_mem_take hc
  have hdrop : ∀ n, ((digitsOf digits).drop n).any isBrace = false := fun n =>
    any_of_mem_digitsOf fun _ hc => List.mem_of_mem_drop hc
  have hsign : (if negative then "-" else "").toList.any isBrace = false := by
    cases negative <;> decide
  have hplus : ∀ e : Int, (if e < 0 then "-" else l.exponentPlus).toList.any isBrace = false := by
    intro e
    split
    · decide
    · exact hp
  unfold write
  simp only [String.toList_append, List.any_append, hsign, Bool.false_or]
  split
  · simp [hs, isBrace]
  split
  · split
    · simp [String.toList_append, hs, hzeros, any_digitsOf]
    · simp [htake, hdrop, isBrace]
  split
  · simp [String.toList_append, hzeros, any_digitsOf, isBrace]
  · simp only [String.toList_append, String.toList_ofList, List.any_append, any_digitsOf,
      hplus, Bool.or_false]
    rw [show "e".toList.any isBrace = false by decide, Bool.or_false]
    have h := any_digitsOf digits
    -- the point of the mantissa stands behind its first digit
    cases hd : digitsOf digits with
    | nil => rfl
    | cons d rest =>
      rw [hd, List.any_cons, Bool.or_eq_false_iff] at h
      cases rest with
      | nil => simp [h.1]
      | cons e rest => simp only [List.any_cons, h.1, h.2]; decide

end DecimalLayout

namespace Value

variable {v : Value}

theorem any_atom (v : Value) : v.atom.any isBrace = false := by
  cases v with
  | null => decide
  | bool b => cases b <;> decide
  | int i =>
    rw [atom, List.any_append, any_digitsOf]
    split <;> simp [isBrace]
  | real x =>
    rw [atom]
    split
    · cases x with
      | nan => decide
      | infinite s => cases s <;> decide
      | finite s m e => exact Binary64.documentLayout.any_write (by decide) (by decide) _ _ _
    · decide
  | text s => rfl
  | list items => rfl
  | record fields => rfl

/-- Numbers, truth values and null are shown without braces. -/
theorem any_display_of_isAtom (h : v.isAtom = true) : v.display.toList.any isBrace = false := by
  have hcompact : ∀ w : Value, w.compact.toList = w.compactChars := fun w => String.toList_ofList
  cases v with
  | null => rfl
  | bool b => exact hcompact (bool b) ▸ any_atom (bool b)
  | int i => exact hcompact (int i) ▸ any_atom (int i)
  | real x => exact hcompact (real x) ▸ any_atom (real x)
  | text | list | record => cases h

theorem any_display_of_isPlain (h : v.isPlain = true) : v.display.toList.any isBrace = false := by
  cases v with
  | null => rfl
  | bool b => exact any_display_of_isAtom rfl
  | int i => exact any_display_of_isAtom rfl
  | text s => simpa [isPlain, display] using h
  | real | list | record => cases h

/-- A plain value is shown in a template as it is in a message. -/
theorem shown_of_isPlain (h : v.isPlain = true) : Template.shown v = v.display.toList := by
  have hcompact : ∀ w : Value, w.compact.toList = w.compactChars := fun w => String.toList_ofList
  cases v with
  | null => rfl
  | bool b => exact (hcompact (bool b)).symm
  | int i => exact (hcompact (int i)).symm
  | text s => rfl
  | real | list | record => cases h

/-- A plain value shows something exactly when it is set. -/
theorem isPresent_iff_of_isPlain (h : v.isPlain = true) :
    v.isPresent = true ↔ v.display.toList ≠ [] := by
  cases v with
  | null => simp [isPresent, display]
  | bool b => cases b <;> decide
  | int i =>
    have hne : (int i).display.toList ≠ [] := by
      show (String.ofList (atom (int i))).toList ≠ []
      rw [String.toList_ofList, atom]
      exact fun he => Json.digitsOf_ne_nil _ (List.append_eq_nil_iff.1 he).2
    exact ⟨fun _ => hne, fun _ => rfl⟩
  | text s => simp [display]
  | real | list | record => cases h

end Value

namespace Json

/-- A document that is no text and has no parts. -/
def isAtom : Document → Bool
  | .null | .bool _ | .int _ | .real _ | .broken _ => true
  | _ => false

variable {d : Document} {v : Value}

theorem isAtom_of_toValue (hd : isAtom d = true) (h : d.toValue = .ok v) : v.isAtom = true := by
  cases d with
  | null | bool | int | real => cases h; rfl
  | broken => cases h
  | text | plain | list | record | stopped => cases hd

theorem isAtom_readRest {positive : Bool} {n : Nat} {cs rest : List Char}
    (h : readRest positive n cs = .ok (d, rest)) : isAtom d = true := by
  unfold readRest at h
  split at h
  · obtain ⟨_, -, he⟩ := of_map_ok h
    cases he
    rfl
  · obtain ⟨_, -, he⟩ := of_map_ok h
    cases he
    rfl
  · obtain ⟨_, -, he⟩ := of_map_ok h
    cases he
    rfl
  · split at h
    · cases h; rfl
    · split at h <;> cases h <;> rfl

theorem isAtom_readNumber {positive : Bool} {cs rest : List Char}
    (h : readNumber positive cs = .ok (d, rest)) : isAtom d = true := by
  have hreal : ∀ {e : Except TextFault (Binary64 × List Char)},
      (e.map fun r => (Document.real r.1, r.2)) = .ok (d, rest) → isAtom d = true := by
    intro e he
    obtain ⟨_, -, he⟩ := of_map_ok he
    cases he
    rfl
  unfold readNumber at h
  split at h
  · cases h
  split at h
  · split at h
    · split at h
      · cases h
      · exact isAtom_readRest h
    · exact isAtom_readRest h
  split at h
  · dsimp only at h
    split at h
    · split at h
      · split at h
        · exact hreal h
        · exact hreal h
      · exact isAtom_readRest h
    · exact isAtom_readRest h
  · cases h

theorem isAtom_ofStep {step : Except TextFault (Document × List Char)}
    (h : ∀ {d rest}, step = .ok (d, rest) → isAtom d = true) : isAtom (ofStep step).1 = true := by
  cases step with
  | error fault => rfl
  | ok r => exact h rfl

theorem isAtom_readKeyword (word : List Char) (hd : isAtom d = true) (cs : List Char) :
    isAtom (readKeyword word d cs).1 = true := by
  unfold readKeyword
  split
  · exact hd
  · rfl

/-- A text that begins as a number or as a word is read as something without parts. -/
theorem isAtom_readPart {c : Char} (hc : isDigit c = true ∨ c = '-' ∨ c = 't' ∨ c = 'f' ∨ c = 'n')
    (cs : List Char) : isAtom (readPart (c :: cs)).1 = true := by
  rcases hc with hc | rfl | rfl | rfl | rfl
  · rw [readPart, readValue_digit hc]
    exact isAtom_ofStep isAtom_readNumber
  · show isAtom (ofStep (readNumber false cs)).1 = true
    exact isAtom_ofStep isAtom_readNumber
  · exact isAtom_readKeyword _ rfl cs
  · exact isAtom_readKeyword _ rfl cs
  · exact isAtom_readKeyword _ rfl cs

/-- Such a text denotes a number, a truth value or null. -/
theorem isAtom_of_parse {c : Char} {cs : List Char}
    (hc : isDigit c = true ∨ c = '-' ∨ c = 't' ∨ c = 'f' ∨ c = 'n')
    (h : parse (String.ofList (c :: cs)) = .ok v) : v.isAtom = true := by
  have hatom := isAtom_readPart hc cs
  rw [parse, Json.read, String.toList_ofList] at h
  generalize readPart (c :: cs) = found at h hatom
  obtain ⟨d, rest⟩ := found
  cases rest with
  | none =>
    obtain ⟨w, hw, he⟩ := of_bind_ok h
    cases he
    exact isAtom_of_toValue hatom hw
  | some rest =>
    obtain ⟨w, hw, he⟩ := of_bind_ok h
    split at he
    · cases he
    · cases he
      exact isAtom_of_toValue hatom hw

end Json

end Dialogue

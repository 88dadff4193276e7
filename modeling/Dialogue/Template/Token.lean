import Dialogue.Text.Class

/-!
# Tokens in braces

A token stands between two opening braces and the next two closing ones. `tokenize` splits a text
into tokens and what stands between them.

* `tokenize_nil`: an empty text has no pieces.
* `collapse_no_pair`: a collapsed text has no two opening braces in a row.
-/

namespace Dialogue.Template

open Text

/-- A piece of a text: a character outside of tokens, or what a token holds. -/
inductive Piece where
  | char (c : Char)
  | token (inner : List Char)
  deriving DecidableEq, Repr

/-- Two opening braces. -/
def openMark : List Char := ['\x7b', '\x7b']

/-- Two closing braces. -/
def closeMark : List Char := ['\x7d', '\x7d']

/-- Whether there are two opening braces in a row. -/
def hasOpenMark (cs : List Char) : Bool := occurs openMark cs

/-- Splits a text; the first `skip` characters belong to a token already read. -/
def tokenizeFrom : (skip : Nat) → List Char → List Piece
  | _, [] => []
  | skip + 1, _ :: cs => tokenizeFrom skip cs
  | 0, c :: cs =>
    match after? openMark (c :: cs) with
    | none => .char c :: tokenizeFrom 0 cs
    | some rest =>
      match cut? closeMark rest with
      | none => .char c :: tokenizeFrom 0 cs
      | some (inner, _) => .token inner :: tokenizeFrom (inner.length + 3) cs

/-- The tokens of a text and the characters between them. -/
def tokenize (cs : List Char) : List Piece := tokenizeFrom 0 cs

@[simp] theorem tokenize_nil : tokenize [] = [] := rfl

/-- Replaces every token. -/
def mapTokens (f : List Char → List Char) (cs : List Char) : List Char :=
  (tokenize cs).flatMap fun
    | .char c => [c]
    | .token inner => f inner

/-- Replaces every run of opening braces by a single one. -/
def collapse : List Char → List Char
  | [] => []
  | [c] => [c]
  | c :: d :: cs =>
    if c = '\x7b' ∧ d = '\x7b' then collapse (d :: cs) else c :: collapse (d :: cs)

/-- Removes what is left of tokens in a rendered text. -/
def sanitize (cs : List Char) : List Char :=
  if hasOpenMark cs then collapse (mapTokens (fun _ => []) cs) else cs

/-- A collapsed text begins as the text does. -/
theorem collapse_cons (c : Char) (cs : List Char) : ∃ more, collapse (c :: cs) = c :: more := by
  induction cs generalizing c with
  | nil => exact ⟨[], rfl⟩
  | cons d cs ih =>
    rw [collapse]
    split
    · next h =>
      obtain ⟨more, hm⟩ := ih d
      exact ⟨more, by rw [hm, h.1, h.2]⟩
    · exact ⟨_, rfl⟩

/-- A collapsed text has no two opening braces in a row. -/
theorem collapse_no_pair (cs : List Char) : hasOpenMark (collapse cs) = false := by
  fun_induction collapse cs with
  | case1 => rfl
  | case2 c =>
    by_cases h : c = '\x7b' <;> simp [hasOpenMark, occurs, cut?, after?, openMark, h]
  | case3 c d cs h ih => exact ih
  | case4 c d cs h ih =>
    obtain ⟨more, hm⟩ := collapse_cons d cs
    rw [hm] at ih ⊢
    simp only [hasOpenMark, occurs, openMark] at ih ⊢
    have hnot : after? ['\x7b', '\x7b'] (c :: d :: more) = none := by
      by_cases hc : '\x7b' = c
      · by_cases hd : '\x7b' = d
        · exact absurd ⟨hc.symm, hd.symm⟩ h
        · simp [after?, hd]
      · simp [after?, hc]
    rw [cut?]
    simp [hnot]
    simpa using ih

end Dialogue.Template

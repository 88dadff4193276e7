import Mathlib.Data.List.Basic

/-!
# Joined texts

A pair of texts is often joined into one around a separator. Nothing keeps the separator from
occurring in the texts themselves, so that different pairs may be joined into the same text.

* `Text.joined_eq_joined_iff`: two pairs are joined into the same text exactly when they are the same
  or overlap.
-/

namespace Dialogue.Text

/-- The texts around a separator are those of another pair with the boundary moved to another
separator. -/
def Overlap (separator left right left' right' : String) : Prop :=
  ∃ middle,
    left' = left ++ separator ++ middle ∧ right = middle ++ separator ++ right' ∨
      left = left' ++ separator ++ middle ∧ right' = middle ++ separator ++ right

theorem append_cons_cases {c : Char} {left right left' right' : List Char}
    (h : left ++ c :: right = left' ++ c :: right') :
    (left = left' ∧ right = right') ∨ ∃ middle,
      left' = left ++ c :: middle ∧ right = middle ++ c :: right' ∨
        left = left' ++ c :: middle ∧ right' = middle ++ c :: right := by
  rcases List.append_eq_append_iff.1 h with ⟨gap, hl, hr⟩ | ⟨gap, hl, hr⟩
  · cases gap with
    | nil =>
      obtain ⟨-, rfl⟩ := List.cons.inj hr
      exact .inl ⟨by simpa using hl.symm, rfl⟩
    | cons x middle =>
      obtain ⟨rfl, hm⟩ := List.cons.inj hr
      exact .inr ⟨middle, .inl ⟨hl, hm⟩⟩
  · cases gap with
    | nil =>
      obtain ⟨-, rfl⟩ := List.cons.inj hr
      exact .inl ⟨by simpa using hl, rfl⟩
    | cons x middle =>
      obtain ⟨rfl, hm⟩ := List.cons.inj hr
      exact .inr ⟨middle, .inr ⟨hl, hm⟩⟩

variable {separator left right left' right' : String} {c : Char}

/-- Two pairs are joined into the same text exactly when they are the same or overlap. -/
theorem joined_eq_joined_iff (hs : separator.toList = [c]) :
    left ++ separator ++ right = left' ++ separator ++ right' ↔
      (left = left' ∧ right = right') ∨ Overlap separator left right left' right' := by
  constructor
  · intro h
    have hl : left.toList ++ c :: right.toList = left'.toList ++ c :: right'.toList := by
      simpa [hs] using congrArg String.toList h
    rcases append_cons_cases hl with ⟨ht, hc⟩ | ⟨middle, hm⟩
    · exact .inl ⟨String.toList_inj.1 ht, String.toList_inj.1 hc⟩
    · refine .inr ⟨String.ofList middle, ?_⟩
      simpa [← String.toList_inj, hs] using hm
  · rintro (⟨rfl, rfl⟩ | ⟨middle, ⟨rfl, rfl⟩ | ⟨rfl, rfl⟩⟩)
    · rfl
    · simp only [String.append_assoc]
    · simp only [String.append_assoc]

/-- Of pairs that overlap, one has the separator in its first text. -/
theorem Overlap.mem_left (hs : separator.toList = [c])
    (h : Overlap separator left right left' right') : c ∈ left.toList ∨ c ∈ left'.toList := by
  obtain ⟨middle, ⟨rfl, -⟩ | ⟨rfl, -⟩⟩ := h
  · exact .inr (by simp [hs])
  · exact .inl (by simp [hs])

theorem Overlap.ne (hs : separator.toList = [c])
    (h : Overlap separator left right left' right') : left ≠ left' := by
  rintro rfl
  obtain ⟨middle, ⟨hl, -⟩ | ⟨hl, -⟩⟩ := h
  all_goals
    have hlen := congrArg (fun s : String => s.toList.length) hl
    simp [hs] at hlen

end Dialogue.Text

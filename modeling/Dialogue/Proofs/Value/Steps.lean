import Dialogue.Proofs.Text.Margins
import Dialogue.Value.Path

/-!
# Names as paths

The marks of a path are its dots and brackets. What stands between two of them is read as one name,
so that a text without any marks is a path of a single step.

* `Path.scan_name`, `Path.scan_bracket`: characters that are no marks, outside of brackets and inside.
* `Path.IsName.steps_eq`: a name is a path of one step.
* `Value.resolve_name`: a name stands for the field under it.
-/

namespace Dialogue

open Text

namespace Path

variable {cs : List Char}

theorem scan_name (h : ∀ c ∈ cs, c ≠ '.' ∧ c ≠ '[') (held rest : List Char) :
    scan false held (cs ++ rest) = scan false (cs.reverse ++ held) rest := by
  induction cs generalizing held with
  | nil => rfl
  | cons c cs ih =>
    obtain ⟨hdot, hopen⟩ := h c List.mem_cons_self
    rw [List.cons_append, scan, if_neg hdot, if_neg hopen,
      ih (fun d hd => h d (List.mem_cons_of_mem c hd)), List.reverse_cons, List.append_assoc,
      List.singleton_append]

theorem scan_bracket (h : ∀ c ∈ cs, c ≠ ']') (held rest : List Char) :
    scan true held (cs ++ ']' :: rest) =
      stepOfBracket (cs.reverse ++ held).reverse :: scan false [] rest := by
  induction cs generalizing held with
  | nil => rw [List.nil_append, scan, if_pos rfl]; rfl
  | cons c cs ih =>
    rw [List.cons_append, scan, if_neg (h c List.mem_cons_self),
      ih (fun d hd => h d (List.mem_cons_of_mem c hd)), List.reverse_cons, List.append_assoc,
      List.singleton_append]

theorem stepOfName_reverse (h : cs ≠ []) : stepOfName cs.reverse = [.key (String.ofList cs)] := by
  rw [stepOfName, if_neg (by simpa using h), List.reverse_reverse]

/-- A name by itself: some characters without the marks of a path, and no white space around them. -/
structure IsName (cs : List Char) : Prop where
  ne_nil : cs ≠ []
  trimmed : trim cs = cs
  marks : ∀ c ∈ cs, c ≠ '.' ∧ c ≠ '['

theorem IsName.firm (h : IsName cs) : Firm cs := by
  obtain ⟨-, -, -, -, -, hfirm⟩ := exists_margins cs
  rwa [h.trimmed] at hfirm

theorem IsName.head (h : IsName cs) : ∀ c ∈ cs.head?, isBlank c = false := by
  intro c hc
  rw [← h.trimmed] at hc
  exact head_trim hc

/-- A name is a path of one step. -/
theorem IsName.steps_eq (h : IsName cs) : steps cs = [.key (String.ofList cs)] := by
  have hscan := scan_name h.marks [] []
  rw [List.append_nil, List.append_nil] at hscan
  rw [steps, h.trimmed, hscan, scan, stepOfName_reverse h.ne_nil]

end Path

namespace Value

/-- A name without a fallback stands for the field under it. -/
theorem resolve_name {name : String} (h : Path.IsName name.toList)
    (hbars : splitFallback name.toList = none) (fields : Fields Value) :
    resolve (.record fields) name.toList = (record fields).field? name := by
  unfold resolve
  rw [h.trimmed]
  dsimp only
  rw [hbars]
  dsimp only
  rw [lookup, h.steps_eq, String.ofList_toList]
  show (Fields.get? fields name).bind some = Fields.get? fields name
  exact Option.bind_fun_some _

end Value

end Dialogue

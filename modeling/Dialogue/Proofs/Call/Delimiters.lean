import Dialogue.Proofs.Call.Placeholders
import Dialogue.Proofs.Url.Encoded

/-!
# The structure of an expanded path

The marks that divide an address are those of the written path outside of its tokens, in their order.
What is put in place of a token or of a parameter holds none of them, and neither does a parameter
that is left as it is written.

* `PathPart.delimiters_tokensFrom`: the tokens add no marks to those outside of them.
* `PathPart.delimiters_parametersFrom`: the parameters of a text neither add nor take away any.
* `delimiters_expandPath`: values do not change the structure of a path, and can be read back from it.
-/

namespace Dialogue

open Text

/-- Whether a character divides the parts of an address. -/
def isDelimiter (c : Char) : Bool := c == '/' || c == '?' || c == '#' || c == '&' || c == '='

/-- The characters of a text that divide the parts of an address, in their order. -/
def delimiters (text : List Char) : List Char := text.filter isDelimiter

theorem delimiters_append (text rest : List Char) :
    delimiters (text ++ rest) = delimiters text ++ delimiters rest := List.filter_append ..

theorem delimiters_eq_nil {text : List Char} (h : ∀ c ∈ text, isDelimiter c = false) :
    delimiters text = [] :=
  List.filter_eq_nil_iff.2 fun c hc => by simp [h c hc]

theorem eq_of_isDelimiter {c : Char} (h : isDelimiter c = true) :
    c = '/' ∨ c = '?' ∨ c = '#' ∨ c = '&' ∨ c = '=' := by
  simpa [isDelimiter, or_assoc] using h

/-- A segment holds no mark that divides an address. -/
theorem delimiters_segment (text : List Char) : delimiters (Percent.segment text) = [] := by
  refine delimiters_eq_nil fun c hc => ?_
  rw [← Bool.not_eq_true]
  intro hd
  rcases eq_of_isDelimiter hd with rfl | rfl | rfl | rfl | rfl <;>
    exact absurd (Percent.mem_segment hc) (by decide)

namespace PathPart

variable {written name : List Char}

/-- A parameter is written without a mark that divides an address. -/
theorem IsParameter.delimiters_eq_nil (h : IsParameter written name) : delimiters written = [] := by
  have hchar : ∀ d, isOfName d = true → isDelimiter d = false := by
    intro d hd
    rw [← Bool.not_eq_true]
    intro hm
    rcases eq_of_isDelimiter hm with rfl | rfl | rfl | rfl | rfl <;> exact absurd hd (by decide)
  refine Dialogue.delimiters_eq_nil ?_
  cases h with
  | marked chars => exact List.forall_mem_cons.2 ⟨by decide, fun d hd => hchar d (chars d hd)⟩
  | braced chars =>
    refine List.forall_mem_cons.2 ⟨by decide, List.forall_mem_append.2 ⟨?_, ?_⟩⟩
    · exact fun d hd => hchar d (chars d hd)
    · exact List.forall_mem_singleton.2 (by decide)

variable (params : Fields String) (scope : Value)

theorem delimiters_expand_token (inner : List Char) :
    delimiters (expand params scope (token inner)) = [] := by
  obtain ⟨text, he⟩ := exists_expand_token params scope inner
  rw [he, delimiters_segment]

theorem delimiters_expand_parameter (h : IsParameter written name) :
    delimiters (expand params scope (parameter written name)) = [] := by
  rcases expand_parameter_cases params scope written name with ⟨text, he⟩ | he
  · rw [he, delimiters_segment]
  · rw [he, h.delimiters_eq_nil]

/-- A path without its tokens. -/
def withoutTokens (path : List Char) : List Char :=
  (tokensFrom 0 path).flatMap fun
    | literal c => [c]
    | _ => []

/-- The tokens of a path add no marks to those outside of them. -/
theorem delimiters_tokensFrom (path : List Char) :
    delimiters (PathPart.written params scope (tokensFrom 0 path)) =
      delimiters (withoutTokens path) := by
  unfold PathPart.written withoutTokens
  fun_induction tokensFrom 0 path with
  | case1 => rfl
  | case2 skip c cs ih => exact ih
  | case3 c cs inner ht ih =>
    rw [List.flatMap_cons, List.flatMap_cons, delimiters_append, delimiters_expand_token, ih]
    rfl
  | case4 c cs ht ih =>
    rw [List.flatMap_cons, List.flatMap_cons, delimiters_append, delimiters_append, ih]
    rfl

/-- The parameters of a text neither add marks to it nor take any away. -/
theorem delimiters_parametersFrom (skip : Nat) (text : List Char) :
    delimiters (PathPart.written params scope (parametersFrom skip text)) =
      delimiters (text.drop skip) := by
  unfold PathPart.written
  fun_induction parametersFrom skip text with
  | case1 => rw [List.drop_nil, List.flatMap_nil]
  | case2 skip c cs ih => rw [ih, List.drop_succ_cons]
  | case3 c cs written name hp ih =>
    have hparameter := (exists_of_parameter? hp).1
    rw [List.flatMap_cons, delimiters_append, delimiters_expand_parameter params scope hparameter, ih,
      List.drop_zero, ← append_drop_of_parameter? hp, delimiters_append, hparameter.delimiters_eq_nil]
  | case4 c cs hp ih =>
    rw [List.flatMap_cons, delimiters_append, ih, List.drop_zero]
    exact (delimiters_append [c] cs).symm

end PathPart

/-- **The marks that divide an expanded path are those of the written path outside of its tokens, in
their order.** A value is written as a field of a form with `%20` for every plus sign, and its bytes
can be read back from that. -/
theorem delimiters_expandPath (path : String) (params : Fields String) (scope : Value) :
    delimiters (expandPath path params scope).toList =
        delimiters (PathPart.withoutTokens path.toList) ∧
      ∀ value : String,
        Percent.segment value.toList =
            replaceAll ['+'] ['%', '2', '0'] (Percent.formField value.toList) ∧
          (Percent.decode (Percent.segment value.toList)).toByteArray = value.toByteArray := by
  refine ⟨?_, fun value => ⟨Percent.segment_eq_replaceAll _, ?_⟩⟩
  · rw [expandPath, String.toList_ofList, expandPathChars, PathPart.delimiters_parametersFrom,
      List.drop_zero, PathPart.delimiters_tokensFrom]
  · rw [Percent.decode_segment, utf8, ← List.utf8Encode, String.utf8Encode_toList]

end Dialogue

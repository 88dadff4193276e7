import Dialogue.Chat.Reply
import Dialogue.Turn.Engine
import Dialogue.Proofs.Text.Normal

/-!
# Texts that are taken for each other

What people and models write is compared in normal form: by the triggers of flows, by the words that
give up a conversation, that agree or that decline, by menus and by labels. A text is taken for its
normal form exactly when that is its own normal form, and it is not when marks stand behind white space
behind other marks.

* `alike_iff`: texts are taken for each other exactly when they have one normal form.
* `alike_normalize_iff`: which texts are taken for their normal form, and what stands at the ends of
  one.
-/

namespace Dialogue

open Text

/-- Whether two texts are the same to everything that compares normal forms. A menu also looks at keys
as they stand, so here neither of the texts is one. -/
structure Alike (a b : String) : Prop where
  select : ∀ (r : Registry) (tenant : String), r.select tenant a = r.select tenant b
  givesUp : ∀ (e : Engine) (f : Flow), e.givesUp f a = e.givesUp f b
  consent : consent? a = consent? b
  option : ∀ options : Fields String, Fields.has options a = false → Fields.has options b = false →
    Fields.option? options a = Fields.option? options b
  known : ∀ labels : List String, Reply.known? labels a = Reply.known? labels b
  named : ∀ labels : List String, Reply.named? labels a = Reply.named? labels b

/-- Texts are taken for each other exactly when they have one normal form. -/
theorem alike_iff {a b : String} : Alike a b ↔ normalize a = normalize b := by
  constructor
  · intro h
    -- a text is known as the label that it is itself
    have ha : Reply.known? [a] a = some a := by simp [Reply.known?]
    rw [h.known, Reply.known?] at ha
    simpa using List.find?_some ha
  · intro h
    refine ⟨fun r tenant => ?_, fun e f => ?_, ?_, fun options ha hb => ?_, fun labels => ?_,
      fun labels => ?_⟩
    · rw [Registry.select, Registry.select, h]
    · rw [Engine.givesUp, Engine.givesUp, h]
    · rw [consent?, consent?, h]
    · rw [Fields.has, Option.isSome_eq_false_iff, Option.isNone_iff_eq_none] at ha hb
      rw [Fields.option?, Fields.option?, ha, hb, h]
    · rw [Reply.known?, Reply.known?, h]
    · rw [Reply.named?, Reply.named?, h]

/-- **A text is taken for its normal form exactly if it is layered at neither end, and exactly then its
normal form is its own normal form.** A normal form never has white space at its ends; it begins with
an opening mark, or ends with a mark, exactly if the text is layered there. -/
theorem alike_normalize_iff (text : String) :
    (Alike text (normalize text) ↔ IsFlat text) ∧
    (normalize (normalize text) = normalize text ↔ IsFlat text) ∧
    trim (normalize text).toList = (normalize text).toList ∧
    ((∃ c ∈ (normalize text).toList.head?, isOpeningMark c = true) ↔
      Layered isOpeningMark (trim text.toList)) ∧
    ((∃ c ∈ (normalize text).toList.getLast?, isAsciiMark c = true) ↔
      Layered isAsciiMark (trim text.toList).reverse) := by
  have hlist : (normalize text).toList = normalizeChars text.toList := String.toList_ofList
  refine ⟨?_, normalize_normalize text, ?_, ?_, ?_⟩
  · rw [alike_iff, eq_comm, normalize_normalize]
  · rw [hlist, trim_normalizeChars]
  · rw [hlist, head_normalizeChars]
  · rw [hlist, getLast_normalizeChars]

/-- Marks behind white space behind another mark: the normal form ends with a mark, has another normal
form, and agrees where the text does not. -/
theorem not_alike_of_layered :
    normalize "sí! ?" = "si!" ∧ isAsciiMark '!' = true ∧ normalize "si!" = "si" ∧
      consent? "sí! ?" = none ∧ consent? (normalize "sí! ?") = some true ∧
      ¬∀ text, normalize (normalize text) = normalize text := by
  have hruns : normalize "sí! ?" = "si!" ∧ normalize "si!" = "si" ∧ consent? "sí! ?" = none ∧
      consent? "si!" = some true := by decide +kernel
  obtain ⟨hfirst, hsecond, hnone, hyes⟩ := hruns
  refine ⟨hfirst, by decide, hsecond, hnone, by rw [hfirst, hyes], fun h => ?_⟩
  have hsame := h "sí! ?"
  rw [hfirst, hsecond] at hsame
  exact absurd hsame (by decide)

end Dialogue

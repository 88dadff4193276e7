import Mathlib.Logic.Function.Iterate
import Dialogue.Template.Render

/-!
# No braces are left

What is rendered is cleaned in the end: the tokens that are left are removed, and then pairs of
opening braces are replaced by single ones, again and again, as long as there is a pair. Each round
makes the text shorter, and all rounds together do what `collapse` does at once.

* `Text.occurs_iff`: a mark occurs in a text when it is a part of the text.
* `Template.thin_eq_collapse`, `Template.exists_rounds`: what the rounds do, and that they end.
* `Template.clean_render`: no rendered text has two opening braces in a row.
-/

namespace Dialogue

/-- A mark occurs in a text exactly when it is a part of it. -/
theorem Text.occurs_iff {mark text : List Char} : occurs mark text = true ↔ mark <:+: text := by
  constructor
  · intro h
    obtain ⟨⟨before, rest⟩, hc⟩ := Option.isSome_iff_exists.1 h
    exact ⟨before, rest, (cut?_eq_some hc).symm⟩
  · intro h
    induction text with
    | nil => simp [occurs, cut?, List.infix_nil.1 h]
    | cons c text ih =>
      rw [occurs, cut?]
      cases ha : after? mark (c :: text) with
      | some rest => rfl
      | none =>
        rcases List.infix_cons_iff.1 h with ⟨rest, hp⟩ | ht
        · rw [after?_eq_some.2 hp.symm] at ha
          cases ha
        · simpa [occurs] using ih ht

namespace Template

open Text

variable {c d : Char} {cs : List Char}

/-! ### Pairs of opening braces -/

theorem hasOpenMark_iff : hasOpenMark cs = true ↔ openMark <:+: cs := occurs_iff

theorem hasOpenMark_cons :
    hasOpenMark (c :: cs) = true ↔ (c = '\x7b' ∧ cs.head? = some '\x7b') ∨ hasOpenMark cs = true := by
  rw [hasOpenMark_iff, hasOpenMark_iff, List.infix_cons_iff]
  refine or_congr_left ?_
  cases cs with
  | nil => simp [openMark]
  | cons d cs => simp [openMark, List.cons_prefix_cons, eq_comm]

/-- Replaces each pair of opening braces by a single one, from left to right. -/
def halve (cs : List Char) : List Char := replaceAll openMark ['\x7b'] cs

theorem halve_pair (cs : List Char) : halve ('\x7b' :: '\x7b' :: cs) = '\x7b' :: halve cs := by
  simp [halve, replaceAll, replaceFrom, begins, after?, openMark]

theorem halve_cons (h : ¬(c = '\x7b' ∧ cs.head? = some '\x7b')) : halve (c :: cs) = c :: halve cs := by
  have hb : begins openMark (c :: cs) = false := by
    cases cs with
    | nil => simp [begins, after?, openMark]
    | cons d cs => simp_all [begins, after?, openMark, eq_comm]
  rw [halve, replaceAll, replaceFrom, hb]
  rfl

/-- To prove something of a text, take pairs of opening braces off its front, and else characters. -/
theorem pairs_induct {p : List Char → Prop} (nil : p [])
    (pair : ∀ cs, p cs → p ('\x7b' :: '\x7b' :: cs))
    (cons : ∀ c cs, ¬(c = '\x7b' ∧ cs.head? = some '\x7b') → p cs → p (c :: cs)) :
    ∀ cs, p cs
  | [] => nil
  | [c] => cons c [] (by simp) nil
  | c :: d :: cs =>
    if h : c = '\x7b' ∧ d = '\x7b' then
      h.1 ▸ h.2 ▸ pair cs (pairs_induct nil pair cons cs)
    else cons c (d :: cs) (by simpa using h) (pairs_induct nil pair cons (d :: cs))

/-- A round never makes a text longer, and makes it shorter when there is a pair. -/
theorem length_halve (cs : List Char) :
    (halve cs).length ≤ cs.length ∧ (hasOpenMark cs = true → (halve cs).length < cs.length) := by
  induction cs using pairs_induct with
  | nil => exact ⟨Nat.le_refl 0, nofun⟩
  | pair cs ih =>
    rw [halve_pair]
    simp only [List.length_cons]
    exact ⟨by omega, fun _ => by omega⟩
  | cons c cs h ih =>
    rw [halve_cons h, hasOpenMark_cons]
    simp only [List.length_cons]
    exact ⟨by omega, fun ho => Nat.succ_lt_succ (ih.2 (ho.resolve_left h))⟩

/-! ### Rounds -/

/-- Halves as long as there is a pair. -/
def thin (cs : List Char) : List Char :=
  if hasOpenMark cs then thin (halve cs) else cs
termination_by cs.length
decreasing_by exact (length_halve cs).2 ‹_›

/-- The rounds end: there are no more of them than characters, a pair is there before each of them,
and none after the last. -/
theorem exists_rounds (cs : List Char) : ∃ rounds ≤ cs.length, thin cs = halve^[rounds] cs ∧
    (∀ k < rounds, hasOpenMark (halve^[k] cs) = true) ∧
    hasOpenMark (halve^[rounds] cs) = false := by
  fun_induction thin cs with
  | case1 cs h ih =>
    obtain ⟨rounds, hle, heq, hbefore, hafter⟩ := ih
    have hlt := (length_halve cs).2 h
    refine ⟨rounds + 1, by omega, heq, fun k hk => ?_, hafter⟩
    cases k with
    | zero => exact h
    | succ k => exact hbefore k (Nat.lt_of_succ_lt_succ hk)
  | case2 cs h =>
    exact ⟨0, Nat.zero_le _, rfl, fun _ hk => absurd hk (Nat.not_lt_zero _), by simpa using h⟩

/-- To collapse is to collapse all but the first character, and to put it in front unless two braces
would meet there. -/
theorem collapse_cons_eq (c : Char) (cs : List Char) :
    collapse (c :: cs) =
      if c = '\x7b' ∧ (collapse cs).head? = some '\x7b' then collapse cs else c :: collapse cs := by
  cases cs with
  | nil => simp [collapse]
  | cons d cs =>
    obtain ⟨more, hm⟩ := collapse_cons d cs
    rw [collapse, hm]
    simp only [List.head?_cons, Option.some_inj]

/-- A round does not change what the text collapses to. -/
theorem collapse_halve (cs : List Char) : collapse (halve cs) = collapse cs := by
  induction cs using pairs_induct with
  | nil => rfl
  | pair cs ih =>
    rw [halve_pair, collapse_cons_eq, ih, ← collapse_cons_eq, collapse, if_pos ⟨rfl, rfl⟩]
  | cons c cs h ih => rw [halve_cons h, collapse_cons_eq, ih, ← collapse_cons_eq]

/-- A text without a pair collapses to itself. -/
theorem collapse_of_plain (h : hasOpenMark cs = false) : collapse cs = cs := by
  induction cs with
  | nil => rfl
  | cons c cs ih =>
    have hc : ¬((c = '\x7b' ∧ cs.head? = some '\x7b') ∨ hasOpenMark cs = true) := by
      rw [← hasOpenMark_cons, h]
      exact Bool.false_ne_true
    rw [not_or, Bool.not_eq_true] at hc
    rw [collapse_cons_eq, ih hc.2, if_neg hc.1]

/-- All rounds together do what collapsing does at once. -/
theorem thin_eq_collapse (cs : List Char) : thin cs = collapse cs := by
  fun_induction thin cs with
  | case1 cs _ ih => rw [ih, collapse_halve]
  | case2 cs h => exact (collapse_of_plain (by simpa using h)).symm

/-- Removes the tokens of a text with braces, and then pairs of opening braces in rounds. -/
def cleanse (cs : List Char) : List Char :=
  if hasOpenMark cs then thin (mapTokens (fun _ => []) cs) else cs

theorem cleanse_eq_sanitize (cs : List Char) : cleanse cs = sanitize cs := by
  rw [cleanse, thin_eq_collapse, sanitize]

theorem hasOpenMark_cleanse (cs : List Char) : hasOpenMark (cleanse cs) = false := by
  rw [cleanse_eq_sanitize, sanitize]
  split
  · exact collapse_no_pair _
  · rename_i h
    simpa using h

/-! ### Rendering -/

/-- Renders a template with any language for prepared templates; what it refuses is substituted
token by token. -/
def renderWith {ε : Type} (language : List Char → Value → Except ε (List Char)) (scope : Value)
    (template : List Char) : List Char :=
  if hasOpenMark template then
    match language (prepare scope template) scope with
    | .ok out => cleanse out
    | .error _ => cleanse (substitute scope template)
  else template

/-- The language of blocks. -/
def blocks (prepared : List Char) (scope : Value) : Except Unit (List Char) :=
  match (parse prepared).bind (render scope [Frame.whole]) with
  | some out => .ok out
  | none => .error ()

theorem renderText_eq_renderWith (scope : Value) (template : List Char) :
    renderText scope template = renderWith blocks scope template := by
  unfold renderText renderWith blocks evaluate?
  split
  · rw [← cleanse_eq_sanitize]
    cases (parse (prepare scope template)).bind (render scope [Frame.whole]) <;> rfl
  · rfl

theorem hasOpenMark_renderWith {ε : Type} (language : List Char → Value → Except ε (List Char))
    (scope : Value) (template : List Char) :
    hasOpenMark (renderWith language scope template) = false := by
  unfold renderWith
  split
  · split
    · exact hasOpenMark_cleanse _
    · exact hasOpenMark_cleanse _
  · rename_i h
    simpa using h

/-- **Rendering is total and leaves no two opening braces in a row**, whatever a language makes of a
prepared template, that of blocks among them. The rounds in which pairs of braces are replaced end
for every text, after no more of them than it has characters. -/
theorem clean_render (scope : Value) (template : String) :
    (∀ (ε : Type) (language : List Char → Value → Except ε (List Char)),
      ¬openMark <:+: renderWith language scope template.toList) ∧
    (∀ cs, ∃ rounds ≤ cs.length, thin cs = halve^[rounds] cs ∧
      (∀ k < rounds, openMark <:+: halve^[k] cs) ∧ ¬openMark <:+: halve^[rounds] cs) ∧
    renderTemplate scope template = String.ofList (renderWith blocks scope template.toList) ∧
    ¬openMark <:+: (renderTemplate scope template).toList := by
  have hclean : ∀ (ε : Type) (language : List Char → Value → Except ε (List Char)),
      ¬openMark <:+: renderWith language scope template.toList := by
    intro ε language
    rw [← hasOpenMark_iff, hasOpenMark_renderWith]
    exact Bool.false_ne_true
  have hown : renderTemplate scope template =
      String.ofList (renderWith blocks scope template.toList) := by
    rw [renderTemplate, renderText_eq_renderWith]
  refine ⟨hclean, fun cs => ?_, hown, ?_⟩
  · obtain ⟨rounds, hle, heq, hbefore, hafter⟩ := exists_rounds cs
    refine ⟨rounds, hle, heq, fun k hk => hasOpenMark_iff.1 (hbefore k hk), ?_⟩
    rw [← hasOpenMark_iff, hafter]
    exact Bool.false_ne_true
  · rw [hown, String.toList_ofList]
    exact hclean Unit blocks

/-- A token that is removed may leave braces behind, which are thinned out. -/
example : cleanse "\x7b\x7ba\x7d\x7d\x7b\x7b\x7b b".toList = "\x7b b".toList := by
  rw [cleanse_eq_sanitize]
  decide

end Template

end Dialogue

import Dialogue.Text.Basic

/-!
# Margins of a text

White space at the ends of a text: what trimming drops, and what the search for a mark without white
space never sees.

* `exists_margins`: a text is its trimmed form between two blank margins.
* `trim_append`, `trim_blank_append`: margins do not change the trimmed form.
* `cut?_append`: a margin at the end does not change where a text is cut.
* `cut?_append_mark`: a text is cut at the first mark.
-/

namespace Dialogue.Text

/-- A text of white space only. -/
def Blank (text : List Char) : Prop := ∀ c ∈ text, isBlank c = true

/-- A text without white space at its end. -/
def Firm (text : List Char) : Prop := ∀ c ∈ text.getLast?, isBlank c = false

variable {text margin : List Char}

theorem blank_nil : Blank [] := fun _ h => absurd h List.not_mem_nil

theorem Blank.head {c : Char} (h : Blank (c :: text)) : isBlank c = true := h c List.mem_cons_self

theorem Blank.tail {c : Char} (h : Blank (c :: text)) : Blank text := fun d hd =>
  h d (List.mem_cons_of_mem c hd)

theorem Firm.tail {c : Char} (h : Firm (c :: text)) : Firm text := by
  cases text with
  | nil => exact fun d hd => absurd hd (by simp)
  | cons d text =>
    intro x hx
    exact h x (by rw [List.getLast?_cons_cons]; exact hx)

/-- Nothing is both blank and firm. -/
theorem Firm.eq_nil_of_blank (hf : Firm text) (hb : Blank text) : text = [] := by
  rcases List.eq_nil_or_concat text with rfl | ⟨before, c, rfl⟩
  · rfl
  · have h := hf c (by simp)
    rw [hb c (by simp)] at h
    cases h

theorem firm_append_right {before : List Char} (h : Firm (before ++ text)) : Firm text := by
  induction before with
  | nil => exact h
  | cons c before ih => exact ih h.tail

theorem firm_append (h : Firm text) (hne : text ≠ []) (before : List Char) :
    Firm (before ++ text) := by
  intro c hc
  rw [List.getLast?_append] at hc
  cases hl : text.getLast? with
  | none => exact absurd (List.getLast?_eq_none_iff.1 hl) hne
  | some d =>
    rw [hl] at hc
    cases hc
    exact h c hl

theorem firm_concat {c : Char} (before : List Char) (h : isBlank c = false) :
    Firm (before ++ [c]) := 
  firm_append (fun d hd => by cases hd; exact h) (List.cons_ne_nil c []) before

/-! ### Trimming -/

theorem trimFront_blank_append (h : Blank margin) (text : List Char) :
    trimFront (margin ++ text) = trimFront text :=
  List.dropWhile_append_of_pos h

theorem trimBack_append (text : List Char) (h : Blank margin) :
    trimBack (text ++ margin) = trimBack text := by
  have hr : Blank margin.reverse := fun c hc => h c (List.mem_reverse.1 hc)
  rw [trimBack, dropEndWhile, List.reverse_append]
  exact congrArg List.reverse (trimFront_blank_append hr text.reverse)

/-- A margin at the front does not change the trimmed form. -/
theorem trim_blank_append (h : Blank margin) (text : List Char) :
    trim (margin ++ text) = trim text := by
  rw [trim, trimFront_blank_append h, trim]

theorem head_trimFront {c : Char} (h : (trimFront text).head? = some c) : isBlank c = false := by
  have hn := List.head?_dropWhile_not isBlank text
  rw [show (text.dropWhile isBlank).head? = some c from h] at hn
  exact hn

/-- A text is what trimming its front leaves, after a margin. -/
theorem exists_front (text : List Char) :
    ∃ margin, Blank margin ∧ text = margin ++ trimFront text :=
  ⟨text.takeWhile isBlank, List.all_eq_true.1 List.all_takeWhile,
    List.takeWhile_append_dropWhile.symm⟩

/-- A text is what trimming its end leaves, before a margin. -/
theorem exists_back (text : List Char) :
    ∃ margin, Blank margin ∧ text = trimBack text ++ margin ∧ Firm (trimBack text) := by
  obtain ⟨margin, hb, ht⟩ := exists_front text.reverse
  refine ⟨margin.reverse, fun c hc => hb c (List.mem_reverse.1 hc), ?_, fun c hc => ?_⟩
  · rw [trimBack, dropEndWhile, ← List.reverse_append, ← trimFront, ← ht, List.reverse_reverse]
  · rw [trimBack, dropEndWhile, List.getLast?_reverse] at hc
    exact head_trimFront hc

/-- A margin at the end does not change the trimmed form. -/
theorem trim_append (text : List Char) (h : Blank margin) : trim (text ++ margin) = trim text := by
  obtain ⟨front, hf, ht⟩ := exists_front text
  rw [ht, List.append_assoc, trim_blank_append hf, trim_blank_append hf, trim, trim]
  cases hr : trimFront text with
  | nil =>
    rw [List.nil_append]
    exact trim_eq_nil_of_all h
  | cons c rest =>
    have hc : isBlank c = false := head_trimFront (by rw [hr]; rfl)
    have hfront : ∀ more, trimFront (c :: more) = c :: more := fun more =>
      List.dropWhile_cons_of_neg (by simp [hc])
    rw [List.cons_append, hfront, hfront, ← List.cons_append, trimBack_append _ h]

/-- A text without white space at either end is its own trimmed form. -/
theorem trim_of_firm (hh : ∀ c ∈ text.head?, isBlank c = false) (hf : Firm text) :
    trim text = text := by
  have hdrop : ∀ {cs : List Char}, (∀ c ∈ cs.head?, isBlank c = false) →
      cs.dropWhile isBlank = cs := by
    intro cs hc
    cases cs with
    | nil => rfl
    | cons c cs => exact List.dropWhile_cons_of_neg (by simp [hc c rfl])
  have hr : ∀ c ∈ text.reverse.head?, isBlank c = false := fun c hc =>
    hf c (by rwa [List.head?_reverse] at hc)
  rw [trim, trimFront, hdrop hh, trimBack, dropEndWhile, hdrop hr, List.reverse_reverse]

/-- What is left after trimming does not begin with white space. -/
theorem head_trim {c : Char} (h : (trim text).head? = some c) : isBlank c = false := by
  obtain ⟨margin, -, ht, -⟩ := exists_back (trimFront text)
  have hf : (trimFront text).head? = some c := by
    rw [ht, List.head?_append, show (trimBack (trimFront text)).head? = some c from h]
    rfl
  exact head_trimFront hf

/-- Trimming keeps the first character that is not white space. -/
theorem head_trim_cons {c : Char} (h : isBlank c = false) (text : List Char) :
    (trim (c :: text)).head? = some c := by
  have hfront : trimFront (c :: text) = c :: text := List.dropWhile_cons_of_neg (by simp [h])
  obtain ⟨margin, hb, ht, -⟩ := exists_back (c :: text)
  rw [trim, hfront]
  cases hr : trimBack (c :: text) with
  | nil =>
    rw [hr, List.nil_append] at ht
    rw [← ht] at hb
    cases h.symm.trans hb.head
  | cons d more =>
    rw [hr, List.cons_append] at ht
    rw [List.head?_cons, (List.cons.inj ht).1]

/-- A text is its trimmed form between two margins. -/
theorem exists_margins (text : List Char) :
    ∃ front back, Blank front ∧ Blank back ∧ text = front ++ (trim text ++ back) ∧
      Firm (trim text) := by
  obtain ⟨front, hf, ht⟩ := exists_front text
  obtain ⟨back, hb, hr, hfirm⟩ := exists_back (trimFront text)
  refine ⟨front, back, hf, hb, ?_, hfirm⟩
  rw [trim, ← hr]
  exact ht

/-! ### Marks -/

/-- A mark without white space. -/
def Solid (mark : List Char) : Prop := ∀ c ∈ mark, isBlank c = false

instance (mark : List Char) : Decidable (Solid mark) :=
  decidable_of_iff (mark.all (!isBlank ·) = true) (by simp [Solid])

/-- Digits are in the range of ASCII, where nothing but blanks is blank. -/
theorem isDigit_iff {c : Char} : isDigit c = true ↔ 48 ≤ c.toNat ∧ c.toNat ≤ 57 := by
  simp only [isDigit, Bool.and_eq_true, decide_eq_true_eq]
  exact Iff.rfl

theorem not_isBlank_of_isDigit {c : Char} (h : isDigit c = true) : isBlank c = false := by
  obtain ⟨hl, hu⟩ := isDigit_iff.1 h
  simp only [isBlank, Bool.or_eq_false_iff, Bool.and_eq_false_iff, decide_eq_false_iff_not,
    beq_eq_false_iff_ne, ne_eq]
  omega

/-- A text without any white space is its own trimmed form. -/
theorem trim_of_solid (h : Solid text) : trim text = text :=
  trim_of_firm (fun c hc => h c (List.mem_of_mem_head? hc)) fun c hc =>
    h c (List.mem_of_mem_getLast? hc)

section Marks

variable {m : Char} {mark before : List Char}

/-- A text without the first character of a mark is not cut there. -/
theorem cut?_of_not_mem (h : m ∉ text) : cut? (m :: mark) text = none := by
  induction text with
  | nil => exact if_neg (List.cons_ne_nil m mark)
  | cons c text ih =>
    rw [List.mem_cons, not_or] at h
    rw [cut?, after?, if_neg h.1, ih h.2]
    rfl

/-- A text is cut at the first mark. -/
theorem cut?_append_mark (h : m ∉ before) (mark rest : List Char) :
    cut? (m :: mark) (before ++ (m :: mark ++ rest)) = some (before, rest) := by
  induction before with
  | nil =>
    have ha : after? (m :: mark) (m :: mark ++ rest) = some rest := after?_eq_some.2 rfl
    rw [List.nil_append, List.cons_append, cut?]
    rw [List.cons_append] at ha
    rw [ha]
  | cons c before ih =>
    rw [List.mem_cons, not_or] at h
    rw [List.cons_append, cut?, after?, if_neg h.1, ih h.2]
    rfl

/-- Nothing is replaced in a text without the mark. -/
theorem replaceAll_of_not_mem (h : m ∉ text) (new : List Char) :
    replaceAll (m :: mark) new text = text := by
  induction text with
  | nil => rfl
  | cons c text ih =>
    rw [List.mem_cons, not_or] at h
    have hb : begins (m :: mark) (c :: text) = false := by
      rw [begins, after?, if_neg h.1]
      rfl
    rw [replaceAll, replaceFrom, hb, if_neg Bool.false_ne_true]
    exact congrArg (c :: ·) (ih h.2)

end Marks

variable {mark : List Char}

theorem after?_of_blank (hm : Solid mark) (hne : mark ≠ []) (h : Blank margin) :
    after? mark margin = none := by
  cases mark with
  | nil => exact absurd rfl hne
  | cons m mark =>
    cases margin with
    | nil => rfl
    | cons c margin =>
      have hc : m ≠ c := by
        rintro rfl
        cases (hm m List.mem_cons_self).symm.trans h.head
      exact if_neg hc

/-- A margin at the end does not change whether a text begins with a mark. -/
theorem after?_append (hm : Solid mark) (h : Blank margin) (text : List Char) :
    after? mark (text ++ margin) = (after? mark text).map (· ++ margin) := by
  induction mark generalizing text with
  | nil => rw [after?_nil, after?_nil, Option.map_some]
  | cons m mark ih =>
    cases text with
    | nil => exact after?_of_blank hm (by simp) h
    | cons c text =>
      rw [List.cons_append, after?, after?]
      split
      · exact ih (fun d hd => hm d (List.mem_cons_of_mem m hd)) text
      · rfl

theorem begins_append (hm : Solid mark) (h : Blank margin) (text : List Char) :
    begins mark (text ++ margin) = begins mark text := by
  rw [begins, after?_append hm h, Option.isSome_map, begins]

theorem cut?_of_blank (hm : Solid mark) (hne : mark ≠ []) (h : Blank margin) :
    cut? mark margin = none := by
  induction margin with
  | nil => exact if_neg hne
  | cons c margin ih =>
    rw [cut?, after?_of_blank hm hne h, ih h.tail]
    rfl

/-- A margin at the end does not change where a text is cut. -/
theorem cut?_append (hm : Solid mark) (hne : mark ≠ []) (h : Blank margin) (text : List Char) :
    cut? mark (text ++ margin) = (cut? mark text).map fun (before, rest) => (before, rest ++ margin) := by
  induction text with
  | nil =>
    rw [List.nil_append, cut?_of_blank hm hne h, cut?, if_neg hne]
    rfl
  | cons c text ih =>
    rw [List.cons_append, cut?, cut?, ← List.cons_append, after?_append hm h]
    cases after? mark (c :: text) with
    | some rest => rfl
    | none =>
      rw [Option.map_none]
      dsimp only
      rw [ih, Option.map_map, Option.map_map]
      rfl

end Dialogue.Text

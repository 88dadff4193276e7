import Mathlib.Data.List.Infix
import Dialogue.Proofs.Text.Classes
import Dialogue.Proofs.Text.Normal

/-!
# Words of texts

The words of a text are its runs of letters and numbers. White space divides a text into parts that
are brought into lower case on their own, and what a normal form drops is part of no word. So the
words of a normal form are those of the whole text, whatever stands around them.

* `wordsOf_append_cons`: words divide at every character that is neither a letter nor a number.
* `containsRun_iff`: a run of neighbours is a part of a list.
* `fold_append_cons`: white space divides the folded form of a text.
* `wordsOf_normalizeChars`: a normal form has the words of the folded text.
* `wordsOf_normalizeChars_append_cons`: a part between white space has its words there.
-/

namespace Dialogue.Text

variable {c : Char} {text margin : List Char}

/-! ### Words -/

theorem pieces_eq_splitOnP (p : Char → Bool) (text : List Char) :
    pieces p text = text.splitOnP p := by
  induction text with
  | nil => rw [List.splitOnP_nil, pieces]
  | cons c text ih =>
    rw [List.splitOnP_cons_eq_if_modifyHead, pieces, ih]
    split
    · rfl
    · cases h : text.splitOnP p with
      | nil => exact absurd h (List.splitOnP_ne_nil p text)
      | cons piece more => rfl

@[simp] theorem wordsOf_nil : wordsOf [] = [] := rfl

/-- Words divide at every character that is neither a letter nor a number. -/
theorem wordsOf_append_cons (h : isAlphanumeric c = false) (text rest : List Char) :
    wordsOf (text ++ c :: rest) = wordsOf text ++ wordsOf rest := by
  simp only [wordsOf, words, pieces_eq_splitOnP]
  rw [List.splitOnP_append_cons text rest (by simpa using h), List.filter_append]

theorem wordsOf_cons (h : isAlphanumeric c = false) (text : List Char) :
    wordsOf (c :: text) = wordsOf text :=
  wordsOf_append_cons h [] text

/-- A text with a letter or number has words. -/
theorem wordsOf_ne_nil (h : ∃ c ∈ text, isAlphanumeric c = true) : wordsOf text ≠ [] := by
  obtain ⟨c, hc, ha⟩ := h
  induction text with
  | nil => exact absurd hc List.not_mem_nil
  | cons d text ih =>
    cases hd : isAlphanumeric d with
    | false =>
      rw [wordsOf_cons hd]
      refine ih ((List.mem_cons.1 hc).resolve_left ?_)
      rintro rfl
      cases hd.symm.trans ha
    | true =>
      -- the first piece begins with `d`, so that it is not empty
      simp only [wordsOf, words, pieces_eq_splitOnP]
      rw [List.splitOnP_cons_eq_if_modifyHead, if_neg (by simp [hd])]
      obtain ⟨piece, more, hp⟩ :=
        List.exists_cons_of_ne_nil (List.splitOnP_ne_nil (fun c => !isAlphanumeric c) text)
      rw [hp, List.modifyHead_cons, List.filter_cons_of_pos (by simp)]
      exact List.cons_ne_nil _ _

/-- A run of neighbours is a part of a list. -/
theorem containsRun_iff {wanted items : List (List Char)} :
    containsRun wanted items = true ↔ wanted <:+: items := by
  induction items with
  | nil => simp [containsRun]
  | cons item items ih =>
    rw [containsRun, Bool.or_eq_true, List.isPrefixOf_iff_prefix, ih, List.infix_cons_iff]

/-! ### What is dropped around words -/

theorem wordsOf_dropWhile {p : Char → Bool} (hp : ∀ c, p c = true → isAlphanumeric c = false)
    (text : List Char) : wordsOf (text.dropWhile p) = wordsOf text := by
  induction text with
  | nil => rfl
  | cons c text ih =>
    cases hc : p c with
    | true => rw [List.dropWhile_cons_of_pos hc, ih, wordsOf_cons (hp c hc)]
    | false => rw [List.dropWhile_cons_of_neg (by simp [hc])]

theorem wordsOf_dropEndWhile {q : Char → Bool} (hq : ∀ c, q c = true → isAlphanumeric c = false)
    (text : List Char) : wordsOf (dropEndWhile q text) = wordsOf text := by
  induction text using List.reverseRecOn with
  | nil => rfl
  | append_singleton text c ih =>
    unfold dropEndWhile at ih ⊢
    rw [List.reverse_append, List.reverse_singleton, List.singleton_append]
    cases hc : q c with
    | true =>
      rw [List.dropWhile_cons_of_pos hc, ih, wordsOf_append_cons (hq c hc), wordsOf_nil,
        List.append_nil]
    | false =>
      rw [List.dropWhile_cons_of_neg (by simp [hc]), List.reverse_cons, List.reverse_reverse]

/-- Marks around a text and white space are part of no word. -/
theorem wordsOf_tidy (text : List Char) :
    wordsOf (tidy isOpeningMark isAsciiMark text) = wordsOf text := by
  have hblank : ∀ c, isBlank c = true → isAlphanumeric c = false := fun c hc =>
    isAlphanumeric_of_isPlain (by rw [isPlain, hc]; rfl)
  have hfront : ∀ c, isOpeningMark c = true → isAlphanumeric c = false := fun c hc =>
    isAlphanumeric_of_isPlain (by rw [isPlain, hc, Bool.or_true]; rfl)
  have hback : ∀ c, isAsciiMark c = true → isAlphanumeric c = false := fun c hc =>
    isAlphanumeric_of_isPlain (by rw [isPlain, hc, Bool.or_true])
  rw [tidy, trim, trimBack, trimFront, wordsOf_dropEndWhile hblank, wordsOf_dropWhile hblank,
    wordsOf_dropEndWhile hback, wordsOf_dropWhile hfront]

/-! ### White space divides a text -/

theorem meetsCased_append_cons (h : isBlank c = true) (text rest : List Char) :
    meetsCased (text ++ c :: rest) = meetsCased text := by
  have hcased : isCased c = false := isCased_of_isPlain (by rw [isPlain, h]; rfl)
  have hignored := isCaseIgnorable_of_isBlank h
  unfold meetsCased
  rw [List.dropWhile_append, List.dropWhile_cons_of_neg (by simp [hignored])]
  cases text.dropWhile isCaseIgnorable with
  | nil => exact hcased
  | cons d more => rfl

/-- What stands before white space makes no difference to the case of what follows. -/
theorem lowerAfter_of_blank (h : isBlank c = true) (before far text : List Char) :
    lowerAfter (before ++ c :: far) text = lowerAfter before text := by
  induction text generalizing before with
  | nil => rfl
  | cons d text ih =>
    rw [lowerAfter, lowerAfter, meetsCased_append_cons h, ← List.cons_append, ih]

theorem lowerAfter_append_cons (h : isBlank c = true) (before text rest : List Char) :
    lowerAfter before (text ++ c :: rest) = lowerAfter before text ++ c :: lower rest := by
  induction text generalizing before with
  | nil =>
    have hsigma : c ≠ 'Σ' := by
      rintro rfl
      exact absurd h (by decide)
    have hrest : lowerAfter (c :: before) rest = lower rest := lowerAfter_of_blank h [] before rest
    show lowerAfter before (c :: rest) = c :: lower rest
    rw [lowerAfter, if_neg hsigma, hrest, lowerChar_of_isPlain (by rw [isPlain, h]; rfl)]
    rfl
  | cons d text ih =>
    rw [List.cons_append, lowerAfter, lowerAfter, ih, meetsCased_append_cons h, List.append_assoc]

/-- White space divides the folded form of a text. -/
theorem fold_append_cons (h : isBlank c = true) (text rest : List Char) :
    fold (text ++ c :: rest) = fold text ++ c :: fold rest := by
  have hc : foldAccent c = c := by
    rcases foldAccent_cases c with he | ⟨hn, -⟩
    · exact he
    · rw [isPlain, h] at hn
      cases hn
  rw [fold, lower, lowerAfter_append_cons h, List.map_append, List.map_cons, hc]
  rfl

theorem wordsOf_fold_append_cons (h : isBlank c = true) (text rest : List Char) :
    wordsOf (fold (text ++ c :: rest)) = wordsOf (fold text) ++ wordsOf (fold rest) := by
  rw [fold_append_cons h, wordsOf_append_cons (isAlphanumeric_of_isPlain (by rw [isPlain, h]; rfl))]

theorem wordsOf_fold_blank_append (h : Blank margin) (text : List Char) :
    wordsOf (fold (margin ++ text)) = wordsOf (fold text) := by
  induction margin with
  | nil => rfl
  | cons c margin ih =>
    have hcons := wordsOf_fold_append_cons h.head [] (margin ++ text)
    rwa [List.nil_append, show fold [] = [] from rfl, wordsOf_nil, List.nil_append, ih h.tail] at hcons

theorem wordsOf_fold_append_blank (text : List Char) (h : Blank margin) :
    wordsOf (fold (text ++ margin)) = wordsOf (fold text) := by
  cases margin with
  | nil => rw [List.append_nil]
  | cons c margin =>
    have hnone := wordsOf_fold_blank_append h.tail []
    rw [List.append_nil] at hnone
    rw [wordsOf_fold_append_cons h.head, hnone, show fold [] = [] from rfl, wordsOf_nil,
      List.append_nil]

/-! ### Words of normal forms -/

/-- A normal form has the words of the folded text. -/
theorem wordsOf_normalizeChars (text : List Char) :
    wordsOf (normalizeChars text) = wordsOf (fold text) := by
  obtain ⟨front, back, hf, hb, ht, -⟩ := exists_margins text
  rw [normalizeChars_eq, wordsOf_tidy]
  conv_rhs => rw [ht]
  rw [wordsOf_fold_blank_append hf, wordsOf_fold_append_blank _ hb]

/-- The words of a normal form are those of the parts between white space. -/
theorem wordsOf_normalizeChars_append_cons (h : isBlank c = true) (text rest : List Char) :
    wordsOf (normalizeChars (text ++ c :: rest)) =
      wordsOf (normalizeChars text) ++ wordsOf (normalizeChars rest) := by
  simp only [wordsOf_normalizeChars, wordsOf_fold_append_cons h]

/-- A letter or number is still there in the folded form of a text. -/
theorem exists_isAlphanumeric_lowerAfter (before : List Char)
    (h : ∃ c ∈ text, isAlphanumeric c = true) :
    ∃ d ∈ (lowerAfter before text).map foldAccent, isAlphanumeric d = true := by
  induction text generalizing before with
  | nil => simp at h
  | cons c text ih =>
    obtain ⟨d, hd, ha⟩ := h
    rw [lowerAfter, List.map_append]
    rcases List.mem_cons.1 hd with rfl | hd
    · split
      · split
        · exact ⟨'ς', List.mem_append_left _ List.mem_cons_self, isAlphanumeric_sigmas.2⟩
        · exact ⟨'σ', List.mem_append_left _ List.mem_cons_self, isAlphanumeric_sigmas.1⟩
      · obtain ⟨e, he, hea⟩ := exists_isAlphanumeric_fold ha
        exact ⟨e, List.mem_append_left _ he, hea⟩
    · obtain ⟨e, he, hea⟩ := ih (c :: before) ⟨d, hd, ha⟩
      exact ⟨e, List.mem_append_right _ he, hea⟩

/-- A letter or number is part of a word of the normal form. -/
theorem wordsOf_normalizeChars_ne_nil (h : ∃ c ∈ text, isAlphanumeric c = true) :
    wordsOf (normalizeChars text) ≠ [] := by
  rw [wordsOf_normalizeChars]
  exact wordsOf_ne_nil (exists_isAlphanumeric_lowerAfter [] h)

end Dialogue.Text

import Dialogue.Proofs.Text.Classes
import Dialogue.Proofs.Text.Margins

/-!
# Normal forms

A normal form is a text in lower case without accents, freed of the marks around it. White space is
dropped first and last, so that marks behind white space behind other marks are passed over: such a
text is layered, and what is left of it is not its own normal form.

* `Recast`: what a text and its folded form have in common, which is where the marks stand.
* `tidy`: freeing a text of what is around it, the same from both ends (`reverse_tidy`).
* `head_normalizeChars`, `getLast_normalizeChars`: a mark is left at an end exactly when the text is
  layered there.
* `normalizeChars_normalizeChars`: a normal form is its own normal form exactly when the text is not
  layered.
* `normalizeChars_append`: marks put behind a text do not change its normal form.
-/

namespace Dialogue.Text

variable {p q : Char → Bool} {c : Char} {text out : List Char}

/-! ### Folded characters -/

/-- Whether a character is in lower case and without an accent. -/
def IsFolded (c : Char) : Prop := lowerChar c = [c] ∧ foldAccent c = c

/-- A character is no letter with an accent, or becomes a letter without one. -/
theorem foldAccent_cases (c : Char) :
    foldAccent c = c ∨
      isPlain c = false ∧ IsFolded (foldAccent c) ∧ isPlain (foldAccent c) = false := by
  unfold foldAccent
  split <;> first | exact .inr ⟨by decide, ⟨rfl, rfl⟩, by decide⟩ | exact .inl rfl

/-- What a character becomes in the folded form of a text: characters that are folded, and white space
and marks only if it is one of them, which is left as it is. -/
structure Folds (c : Char) (group : List Char) : Prop where
  ne_nil : group ≠ []
  folded : ∀ d ∈ group, IsFolded d
  plain : isPlain c = true → group = [c]
  other : isPlain c = false → ∀ d ∈ group, isPlain d = false

theorem folds_lowerChar (c : Char) : Folds c ((lowerChar c).map foldAccent) := by
  refine ⟨by simpa using lowerChar_ne_nil c, ?_, fun hc => ?_, fun hc => ?_⟩
  · rw [List.forall_mem_map]
    intro d hd
    rcases foldAccent_cases d with he | ⟨-, hfolded, -⟩
    · rw [he]
      exact ⟨lowerChar_of_mem hd, he⟩
    · exact hfolded
  · rw [lowerChar_of_isPlain hc, List.map_singleton]
    rcases foldAccent_cases c with he | ⟨hn, -⟩
    · rw [he]
    · cases hn.symm.trans hc
  · rw [List.forall_mem_map]
    intro d hd
    rcases foldAccent_cases d with he | ⟨-, -, hplain⟩
    · rw [he]
      exact isPlain_of_mem_lowerChar hc hd
    · exact hplain

/-- Of the three sigmas, only the capital one is changed by lower case. -/
theorem lowerChar_sigma : lowerChar 'ς' = ['ς'] ∧ lowerChar 'σ' = ['σ'] ∧ lowerChar 'Σ' ≠ ['Σ'] := by
  decide +kernel

/-- The capital sigma becomes one of the two small ones. -/
theorem folds_sigma {d : Char} (h : d = 'ς' ∨ d = 'σ') : Folds 'Σ' [foldAccent d] := by
  have hplain : isPlain 'Σ' = false := by decide
  have hfolded : IsFolded (foldAccent d) ∧ isPlain (foldAccent d) = false := by
    obtain ⟨hlast, hinner, -⟩ := lowerChar_sigma
    rcases h with rfl | rfl
    · exact ⟨⟨hlast, rfl⟩, by decide⟩
    · exact ⟨⟨hinner, rfl⟩, by decide⟩
  refine ⟨List.cons_ne_nil _ _, ?_, fun hc => absurd hc (by rw [hplain]; decide), fun _ => ?_⟩
  · exact List.forall_mem_singleton.2 hfolded.1
  · exact List.forall_mem_singleton.2 hfolded.2

/-- Each character of a text becomes what it may in the folded form. -/
inductive Recast : List Char → List Char → Prop where
  | nil : Recast [] []
  | cons {c : Char} {group text out : List Char} :
    Folds c group → Recast text out → Recast (c :: text) (group ++ out)

theorem recast_lowerAfter (before text : List Char) :
    Recast text ((lowerAfter before text).map foldAccent) := by
  induction text generalizing before with
  | nil => exact .nil
  | cons c text ih =>
    rw [lowerAfter, List.map_append]
    refine .cons ?_ (ih _)
    split
    · rename_i hc
      subst hc
      split
      · exact folds_sigma (.inl rfl)
      · exact folds_sigma (.inr rfl)
    · exact folds_lowerChar c

namespace Recast

variable {marks : List Char}

theorem folded (h : Recast text out) : ∀ d ∈ out, IsFolded d := by
  induction h with
  | nil => exact fun _ hd => absurd hd List.not_mem_nil
  | cons hg _ ih => exact List.forall_mem_append.2 ⟨hg.folded, ih⟩

theorem append {more out' : List Char} (h : Recast text out) (h' : Recast more out') :
    Recast (text ++ more) (out ++ out') := by
  induction h with
  | nil => exact h'
  | cons hg _ ih =>
    rw [List.cons_append, List.append_assoc]
    exact .cons hg ih

theorem reverse (h : Recast text out) : Recast text.reverse out.reverse := by
  induction h with
  | nil => exact .nil
  | @cons c group text out hg _ ih =>
    rw [List.reverse_cons, List.reverse_append]
    refine ih.append ?_
    have hrev : Folds c group.reverse := by
      refine ⟨by simpa using hg.ne_nil, fun d hd => hg.folded d (List.mem_reverse.1 hd),
        fun hc => ?_, fun hc d hd => hg.other hc d (List.mem_reverse.1 hd)⟩
      rw [hg.plain hc]
      rfl
    simpa using Recast.cons hrev .nil

/-- White space and marks at the front stay. -/
theorem out_eq (hm : ∀ m ∈ marks, isPlain m = true) {rest : List Char}
    (h : Recast (marks ++ rest) out) : ∃ out', out = marks ++ out' ∧ Recast rest out' := by
  induction marks generalizing out with
  | nil => exact ⟨out, rfl, h⟩
  | cons m marks ih =>
    obtain ⟨hmark, hmarks⟩ := List.forall_mem_cons.1 hm
    cases h with
    | cons hg h =>
      obtain ⟨out', rfl, hrest⟩ := ih hmarks h
      exact ⟨out', by rw [hg.plain hmark]; rfl, hrest⟩

/-- White space and marks at the front have been there before. -/
theorem text_eq (hm : ∀ m ∈ marks, isPlain m = true) {out' : List Char}
    (h : Recast text (marks ++ out')) : ∃ rest, text = marks ++ rest ∧ Recast rest out' := by
  induction marks generalizing text with
  | nil => exact ⟨text, rfl, h⟩
  | cons m marks ih =>
    obtain ⟨hmark, hmarks⟩ := List.forall_mem_cons.1 hm
    generalize ho : m :: marks ++ out' = out at h
    cases h with
    | nil => cases ho
    | @cons c group text out hg h =>
      cases hc : isPlain c with
      | true =>
        rw [hg.plain hc] at ho
        obtain ⟨rfl, rfl⟩ := List.cons.inj ho
        obtain ⟨rest, rfl, hrest⟩ := ih hmarks h
        exact ⟨rest, rfl, hrest⟩
      | false =>
        obtain ⟨d, more, rfl⟩ := List.exists_cons_of_ne_nil hg.ne_nil
        obtain ⟨rfl, -⟩ := List.cons.inj ho
        cases (hg.other hc m List.mem_cons_self).symm.trans hmark

/-- A text without white space at its front has none in its folded form. -/
theorem head (h : Recast text out) (ht : ∀ c ∈ text.head?, isBlank c = false) :
    ∀ c ∈ out.head?, isBlank c = false := by
  intro c hc
  rw [← Bool.not_eq_true]
  intro hb
  obtain ⟨out', rfl⟩ : ∃ out', out = [c] ++ out' := by
    cases out with
    | nil => cases hc
    | cons d out' =>
      cases hc
      exact ⟨out', rfl⟩
  have hplain : ∀ m ∈ [c], isPlain m = true :=
    List.forall_mem_singleton.2 (by rw [isPlain, hb]; rfl)
  obtain ⟨rest, rfl, -⟩ := h.text_eq hplain
  cases (ht c rfl).symm.trans hb

end Recast

/-! ### Layers -/

/-- Whether marks at the front of a text are followed by white space and another mark. -/
def Layered (p : Char → Bool) (text : List Char) : Prop :=
  ∃ marks gap c rest, text = marks ++ (gap ++ c :: rest) ∧
    (marks ≠ [] ∧ ∀ m ∈ marks, p m = true) ∧ (gap ≠ [] ∧ Blank gap) ∧ p c = true

/-- The folded form is layered exactly where the text is. -/
theorem Recast.layered (h : Recast text out) (hp : ∀ c, p c = true → isPlain c = true) :
    Layered p text ↔ Layered p out := by
  have hplain : ∀ {marks gap : List Char} {c : Char}, (∀ m ∈ marks, p m = true) → Blank gap →
      p c = true → ∀ m ∈ marks ++ (gap ++ [c]), isPlain m = true := by
    intro marks gap c hm hg hc
    refine List.forall_mem_append.2 ⟨fun m hm' => hp m (hm m hm'), List.forall_mem_append.2 ⟨?_, ?_⟩⟩
    · exact fun m hm' => by rw [isPlain, hg m hm']; rfl
    · exact List.forall_mem_singleton.2 (hp c hc)
  constructor
  · rintro ⟨marks, gap, c, rest, rfl, hm, hg, hc⟩
    have hr : Recast ((marks ++ (gap ++ [c])) ++ rest) out := by simpa using h
    obtain ⟨out', rfl, -⟩ := hr.out_eq (hplain hm.2 hg.2 hc)
    exact ⟨marks, gap, c, out', by simp, hm, hg, hc⟩
  · rintro ⟨marks, gap, c, out', rfl, hm, hg, hc⟩
    have hr : Recast text ((marks ++ (gap ++ [c])) ++ out') := by simpa using h
    obtain ⟨rest, rfl, -⟩ := hr.text_eq (hplain hm.2 hg.2 hc)
    exact ⟨marks, gap, c, rest, by simp, hm, hg, hc⟩

/-! ### Freeing a text of what is around it -/

theorem dropEndWhile_cons (q : Char → Bool) (c : Char) (text : List Char) :
    dropEndWhile q (c :: text) =
      if dropEndWhile q text = [] ∧ q c = true then [] else c :: dropEndWhile q text := by
  unfold dropEndWhile
  rw [List.reverse_cons, List.dropWhile_append]
  cases text.reverse.dropWhile q with
  | nil => cases hq : q c <;> simp [hq]
  | cons d more => simp

theorem dropWhile_append_cons (h : q c = false) (text rest : List Char) :
    (text ++ c :: rest).dropWhile q = text.dropWhile q ++ c :: rest := by
  rw [List.dropWhile_append]
  split
  · rename_i he
    rw [List.isEmpty_iff.1 he, List.dropWhile_cons_of_neg (by simp [h]), List.nil_append]
  · rfl

theorem dropEndWhile_append_cons (h : q c = false) (text rest : List Char) :
    dropEndWhile q (text ++ c :: rest) = text ++ c :: dropEndWhile q rest := by
  unfold dropEndWhile
  rw [List.reverse_append, List.reverse_cons, List.append_assoc, List.singleton_append,
    dropWhile_append_cons h]
  simp

/-- What is dropped at one end makes no difference at the other one. -/
theorem dropEndWhile_dropWhile (p q : Char → Bool) (text : List Char) :
    dropEndWhile q (text.dropWhile p) = (dropEndWhile q text).dropWhile p := by
  induction text with
  | nil => rfl
  | cons c text ih =>
    rw [dropEndWhile_cons]
    cases hc : p c with
    | true =>
      rw [List.dropWhile_cons_of_pos hc, ih]
      split
      · rename_i he
        rw [he.1]
      · rw [List.dropWhile_cons_of_pos hc]
    | false =>
      rw [List.dropWhile_cons_of_neg (by simp [hc]), dropEndWhile_cons]
      split
      · rfl
      · rw [List.dropWhile_cons_of_neg (by simp [hc])]

theorem reverse_dropEndWhile (q : Char → Bool) (text : List Char) :
    (dropEndWhile q text).reverse = text.reverse.dropWhile q := List.reverse_reverse _

theorem reverse_dropWhile (p : Char → Bool) (text : List Char) :
    (text.dropWhile p).reverse = dropEndWhile p text.reverse := by
  rw [dropEndWhile, List.reverse_reverse]

theorem reverse_trim (text : List Char) : (trim text).reverse = trim text.reverse := by
  rw [trim, trimBack, trimFront, reverse_dropEndWhile, reverse_dropWhile, ← dropEndWhile_dropWhile]
  rfl

/-- A text without marks of one kind at its front and of another kind at its end, and then without
white space. -/
def tidy (p q : Char → Bool) (text : List Char) : List Char :=
  trim (dropEndWhile q (text.dropWhile p))

theorem reverse_tidy (p q : Char → Bool) (text : List Char) :
    (tidy p q text).reverse = tidy q p text.reverse := by
  rw [tidy, reverse_trim, reverse_dropEndWhile, reverse_dropWhile, ← dropEndWhile_dropWhile]
  rfl

theorem exists_dropEndWhile (q : Char → Bool) (text : List Char) :
    ∃ marks, text = dropEndWhile q text ++ marks := by
  obtain ⟨marks, hm⟩ := List.dropWhile_suffix (l := text.reverse) q
  exact ⟨marks.reverse, by rw [dropEndWhile, ← List.reverse_append, hm, List.reverse_reverse]⟩

/-- What the marks at the front leave is what is kept, with white space before it. -/
theorem exists_tidy (p q : Char → Bool) (text : List Char) :
    ∃ gap rest, Blank gap ∧ text.dropWhile p = gap ++ (tidy p q text ++ rest) := by
  obtain ⟨marks, hm⟩ := exists_dropEndWhile q (text.dropWhile p)
  obtain ⟨gap, back, hg, -, hv, -⟩ := exists_margins (dropEndWhile q (text.dropWhile p))
  refine ⟨gap, back ++ marks, hg, ?_⟩
  calc text.dropWhile p = dropEndWhile q (text.dropWhile p) ++ marks := hm
    _ = (gap ++ (tidy p q text ++ back)) ++ marks := by rw [tidy, ← hv]
    _ = gap ++ (tidy p q text ++ (back ++ marks)) := by simp only [List.append_assoc]

/-- A mark is left at the front exactly when the text is layered there. -/
theorem head_tidy (hp : ∀ c, p c = true → q c = false ∧ isBlank c = false)
    (ht : ∀ c ∈ text.head?, isBlank c = false) :
    (∃ c ∈ (tidy p q text).head?, p c = true) ↔ Layered p text := by
  constructor
  · rintro ⟨c, hc, hpc⟩
    obtain ⟨gap, rest, hg, hdrop⟩ := exists_tidy p q text
    obtain ⟨more, hmore⟩ := List.head?_eq_some_iff.1 hc
    rw [hmore, List.cons_append] at hdrop
    have hn := List.head?_dropWhile_not p text
    rw [hdrop] at hn
    -- the mark is not the first character after the marks at the front, so there is a gap before it
    have hgap : gap ≠ [] := by
      rintro rfl
      cases hn.symm.trans hpc
    have htext : text = text.takeWhile p ++ (gap ++ c :: (more ++ rest)) := by
      rw [← hdrop, List.takeWhile_append_dropWhile]
    have hmarks : text.takeWhile p ≠ [] := by
      intro hnil
      obtain ⟨g, gap, rfl⟩ := List.exists_cons_of_ne_nil hgap
      rw [hnil] at htext
      cases (ht g (by rw [htext]; rfl)).symm.trans hg.head
    exact ⟨text.takeWhile p, gap, c, _, htext, ⟨hmarks, List.all_eq_true.1 List.all_takeWhile⟩,
      ⟨hgap, hg⟩, hpc⟩
  · rintro ⟨marks, gap, c, rest, rfl, hm, ⟨hne, hg⟩, hc⟩
    refine ⟨c, ?_, hc⟩
    obtain ⟨g, gap, rfl⟩ := List.exists_cons_of_ne_nil hne
    have hpg : p g = false := by
      rw [← Bool.not_eq_true]
      exact fun h => Bool.false_ne_true ((hp g h).2.symm.trans hg.head)
    rw [tidy, List.dropWhile_append_of_pos hm.2, List.cons_append,
      List.dropWhile_cons_of_neg (by simp [hpg]), ← List.cons_append,
      dropEndWhile_append_cons (hp c hc).1, trim_blank_append hg]
    exact head_trim_cons (hp c hc).2 _

/-- Nothing is dropped from a text only if it begins with neither white space nor a mark. -/
theorem head_of_tidy_eq (h : tidy p q text = text) :
    ∀ c ∈ text.head?, isBlank c = false ∧ p c = false := by
  intro c hc
  obtain ⟨gap, rest, -, hdrop⟩ := exists_tidy p q text
  have hlen : text.length ≤ (text.dropWhile p).length := by
    rw [hdrop, h, List.length_append, List.length_append]
    omega
  have hkeep : text.dropWhile p = text := (List.dropWhile_suffix p).eq_of_length_le hlen
  have ht : (trim (dropEndWhile q (text.dropWhile p))).head? = some c := by rwa [← tidy, h]
  refine ⟨head_trim ht, ?_⟩
  have hn := List.head?_dropWhile_not p text
  rwa [hkeep, show text.head? = some c from hc] at hn

/-- Nothing is dropped from a text exactly when there is nothing around it. -/
theorem tidy_eq_self :
    tidy p q text = text ↔
      (∀ c ∈ text.head?, isBlank c = false ∧ p c = false) ∧
        ∀ c ∈ text.getLast?, isBlank c = false ∧ q c = false := by
  have hkeep : ∀ {p : Char → Bool} {text : List Char}, (∀ c ∈ text.head?, p c = false) →
      text.dropWhile p = text := by
    intro p text h
    cases text with
    | nil => rfl
    | cons c text => exact List.dropWhile_cons_of_neg (by simp [h c rfl])
  constructor
  · intro h
    refine ⟨head_of_tidy_eq h, fun c hc => ?_⟩
    have hr : tidy q p text.reverse = text.reverse := by rw [← reverse_tidy, h]
    exact head_of_tidy_eq hr c (by rwa [List.head?_reverse])
  · rintro ⟨hfront, hback⟩
    have hend : dropEndWhile q text = text := by
      rw [dropEndWhile, hkeep fun c hc => (hback c (by rwa [List.head?_reverse] at hc)).2,
        List.reverse_reverse]
    rw [tidy, hkeep fun c hc => (hfront c hc).2, hend]
    exact trim_of_firm (fun c hc => (hfront c hc).1) fun c hc => (hback c hc).1

/-! ### Normal forms -/

/-- The folded form of a text. -/
def fold (text : List Char) : List Char := (lower text).map foldAccent

theorem normalizeChars_eq (text : List Char) :
    normalizeChars text = tidy isOpeningMark isAsciiMark (fold (trim text)) := rfl

theorem recast_fold (text : List Char) : Recast text (fold text) := recast_lowerAfter [] text

/-- What is folded already stays as it is. -/
theorem fold_of_folded (h : ∀ c ∈ text, IsFolded c) : fold text = text := by
  have hlower : ∀ (before text : List Char), (∀ c ∈ text, IsFolded c) →
      (lowerAfter before text).map foldAccent = text := by
    intro before text h
    induction text generalizing before with
    | nil => rfl
    | cons c text ih =>
      obtain ⟨⟨hc, ha⟩, ht⟩ := List.forall_mem_cons.1 h
      have hne : c ≠ 'Σ' := by
        rintro rfl
        exact lowerChar_sigma.2.2 hc
      rw [lowerAfter, if_neg hne, hc, List.map_append, ih _ ht, List.map_singleton, ha]
      rfl
  exact hlower [] text h

theorem mem_of_mem_dropEndWhile (h : c ∈ dropEndWhile q text) : c ∈ text := by
  obtain ⟨marks, hm⟩ := exists_dropEndWhile q text
  rw [hm]
  exact List.mem_append_left _ h

theorem mem_of_mem_trim (h : c ∈ trim text) : c ∈ text :=
  (List.dropWhile_sublist _).mem (mem_of_mem_dropEndWhile h)

theorem folded_normalizeChars (text : List Char) : ∀ c ∈ normalizeChars text, IsFolded c :=
  fun c hc => (recast_fold (trim text)).folded c
    ((List.dropWhile_sublist _).mem (mem_of_mem_dropEndWhile (mem_of_mem_trim hc)))

theorem trim_trim (text : List Char) : trim (trim text) = trim text := by
  obtain ⟨-, -, -, -, -, hfirm⟩ := exists_margins text
  exact trim_of_firm (fun c hc => head_trim hc) hfirm

/-- A text that is its own trimmed form has no white space around it. -/
theorem bounds_of_trim_eq (h : trim text = text) :
    (∀ c ∈ text.head?, isBlank c = false) ∧ Firm text := by
  obtain ⟨-, -, -, -, -, hfirm⟩ := exists_margins text
  rw [h] at hfirm
  refine ⟨fun c hc => ?_, hfirm⟩
  have ht : (trim text).head? = some c := by rwa [h]
  exact head_trim ht

/-- A normal form has no white space around it. -/
theorem trim_normalizeChars (text : List Char) : trim (normalizeChars text) = normalizeChars text :=
  trim_trim _

/-- The normal form of a normal form is what is left when the marks around it are dropped. -/
theorem normalizeChars_normalizeChars_eq (text : List Char) :
    normalizeChars (normalizeChars text) =
      tidy isOpeningMark isAsciiMark (normalizeChars text) := by
  rw [normalizeChars_eq (normalizeChars text), trim_normalizeChars,
    fold_of_folded (folded_normalizeChars text)]

theorem not_isBlank_of_isAsciiMark (h : isAsciiMark c = true) :
    isOpeningMark c = false ∧ isBlank c = false := by
  simp only [isAsciiMark, Bool.and_eq_true, decide_eq_true_eq] at h
  have hlow : 33 ≤ c.toNat := h.1.1.1
  have hhigh : c.toNat ≤ 126 := h.1.1.2
  constructor
  · rw [← Bool.not_eq_true]
    intro hc
    simp only [isOpeningMark, Bool.or_eq_true, beq_iff_eq] at hc
    rcases hc with rfl | rfl <;> exact absurd hhigh (by decide)
  · simp only [isBlank, Bool.or_eq_false_iff, Bool.and_eq_false_iff, decide_eq_false_iff_not,
      beq_eq_false_iff_ne, ne_eq]
    omega

theorem not_isBlank_of_isOpeningMark (h : isOpeningMark c = true) :
    isAsciiMark c = false ∧ isBlank c = false := by
  simp only [isOpeningMark, Bool.or_eq_true, beq_iff_eq] at h
  rcases h with rfl | rfl <;> decide

/-- A normal form begins with an opening mark exactly when the text is layered at its front. -/
theorem head_normalizeChars (text : List Char) :
    (∃ c ∈ (normalizeChars text).head?, isOpeningMark c = true) ↔
      Layered isOpeningMark (trim text) := by
  have hr := recast_fold (trim text)
  rw [normalizeChars_eq, head_tidy (fun c => not_isBlank_of_isOpeningMark)
    (hr.head fun c hc => head_trim hc)]
  exact (hr.layered fun c hc => by rw [isPlain, hc, Bool.or_true]; rfl).symm

/-- A normal form ends with a mark exactly when the text is layered at its end. -/
theorem getLast_normalizeChars (text : List Char) :
    (∃ c ∈ (normalizeChars text).getLast?, isAsciiMark c = true) ↔
      Layered isAsciiMark (trim text).reverse := by
  have hr := (recast_fold (trim text)).reverse
  obtain ⟨-, -, -, -, -, hfirm⟩ := exists_margins text
  rw [← List.head?_reverse, normalizeChars_eq, reverse_tidy,
    head_tidy (fun c => not_isBlank_of_isAsciiMark)
      (hr.head fun c hc => hfirm c (by rwa [List.head?_reverse] at hc))]
  exact (hr.layered fun c hc => by rw [isPlain, hc, Bool.or_true]).symm

/-- **A normal form is its own normal form exactly when the text is layered at neither end.** -/
theorem normalizeChars_normalizeChars (text : List Char) :
    normalizeChars (normalizeChars text) = normalizeChars text ↔
      ¬Layered isOpeningMark (trim text) ∧ ¬Layered isAsciiMark (trim text).reverse := by
  obtain ⟨hhead, hfirm⟩ := bounds_of_trim_eq (trim_normalizeChars text)
  rw [normalizeChars_normalizeChars_eq, tidy_eq_self, ← head_normalizeChars,
    ← getLast_normalizeChars]
  simp only [not_exists, not_and, Bool.not_eq_true]
  exact and_congr (forall₂_congr fun c hc => and_iff_right (hhead c hc))
    (forall₂_congr fun c hc => and_iff_right (hfirm c hc))

/-- White space around a text does not change its normal form. -/
theorem normalize_trim (text : String) :
    normalize (String.ofList (trim text.toList)) = normalize text := by
  rw [normalize, String.toList_ofList, normalizeChars_eq, trim_trim, ← normalizeChars_eq, normalize]

/-- Whether a text is layered at neither end. -/
def IsFlat (text : String) : Prop :=
  ¬Layered isOpeningMark (trim text.toList) ∧ ¬Layered isAsciiMark (trim text.toList).reverse

theorem normalize_normalize (text : String) :
    normalize (normalize text) = normalize text ↔ IsFlat text := by
  rw [IsFlat, ← normalizeChars_normalizeChars, normalize, normalize, String.ofList_inj,
    String.toList_ofList]

/-! ### Marks at the end -/

section Marks

variable {marks : List Char}

/-- What follows a text makes no difference to its case when none of it is a cased letter. -/
theorem meetsCased_append (h : ∀ m ∈ marks, isCased m = false) (text : List Char) :
    meetsCased (text ++ marks) = meetsCased text := by
  unfold meetsCased
  rw [List.dropWhile_append]
  cases ht : text.dropWhile isCaseIgnorable with
  | nil =>
    cases hd : marks.dropWhile isCaseIgnorable with
    | nil => rfl
    | cons c rest =>
      exact h c ((List.dropWhile_sublist _).mem (by rw [hd]; exact List.mem_cons_self))
  | cons c rest => rfl

theorem lowerAfter_append (h : ∀ m ∈ marks, isCased m = false) (before text : List Char) :
    lowerAfter before (text ++ marks) =
      lowerAfter before text ++ lowerAfter (text.reverse ++ before) marks := by
  induction text generalizing before with
  | nil => rfl
  | cons c text ih =>
    rw [List.cons_append, lowerAfter, lowerAfter, ih, meetsCased_append h, List.append_assoc,
      List.reverse_cons, List.append_assoc, List.singleton_append]

theorem fold_append (h : ∀ m ∈ marks, isAsciiMark m = true) (text : List Char) :
    fold (text ++ marks) = fold text ++ marks := by
  have hmarks : ∀ before, (lowerAfter before marks).map foldAccent = marks := by
    intro before
    have hr : Recast (marks ++ []) ((lowerAfter before marks).map foldAccent) := by
      rw [List.append_nil]
      exact recast_lowerAfter before marks
    obtain ⟨out', he, hnil⟩ := hr.out_eq fun m hm => by rw [isPlain, h m hm, Bool.or_true]
    cases hnil
    rw [he, List.append_nil]
  have hcased : ∀ m ∈ marks, isCased m = false := fun m hm =>
    isCased_of_isPlain (by rw [isPlain, h m hm, Bool.or_true])
  rw [fold, lower, lowerAfter_append hcased, List.map_append, hmarks]
  rfl

theorem tidy_append (hm : ∀ m ∈ marks, q m = true ∧ p m = false) (text : List Char) :
    tidy p q (text ++ marks) = tidy p q text := by
  have hfront : (text ++ marks).dropWhile p = text.dropWhile p ++ marks := by
    rw [List.dropWhile_append]
    split
    · rename_i he
      rw [List.isEmpty_iff.1 he, List.nil_append]
      cases marks with
      | nil => rfl
      | cons m marks => exact List.dropWhile_cons_of_neg (by simp [(hm m List.mem_cons_self).2])
    · rfl
  have hback : dropEndWhile q (text.dropWhile p ++ marks) = dropEndWhile q (text.dropWhile p) := by
    rw [dropEndWhile, List.reverse_append,
      List.dropWhile_append_of_pos fun m h => (hm m (List.mem_reverse.1 h)).1]
    rfl
  rw [tidy, hfront, hback, tidy]

theorem trim_append_marks (h : ∀ m ∈ marks, isAsciiMark m = true) (text : List Char) :
    trim (trim text ++ marks) = trim text ++ marks := by
  rcases List.eq_nil_or_concat marks with rfl | ⟨most, m, rfl⟩
  · rw [List.append_nil, trim_trim]
  · refine trim_of_firm (fun c hc => ?_) ?_
    · cases ht : trim text with
      | nil =>
        rw [ht, List.nil_append] at hc
        exact (not_isBlank_of_isAsciiMark (h c (List.mem_of_mem_head? hc))).2
      | cons d rest =>
        rw [ht, List.cons_append, List.head?_cons] at hc
        have hd : (trim text).head? = some c := by rw [ht, ← hc]; rfl
        exact head_trim hd
    · rw [List.concat_eq_append, ← List.append_assoc]
      exact firm_concat _ (not_isBlank_of_isAsciiMark (h m (by simp))).2

/-- Marks at the end of a text make no difference to its normal form. -/
theorem normalizeChars_append (h : ∀ m ∈ marks, isAsciiMark m = true) (text : List Char) :
    normalizeChars (trim text ++ marks) = normalizeChars text := by
  rw [normalizeChars_eq, trim_append_marks h, fold_append h,
    tidy_append fun m hm => ⟨h m hm, (not_isBlank_of_isAsciiMark (h m hm)).1⟩, normalizeChars_eq]

theorem normalize_append (text : String) (n : Nat) :
    normalize (String.ofList (trim text.toList ++ List.replicate n '!')) = normalize text := by
  have hm : ∀ m ∈ List.replicate n '!', isAsciiMark m = true := by
    intro m hm
    rw [List.eq_of_mem_replicate hm]
    decide
  rw [normalize, String.toList_ofList, normalizeChars_append hm, normalize]

end Marks

end Dialogue.Text

import Dialogue.Proofs.Template.Braces
import Dialogue.Proofs.Template.Names

/-!
# Texts and tokens

A template is a row of texts without braces and of tokens that hold no braces. Cutting it into pieces
gives back the row, so what is prepared or substituted of it is made of what is made of each part.

* `tokenize_token`, `tokenize_text`: the pieces of a token and of a text, whatever follows.
* `singleToken?_token`: what a text holds that is a single token.
-/

namespace Dialogue

namespace Template

open Text

variable {cs inner text rest : List Char} {c : Char}

/-! ### White space in tags -/

/-- White space beside the parts of a token. -/
structure Margin where
  chars : List Char
  blank : chars.all isBlank = true

theorem Margin.blank_chars (m : Margin) : Blank m.chars := List.all_eq_true.1 m.blank

/-- White space at both ends of what a tag holds. -/
structure Margins where
  front : Margin
  back : Margin

/-- What a tag holds, with white space around it. -/
def Margins.around (m : Margins) (inner : List Char) : List Char :=
  m.front.chars ++ (inner ++ m.back.chars)

theorem Margins.trim_around (m : Margins) (h : trim inner = inner) : trim (m.around inner) = inner := by
  rw [around, trim_blank_append m.front.blank_chars, trim_append _ m.back.blank_chars, h]

theorem Margins.not_mem_around (m : Margins) (hc : isBlank c = false) (h : c ∉ inner) :
    c ∉ m.around inner := by
  have hblank : ∀ m : Margin, c ∉ m.chars := by
    intro m hm
    rw [m.blank_chars c hm] at hc
    cases hc
  simp [around, hblank, h]

/-! ### Pieces -/

theorem tokenizeFrom_append (cs rest : List Char) :
    tokenizeFrom cs.length (cs ++ rest) = tokenize rest := by
  induction cs with
  | nil => rfl
  | cons c cs ih => exact ih

/-- A token is a piece of its own. -/
theorem tokenize_token (h : '\x7d' ∉ inner) (rest : List Char) :
    tokenize (token inner ++ rest) = .token inner :: tokenize rest := by
  have hcut : cut? closeMark (inner ++ (closeMark ++ rest)) = some (inner, rest) :=
    cut?_append_mark h _ rest
  have hskip : tokenizeFrom (inner.length + 3) ('\x7b' :: (inner ++ (closeMark ++ rest))) =
      tokenize rest := by
    have := tokenizeFrom_append ('\x7b' :: (inner ++ closeMark)) rest
    rwa [List.length_cons, List.length_append, List.cons_append, List.append_assoc] at this
  have happ : token inner ++ rest = '\x7b' :: '\x7b' :: (inner ++ (closeMark ++ rest)) := by
    rw [token, List.append_assoc, List.append_assoc]
    rfl
  rw [happ, tokenize, tokenizeFrom,
    show after? openMark ('\x7b' :: '\x7b' :: (inner ++ (closeMark ++ rest))) =
      some (inner ++ (closeMark ++ rest)) from after?_eq_some.2 rfl]
  simp only [hcut, hskip]

theorem hasOpenMark_tail (h : hasOpenMark (c :: text) = false) : hasOpenMark text = false := by
  cases ho : hasOpenMark text with
  | false => rfl
  | true => rw [hasOpenMark_cons.2 (.inr ho)] at h; cases h

theorem begins_of_plain (h : hasOpenMark text = false) : begins openMark text = false := by
  cases text with
  | nil => rfl
  | cons c text =>
    rw [begins]
    cases ha : after? openMark (c :: text) with
    | none => rfl
    | some more =>
      rw [hasOpenMark, occurs, cut?, ha] at h
      cases h

/-- A text in which no tag begins and that changes no tag behind it: it ends neither in an opening
brace nor in a backslash. -/
def isOutside (text : List Char) : Bool :=
  !hasOpenMark text && text.getLast?.all fun c => c != '\x7b' && c != '\\'

theorem isOutside_tail (h : isOutside (c :: text) = true) : isOutside text = true := by
  simp only [isOutside, Bool.and_eq_true, Bool.not_eq_true'] at h ⊢
  refine ⟨hasOpenMark_tail h.1, ?_⟩
  cases text with
  | nil => rfl
  | cons d text => exact List.getLast?_cons_cons ▸ h.2

/-- No tag begins in such a text, whatever follows it. -/
theorem begins_outside (h : isOutside text = true) (hne : text ≠ []) (rest : List Char) :
    begins openMark (text ++ rest) = false := by
  simp only [isOutside, Bool.and_eq_true, Bool.not_eq_true'] at h
  obtain ⟨hopen, hlast⟩ := h
  match text with
  | [c] =>
    have hc : ¬ '\x7b' = c := by
      rintro rfl
      cases hlast
    simp [begins, openMark, after?, hc]
  | c :: d :: text =>
    have hpair : ¬('\x7b' = c ∧ '\x7b' = d) := by
      rintro ⟨rfl, rfl⟩
      rw [hasOpenMark_cons.2 (.inl ⟨rfl, rfl⟩)] at hopen
      cases hopen
    by_cases hc : '\x7b' = c
    · have hd : ¬ '\x7b' = d := fun hd => hpair ⟨hc, hd⟩
      simp [begins, openMark, after?, hd]
    · simp [begins, openMark, after?, hc]

/-- Each character of a text outside of tags is a piece of its own. -/
theorem tokenize_text (h : isOutside text = true) (rest : List Char) :
    tokenize (text ++ rest) = text.map .char ++ tokenize rest := by
  induction text with
  | nil => rfl
  | cons c text ih =>
    have ha : after? openMark (c :: (text ++ rest)) = none := by
      have := begins_outside h (List.cons_ne_nil c text) rest
      simpa [begins] using this
    rw [List.cons_append, tokenize, tokenizeFrom, ha]
    exact congrArg (Piece.char c :: ·) (ih (isOutside_tail h))

/-- So is each character of a text without tags. -/
theorem tokenize_of_plain (h : hasOpenMark text = false) : tokenize text = text.map .char := by
  induction text with
  | nil => rfl
  | cons c text ih =>
    have ha : after? openMark (c :: text) = none := by
      have := begins_of_plain h
      simpa [begins] using this
    rw [tokenize, tokenizeFrom, ha]
    exact congrArg (Piece.char c :: ·) (ih (hasOpenMark_tail h))

/-- Characters outside of tokens are prepared as they are. -/
theorem prepareFrom_text (scope : Value) (blocks : Blocks) (text : List Char) (more : List Piece) :
    prepareFrom scope blocks (text.map .char ++ more) = text ++ prepareFrom scope blocks more := by
  induction text with
  | nil => rfl
  | cons c text ih => exact congrArg (c :: ·) ih

/-! ### Texts without braces -/

theorem hasOpenMark_of_not_mem (h : '\x7b' ∉ cs) : hasOpenMark cs = false := by
  rw [hasOpenMark, occurs, openMark, cut?_of_not_mem h]
  rfl

/-- A text without opening braces is left as it is. -/
theorem sanitize_of_not_mem (h : '\x7b' ∉ cs) : sanitize cs = cs := by
  rw [sanitize, hasOpenMark_of_not_mem h, if_neg Bool.false_ne_true]

theorem hasOpenMark_append (cs : List Char) (h : hasOpenMark rest = true) :
    hasOpenMark (cs ++ rest) = true := by
  induction cs with
  | nil => exact h
  | cons c cs ih =>
    rw [List.cons_append, hasOpenMark, occurs, cut?]
    cases after? openMark (c :: (cs ++ rest)) with
    | some more => rfl
    | none => simpa [hasOpenMark, occurs] using ih

theorem hasOpenMark_token (inner rest : List Char) : hasOpenMark (token inner ++ rest) = true := by
  have ha : after? openMark (token inner ++ rest) = some (inner ++ closeMark ++ rest) :=
    after?_eq_some.2 (by rw [token, List.append_assoc, List.append_assoc, List.append_assoc])
  rw [token, List.append_assoc, List.append_assoc, openMark] at ha ⊢
  rw [List.cons_append] at ha ⊢
  rw [hasOpenMark, occurs, cut?, openMark, ha]
  rfl

/-! ### A single token -/

/-- A text that fails a test fails it at a first character. -/
theorem exists_first {keeps : Char → Bool} (h : ¬cs.all keeps = true) : ∃ front d back,
    cs = front ++ d :: back ∧ (∀ c ∈ front, keeps c = true) ∧ keeps d = false := by
  induction cs with
  | nil => exact absurd rfl h
  | cons c cs ih =>
    cases hc : keeps c with
    | false => exact ⟨[], c, cs, rfl, fun _ hm => absurd hm List.not_mem_nil, hc⟩
    | true =>
      obtain ⟨front, d, back, rfl, hfront, hd⟩ := ih fun ha => h (by rw [List.all_cons, hc, ha]; rfl)
      exact ⟨c :: front, d, back, rfl, List.forall_mem_cons.2 ⟨hc, hfront⟩, hd⟩

/-- What a single token holds is found unless there is a mark of blocks in it. -/
theorem singleToken?_token (hne : inner ≠ []) (ho : '\x7b' ∉ inner) (hc : '\x7d' ∉ inner) :
    singleToken? (token inner) =
      if inner.any (fun c => c == '#' || c == '/') then none else some inner := by
  let keeps (c : Char) : Bool := !(c == '\x7b' || c == '\x7d' || c == '#' || c == '/')
  have hkeeps : ∀ c ∈ inner, keeps c = !(c == '#' || c == '/') := by
    intro c hm
    have h1 : (c == '\x7b') = false := beq_eq_false_iff_ne.2 fun he => ho (he ▸ hm)
    have h2 : (c == '\x7d') = false := beq_eq_false_iff_ne.2 fun he => hc (he ▸ hm)
    simp only [keeps, h1, h2, Bool.false_or]
  have hrest : after? openMark (trimFront (token inner)) = some (inner ++ closeMark) :=
    after?_eq_some.2 (show token inner = _ from List.append_assoc _ _ _)
  rw [singleToken?, hrest]
  cases ha : inner.any fun c => c == '#' || c == '/' with
  | false =>
    have hall : ∀ c ∈ inner, keeps c = true := fun c hm => by
      rw [hkeeps c hm, List.any_eq_false.1 ha c hm |> Bool.eq_false_iff.2]
      rfl
    have htake : (inner ++ closeMark).takeWhile keeps = inner := by
      rw [List.takeWhile_append_of_pos hall]
      exact List.append_nil inner
    show (after? closeMark ((inner ++ closeMark).drop ((inner ++ closeMark).takeWhile keeps).length)).bind
      _ = some inner
    rw [htake, List.drop_left]
    exact if_pos ⟨hne, rfl⟩
  | true =>
    -- what is kept ends before the first mark
    obtain ⟨front, d, back, rfl, hfront, hd⟩ : ∃ front d back, inner = front ++ d :: back ∧
        (∀ c ∈ front, keeps c = true) ∧ keeps d = false := by
      obtain ⟨d, hd, hmark⟩ := List.any_eq_true.1 ha
      have hstop : ¬inner.all keeps = true := fun hall => by
        have := List.all_eq_true.1 hall d hd
        rw [hkeeps d hd, hmark] at this
        cases this
      exact exists_first hstop
    have htake : (front ++ d :: back ++ closeMark).takeWhile keeps = front := by
      rw [List.append_assoc, List.takeWhile_append_of_pos hfront, List.cons_append,
        List.takeWhile_cons_of_neg (by simp [hd]), List.append_nil]
    have hclose : after? closeMark (d :: (back ++ closeMark)) = none := by
      refine if_neg fun he => hc ?_
      rw [he]
      simp
    show (after? closeMark ((front ++ d :: back ++ closeMark).drop
      ((front ++ d :: back ++ closeMark).takeWhile keeps).length)).bind _ = none
    rw [htake, List.append_assoc, List.drop_left, List.cons_append, hclose]
    rfl

end Template

end Dialogue

import Dialogue.Proofs.Template.Bodies

/-!
# Templates of repeated blocks

A template of texts, tokens with paths and repeated blocks, one in the other to any depth. What is
prepared of it is made part by part; the only thing that depends on the blocks around a token is how
far outward its path is pointed.

* `Markup`: such a template, up to its last text.
* `outward`: how many blocks outward the path of a token is sought.
* `Markup.prepare_written`: what is prepared of a template.
-/

namespace Dialogue.Template

open Text

/-- A template: texts before tokens with a path and before repeated blocks. A block has a body, a
text before its end, and what comes behind it. -/
inductive Markup where
  | nil
  | token (before : List Char) (margins : Margins) (p : PlainPath) (more : Markup)
  | each (before : List Char) (opening : Margins) (p : PlainPath) (body : Markup) (last : List Char)
    (closing : Margins) (more : Markup)

/-- What the tag that opens a repeated block holds. -/
def openingChars (p : PlainPath) : List Char := "#each ".toList ++ p.written

/-- What the tag that closes a repeated block holds. -/
def closingChars : List Char := "/each".toList

/-- What a repeated block is taken to repeat over while a template is prepared: its path is sought in
the whole scope, whatever block it stands in. -/
def soughtList (scope : Value) (p : PlainPath) : Value :=
  (Value.resolve scope (' ' :: p.written)).getD .null

/-- How many blocks outward the path of a token is sought, within blocks that are taken to repeat over
these lists, the innermost first. -/
def outward (scope : Value) (lists : List Value) (p : PlainPath) : Nat :=
  if (lists.head?.map (itemHas p.head.text)).getD false ∨ (Value.lookup scope p.written).isNone then 0
  else lists.length

namespace Markup

/-- A template as it is written. -/
def written : Markup → List Char
  | nil => []
  | token before margins p more =>
    before ++ (Template.token (margins.around p.written) ++ more.written)
  | each before opening p body last closing more =>
    before ++ (Template.token (opening.around (openingChars p)) ++ (body.written ++ (last ++
      (Template.token (closing.around closingChars) ++ more.written))))

/-- Whether texts stand outside of tags, and no token begins as the other case of a block does. -/
def isFair : Markup → Bool
  | nil => true
  | token before _ p more => isOutside before && !begins "else".toList p.head.chars && more.isFair
  | each before _ _ body last _ more =>
    isOutside before && body.isFair && isOutside last && more.isFair

/-- What is prepared of a template within blocks that are taken to repeat over these lists. -/
def prepared (scope : Value) : (lists : List Value) → Markup → List Char
  | _, nil => []
  | lists, token before _ p more =>
    before ++ (Template.token (p.reached (outward scope lists p)) ++ prepared scope lists more)
  | lists, each before _ p body last _ more =>
    before ++ (Template.token ("#each ".toList ++ p.dotted) ++
      (prepared scope (soughtList scope p :: lists) body ++ (last ++
        (Template.token closingChars ++ prepared scope lists more))))

end Markup

variable {scope : Value} {lists : List Value} {rest : List Char}

/-! ### Paths of tokens -/

theorem PlainPath.begins_written (p : PlainPath) {mark : List Char}
    (h : ∀ more, p.written ≠ mark ++ more) : begins mark p.written = false := by
  cases ha : after? mark p.written with
  | none => rw [begins, ha]; rfl
  | some more => exact absurd (after?_eq_some.1 ha) (h more)

theorem PlainPath.begins_mark (p : PlainPath) {d : Char} (hd : isNameChar d = false) :
    begins [d] p.written = false := by
  obtain ⟨c, cs, hcons, hn, -⟩ := p.exists_written_eq_cons
  refine p.begins_written fun more he => ?_
  rw [he] at hcons
  cases hcons
  rw [hd] at hn
  cases hn

theorem PlainPath.begins_this (p : PlainPath) : begins "this.".toList p.written = false := by
  refine p.begins_written fun more he => ?_
  obtain ⟨c, cs, hcons, hn⟩ := p.exists_of_after?_written (show "this" ∈ keywords by decide)
    (after?_eq_some.2 (show p.written = "this".toList ++ '.' :: more from he))
  cases hcons
  cases hn

/-- A path within blocks is prepared as a path that is sought so far outward. -/
theorem scopedPath_written (scope : Value) (lists : List Value) (p : PlainPath) :
    scopedPath scope (lists.map some) p.written = p.reached (outward scope lists p) := by
  have hrepeated : (lists.map some).filterMap id = lists := by simp [List.filterMap_map]
  rw [scopedPath, trim_of_solid p.solid_written]
  simp only [hrepeated, p.dotIndices_path, p.written_ne_keyword (show "this" ∈ keywords by decide),
    p.begins_this, p.begins_mark (d := '@') (by decide), p.begins_mark (d := '.') (by decide),
    p.steps_written, PlainPath.steps, Bool.false_eq_true, or_false]
  unfold outward
  by_cases hlen : lists.length = 0
  · rw [if_pos hlen, hlen, ite_self]
    rfl
  · rw [if_neg hlen]
    split <;> rfl

/-! ### What is prepared -/

theorem trim_openingChars (p : PlainPath) : trim (openingChars p) = openingChars p := by
  refine trim_of_firm (fun c hc => by cases hc; rfl) ?_
  obtain ⟨c, cs, h, -⟩ := p.exists_written_eq_cons
  exact firm_append (fun d hd => p.solid_written d (List.mem_of_mem_getLast? hd)) (by simp [h]) _

theorem not_mem_openingChars (p : PlainPath) : '\x7d' ∉ openingChars p := by
  have hpath : '\x7d' ∉ p.written := (Fallback.path p).not_mem_written rfl
  show '\x7d' ∉ "#each ".toList ++ p.written
  simp [hpath]

/-- The tag that opens a repeated block is prepared as it is, with dots before brackets, and what it
repeats over is noted. -/
theorem prepareFrom_opening (m : Margins) (p : PlainPath) (blocks : Blocks) (more : List Piece) :
    prepareFrom scope blocks (.token (m.around (openingChars p)) :: more) =
      token ("#each ".toList ++ p.dotted) ++
        prepareFrom scope (some (soughtList scope p) :: blocks) more := by
  have hdots : dotIndices (openingChars p) = "#each ".toList ++ p.dotted := by
    show dotIndices ("#each ".toList ++ p.written) = _
    rw [dotIndices_append (by decide), p.dotIndices_path]
  have hlist : after? "#each".toList (openingChars p) = some (' ' :: p.written) :=
    after?_eq_some.2 rfl
  rw [prepareFrom, m.trim_around (trim_openingChars p)]
  simp only [show isControl (openingChars p) = true from rfl, Bool.true_or, if_true, hlist, hdots]
  rfl

/-- The tag that closes a block is prepared as it is. -/
theorem prepareFrom_closing (m : Margins) (blocks : Blocks) (more : List Piece) :
    prepareFrom scope blocks (.token (m.around closingChars) :: more) =
      token closingChars ++ prepareFrom scope blocks.tail more := by
  rw [prepareFrom, m.trim_around (show trim closingChars = closingChars by decide)]
  rfl

/-- The path of a token is pointed outward. -/
theorem prepareFrom_token (m : Margins) (p : PlainPath) (more : List Piece) :
    prepareFrom scope (lists.map some) (.token (m.around p.written) :: more) =
      token (p.reached (outward scope lists p)) ++ prepareFrom scope (lists.map some) more := by
  have hcontrol := (TokenBody.mk m.front p none m.back).isControl_core
  have hsplit := (TokenBody.mk m.front p none m.back).splitFallback_core
  rw [TokenBody.core_none _ rfl] at hcontrol hsplit
  rw [prepareFrom, m.trim_around (trim_of_solid p.solid_written)]
  simp only [hcontrol, decide_eq_false (p.written_ne_keyword (show "else" ∈ keywords by decide)),
    Bool.or_self, Bool.false_eq_true, if_false, hsplit, Option.map_none, scopedPath_written]

namespace Markup

/-- What is prepared of a template, whatever follows it. -/
theorem prepareFrom_written (m : Markup) (hm : m.isFair = true) (lists : List Value)
    (rest : List Char) :
    prepareFrom scope (lists.map some) (tokenize (m.written ++ rest)) =
      m.prepared scope lists ++ prepareFrom scope (lists.map some) (tokenize rest) := by
  induction m generalizing lists rest with
  | nil => rfl
  | token before margins p more ih =>
    simp only [isFair, Bool.and_eq_true] at hm
    obtain ⟨⟨hbefore, -⟩, hmore⟩ := hm
    have hclose : '\x7d' ∉ margins.around p.written :=
      margins.not_mem_around (by decide) ((Fallback.path p).not_mem_written rfl)
    rw [written, List.append_assoc, tokenize_text hbefore, prepareFrom_text, List.append_assoc,
      tokenize_token hclose, prepareFrom_token, ih hmore, prepared]
    simp only [List.append_assoc]
  | each before opening p body last closing more ihBody ihMore =>
    simp only [isFair, Bool.and_eq_true] at hm
    obtain ⟨⟨⟨hbefore, hbody⟩, hlast⟩, hmore⟩ := hm
    have hopening := opening.not_mem_around (by decide) (not_mem_openingChars p)
    have hclosing : '\x7d' ∉ closing.around closingChars :=
      closing.not_mem_around (by decide) (by decide)
    rw [written, List.append_assoc, tokenize_text hbefore, prepareFrom_text, List.append_assoc,
      tokenize_token hopening, prepareFrom_opening, List.append_assoc, ← List.map_cons,
      ihBody hbody, List.append_assoc, tokenize_text hlast, prepareFrom_text, List.append_assoc,
      tokenize_token hclosing, prepareFrom_closing, List.map_cons, List.tail_cons, ihMore hmore,
      prepared]
    simp only [List.append_assoc]

/-- What is prepared of a whole template. -/
theorem prepare_written (m : Markup) (hm : m.isFair = true) {last : List Char}
    (hl : hasOpenMark last = false) :
    prepare scope (m.written ++ last) = m.prepared scope [] ++ last := by
  have htext := prepareFrom_text scope [] last []
  rw [List.append_nil, show prepareFrom scope [] [] = [] from rfl, List.append_nil] at htext
  rw [prepare, show ([] : Blocks) = ([] : List Value).map some from rfl, m.prepareFrom_written hm,
    tokenize_of_plain hl, List.map_nil, htext]

end Markup

end Dialogue.Template

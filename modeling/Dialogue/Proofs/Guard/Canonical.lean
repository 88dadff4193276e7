import Dialogue.Proofs.Guard.Layouts

/-!
# Guards in canonical form

A guard that has been read is written in its canonical form: each predicate in the canonical layout,
with one blank at both sides of each junction. That form is cut at the same junctions as the text
the guard has been read from. Within a predicate the text is in the middle of the same things in all
layouts, so what was shielded stays shielded, and where the text was in the open it still is.

* `Guard.Layout.isFree_after_text`: all layouts leave the text in the open, or none does.
* `Guard.Layout.sealed_canonical`: when no junction begins in the open within a layout, none does
  within the canonical one.
* `Guard.readPieces_canonical`: a guard that has been read from pieces is read from its canonical
  form.
* `Guard.accepts_read`: what is known of each guard that has been read.
-/

namespace Dialogue.Guard

open Text

variable {p : Predicate} {c : Char} {a b k k' text rest rest' : List Char}

/-! ### Modes in a predicate -/

namespace Mode

variable {m : Mode}

theorem SameMarks.symm (h : SameMarks a b) : SameMarks b a := fun mark => (h mark).symm

theorem SameMarks.trans (h : SameMarks a b) (h' : SameMarks b k) : SameMarks a k := fun mark =>
  (h mark).trans (h' mark)

theorem sameMarks_append (h : ∀ c ∈ a, c ≠ '"' ∧ c ≠ '\'') (b : List Char) :
    SameMarks (a ++ b) b := by
  rintro ⟨c, rfl | rfl⟩
  · simpa using fun hc => absurd rfl (h _ hc).1
  · simpa using fun hc => absurd rfl (h _ hc).2

theorem braced_after (h : ∀ c ∈ text, Bare c) (rest : List Char) :
    braced.after text rest = braced := by
  induction text with
  | nil => rfl
  | cons c text ih =>
    have hc : braced.next c (text ++ rest) = braced := if_neg (h c List.mem_cons_self).2.1
    rw [after_cons, hc, ih fun d hd => h d (List.mem_cons_of_mem c hd)]

theorem quoted_after (h : ∀ c ∈ text, Bare c) (mark : QuoteMark) (rest : List Char) :
    (quoted mark).after text rest = quoted mark := by
  induction text with
  | nil => rfl
  | cons c text ih =>
    have hne : c ≠ mark := by
      have hc := h c List.mem_cons_self
      rcases mark.2 with hm | hm <;> rw [hm]
      · exact hc.2.2.1
      · exact hc.2.2.2
    have hc : (quoted mark).next c (text ++ rest) = quoted mark := if_neg hne
    rw [after_cons, hc, ih fun d hd => h d (List.mem_cons_of_mem c hd)]

/-- White space leaves the start of a text as it is. -/
theorem start_after_blank (h : Blank text) (rest : List Char) : start.after text rest = start := by
  induction text with
  | nil => rfl
  | cons c text ih =>
    rw [after_cons, next_of_isFree (bare_of_blank h.head) rfl, h.head]
    exact ih h.tail

/-- The mode after closing braces: a quotation goes on, anything else is closed. -/
def closed : Mode → Mode
  | quoted mark => quoted mark
  | _ => free false

/-- The mode after white space behind closing braces. -/
def spaced : Mode → Mode
  | quoted mark => quoted mark
  | _ => free true

theorem next_brace_of_isFree (h : m.isFree = true) (rest : List Char) :
    m.next '\x7d' rest = free false := by
  cases m with
  | free b => rfl
  | curl => rfl
  | _ => cases h

theorem after_braces (ha : Blank a) (m : Mode) (rest : List Char) :
    m.after (a ++ ['\x7d', '\x7d']) rest = m.closed := by
  have hbare : ∀ c ∈ a, Bare c := fun c hc => bare_of_blank (ha c hc)
  have hopen : m.isFree = true → m.after (a ++ ['\x7d', '\x7d']) rest = free false := fun hm => by
    have hfree : (m.after a (['\x7d', '\x7d'] ++ rest)).isFree = true := by
      rw [isFree_after hbare, hm]
    rw [after_append, after_cons, next_brace_of_isFree hfree]
    rfl
  cases m with
  | free b => exact hopen rfl
  | curl => exact hopen rfl
  | braced =>
    rw [after_append, braced_after hbare]
    rfl
  | half =>
    cases a with
    | nil => rfl
    | cons c a =>
      have hc : half.next c (a ++ ['\x7d', '\x7d'] ++ rest) = braced :=
        if_neg (hbare c List.mem_cons_self).2.1
      rw [List.cons_append, after_cons, hc, after_append,
        braced_after fun d hd => hbare d (List.mem_cons_of_mem c hd)]
      rfl
  | quoted mark =>
    have hmark : ∀ rest, (quoted mark).next '\x7d' rest = quoted mark := fun rest => by
      have hne : ('\x7d' : Char) ≠ mark := by
        rcases mark.2 with hm | hm <;> (rw [hm]; decide)
      exact if_neg hne
    rw [after_append, quoted_after hbare, after_cons, hmark, after_cons, hmark]
    rfl

theorem isFree_closed (m : Mode) : m.closed.isFree = m.spaced.isFree := by
  cases m <;> rfl

theorem closed_after_concat (h : ∀ c ∈ text, Bare c) (hc : isBlank c = true) (m : Mode)
    (rest : List Char) : m.closed.after (text ++ [c]) rest = m.spaced := by
  cases m with
  | quoted mark =>
    refine quoted_after (fun d hd => ?_) mark rest
    rcases List.mem_append.1 hd with hd | hd
    · exact h d hd
    · rw [List.mem_singleton.1 hd]
      exact bare_of_blank hc
  | _ => exact after_concat_blank h hc rfl rest

end Mode

namespace Layout

/-- What stands between the variable and the value, but for the white space before the value. -/
def lead (l : Layout p) : List Char := l.back ++ ['\x7d', '\x7d'] ++ (l.before ++ l.operator)

theorem rest_eq (l : Layout p) : l.rest = l.lead ++ (l.gap ++ valueText p) := by
  simp [rest, tail, lead]

theorem text_eq (l : Layout p) :
    l.text = ['\x7b', '\x7b'] ++ l.front ++ (p.subject.toList ++ l.rest) := by
  simp [text]

theorem bare_before (l : Layout p) : ∀ c ∈ l.before ++ l.operator, Mode.Bare c := by
  intro c hc
  rcases List.mem_append.1 hc with hc | hc
  · exact Mode.bare_of_blank (l.blank_before c hc)
  · exact l.spelled.bare c hc

/-- The quotation marks behind the variable are those of the value. -/
theorem sameMarks_rest (l : Layout p) : Mode.SameMarks l.rest (valueText p) := by
  have hbrace : ∀ c ∈ ['\x7d', '\x7d'], c ≠ '"' ∧ c ≠ '\'' := by simp
  rw [rest_eq, ← List.append_assoc]
  refine Mode.sameMarks_append (fun c hc => ?_) _
  simp only [lead, List.append_assoc, List.mem_append] at hc
  rcases hc with hc | hc | hc | hc | hc
  · exact (Mode.bare_of_blank (l.blank_back c hc)).2.2
  · exact hbrace c hc
  · exact (Mode.bare_of_blank (l.blank_before c hc)).2.2
  · exact (l.spelled.bare c hc).2.2
  · exact (Mode.bare_of_blank (l.blank_gap c hc)).2.2

theorem sameMarks_text (l : Layout p) :
    Mode.SameMarks l.text (p.subject.toList ++ valueText p) := by
  have hfront : ∀ c ∈ ['\x7b', '\x7b'] ++ l.front, c ≠ '"' ∧ c ≠ '\'' := by
    intro c hc
    rcases List.mem_append.1 hc with hc | hc
    · have hbrace : ∀ c ∈ ['\x7b', '\x7b'], c ≠ '"' ∧ c ≠ '\'' := by simp
      exact hbrace c hc
    · exact (Mode.bare_of_blank (l.blank_front c hc)).2.2
  rw [text_eq]
  exact (Mode.sameMarks_append hfront _).trans ((Mode.SameMarks.refl _).append l.sameMarks_rest)

/-- The variable stands in braces. -/
theorem after_front (l : Layout p) (rest : List Char) :
    Mode.start.after (['\x7b', '\x7b'] ++ l.front) rest = .braced := by
  have hbraces : Mode.start.after ['\x7b', '\x7b'] (l.front ++ rest) = .braced := rfl
  rw [Mode.after_append, hbraces]
  exact Mode.braced_after (fun c hc => Mode.bare_of_blank (l.blank_front c hc)) rest

/-- The mode after the variable of a predicate, with what comes after the predicate. -/
def inside (p : Predicate) (k : List Char) : Mode :=
  Mode.braced.after p.subject.toList (valueText p ++ k)

/-- After the variable all layouts are in the middle of the same. -/
theorem after_subject (l : Layout p) (k : List Char) :
    Mode.braced.after p.subject.toList (l.rest ++ k) = inside p k :=
  Mode.after_congr (l.sameMarks_rest.append (Mode.SameMarks.refl k)) _ _

theorem inside_congr (h : Mode.SameMarks k k') (p : Predicate) : inside p k = inside p k' :=
  Mode.after_congr ((Mode.SameMarks.refl _).append h) _ _

theorem after_lead (l : Layout p) (m : Mode) (rest : List Char) :
    m.after l.lead rest = m.closed.after (l.before ++ l.operator) rest := by
  rw [lead, Mode.after_append, Mode.after_braces l.blank_back]

theorem isFree_after_lead (l : Layout p) (m : Mode) (rest : List Char) :
    (m.after l.lead rest).isFree = m.spaced.isFree := by
  rw [after_lead, Mode.isFree_after l.bare_before, Mode.isFree_closed]

/-- Before the white space in front of a value, or none, and the value itself. -/
theorem after_gap (l : Layout p) (m : Mode) {gap : List Char} (hg : Blank (gap ++ [c]))
    (rest : List Char) :
    (m.after l.lead (gap ++ [c] ++ rest)).after (gap ++ [c]) rest = m.spaced := by
  have hbare : ∀ d ∈ l.before ++ l.operator ++ gap, Mode.Bare d := by
    intro d hd
    rcases List.mem_append.1 hd with hd | hd
    · exact l.bare_before d hd
    · exact Mode.bare_of_blank (hg d (List.mem_append_left _ hd))
  rw [after_lead, ← Mode.after_append, ← List.append_assoc]
  exact Mode.closed_after_concat hbare (hg c (by simp)) m rest

/-- **All layouts of a predicate leave the text in the open, or none does.** -/
theorem isFree_after_text (l : Layout p) (k : List Char) :
    (Mode.start.after l.text k).isFree =
      ((inside p k).spaced.after (valueText p) k).isFree := by
  have htext : Mode.start.after l.text k =
      ((inside p k).after l.lead (l.gap ++ valueText p ++ k)).after (l.gap ++ valueText p) k := by
    rw [text_eq, Mode.after_append, after_front, Mode.after_append, after_subject, rest_eq,
      Mode.after_append]
  rw [htext]
  rcases List.eq_nil_or_concat l.gap with hgap | ⟨gap, c, hgap⟩
  · rw [hgap, l.gap_eq_nil.1 hgap]
    exact l.isFree_after_lead _ _
  · rw [List.concat_eq_append] at hgap
    have hg := l.blank_gap
    rw [hgap] at hg ⊢
    rw [Mode.after_append, List.append_assoc (gap ++ [c]), l.after_gap _ hg]

end Layout

/-! ### Junctions in a predicate -/

theorem Joins.append (h : Joins a) (b : List Char) : Joins (a ++ b) := by
  obtain ⟨gap, j, c, rest, rfl, hgap, hg, hc⟩ := h
  exact ⟨gap, j, c, rest ++ b, by simp, hgap, hg, hc⟩

/-- A junction before a bar stands there whatever follows. -/
theorem joins_of_isBar (hc : IsBar c) (h : Joins (a ++ c :: rest)) : Joins a := by
  obtain ⟨j, n, hl⟩ := h.leads
  have hle := hl.le_of_isBar hc
  obtain ⟨gap, tail, more, heq, hgap, htail, hg, ht, -, rfl⟩ := hl
  obtain ⟨d, tail, rfl⟩ := List.exists_cons_of_ne_nil htail
  have hprefix : gap ++ (j.text.toList ++ d :: tail) <+: a := by
    have htext : gap ++ (j.text.toList ++ d :: tail) <+: a ++ c :: rest := ⟨more, by rw [heq]; simp⟩
    refine List.prefix_of_prefix_length_le htext (List.prefix_append a (c :: rest)) ?_
    rw [List.length_append, List.length_append, String.length_toList]
    omega
  obtain ⟨x, rfl⟩ := hprefix
  exact ⟨gap, j, d, tail ++ x, by simp, hgap, hg, ht.head⟩

/-- What follows a predicate in a text and in another one: the same quotation marks, and in the other
one nothing, or white space where there is white space in the first. -/
structure Follow (k k' : List Char) : Prop where
  marks : Mode.SameMarks k k'
  blank : ∀ c ∈ k'.head?, isBlank c = true
  exists_blank : k' ≠ [] → ∃ c rest, k = c :: rest ∧ isBlank c = true

/-- A junction that begins in a firm text depends on what follows only for the white space behind
its word. -/
theorem Joins.of_firm (h : Joins (a ++ k')) (ha : Firm a) (hne : a ≠ []) (hk : Follow k k') :
    Joins (a ++ k) := by
  obtain ⟨gap, j, c, rest, heq, hgap, hg, hc⟩ := h
  have hend : k' = c :: rest → Joins (gap ++ j.text.toList ++ k) := by
    rintro rfl
    obtain ⟨d, rest, rfl, hd⟩ := hk.exists_blank (by simp)
    exact ⟨gap, j, d, rest, by simp, hgap, hg, hd⟩
  rw [← List.append_assoc] at heq
  rcases List.append_eq_append_iff.1 heq with ⟨x, hx, hrest⟩ | ⟨x, rfl, hrest⟩
  · cases x with
    | nil =>
      rw [List.append_nil] at hx
      rw [← hx]
      exact hend hrest
    | cons d x =>
      -- The firm text would end within the white space or the word.
      have hd : isBlank d = true := hk.blank d (by rw [hrest]; rfl)
      rcases List.append_eq_append_iff.1 hx with ⟨y, rfl, hy⟩ | ⟨y, rfl, hy⟩
      · have hmem : d ∈ j.text.toList := by
          rw [hy]
          exact List.mem_append_right _ List.mem_cons_self
        cases (solid_junction j d hmem).symm.trans hd
      · exact absurd (ha.eq_nil_of_blank fun e he => hg e (List.mem_append_left _ he)) hne
  · cases x with
    | nil =>
      rw [List.append_nil]
      exact hend hrest.symm
    | cons d x =>
      obtain ⟨rfl, -⟩ := List.cons.inj hrest
      exact ⟨gap, j, c, x ++ k, by simp, hgap, hg, hc⟩

/-- The white space before a word may be another. -/
theorem Joins.congr_blank {b : Char} (h : Joins (c :: text)) (hb : isBlank b = true)
    (ht : ∀ d ∈ text.head?, isBlank d = false) : Joins (b :: text) := by
  obtain ⟨gap, j, d, rest, heq, hgap, hg, hd⟩ := h
  obtain ⟨e, gap, rfl⟩ := List.exists_cons_of_ne_nil hgap
  obtain ⟨rfl, rfl⟩ := List.cons.inj heq
  refine ⟨b :: gap, j, d, rest, rfl, by simp, fun f hf => ?_, hd⟩
  rcases List.mem_cons.1 hf with rfl | hf
  · exact hb
  · exact hg f (List.mem_cons_of_mem _ hf)

/-! ### Sealed predicates -/

section Sealed

variable {m : Mode}

theorem sealed_nil (m : Mode) (rest : List Char) : Sealed m [] rest := fun _ _ _ h =>
  absurd h (by simp)

theorem sealed_cons : Sealed m (c :: text) rest ↔
    (Joins (c :: (text ++ rest)) → m.isFree = false) ∧
      Sealed (m.next c (text ++ rest)) text rest := by
  have hone : Sealed m [c] (text ++ rest) ↔ (Joins (c :: (text ++ rest)) → m.isFree = false) := by
    refine ⟨fun h => h [] c [] rfl, fun h x d y heq hj => ?_⟩
    obtain ⟨rfl, hd⟩ | ⟨x', rfl, hnil⟩ := List.append_eq_cons_iff.1 heq.symm
    · obtain ⟨rfl, rfl⟩ := List.cons.inj hd
      exact h hj
    · cases (List.append_eq_nil_iff.1 hnil.symm).2
  exact (sealed_append (a := [c])).trans (and_congr_left' hone)

theorem sealed_of_solid (h : Solid text) (m : Mode) (rest : List Char) : Sealed m text rest := by
  rintro x c y rfl hj
  cases (h c (by simp)).symm.trans hj.head_blank

/-- Before a bar white space is no junction. -/
theorem not_joins_of_isBar {d : Char} (hd : IsBar d) (rest : List Char) :
    ¬Joins (c :: d :: rest) := fun h => by
  obtain ⟨gap, j, e, more, heq, hgap, -⟩ := joins_of_isBar (a := [c]) hd h
  have hlen := congrArg List.length heq
  have hpos := List.length_pos_iff.2 hgap
  simp only [List.length_append, List.length_cons, List.length_nil] at hlen
  omega

theorem sealed_blank_word {d : Char} {word : List Char} (hd : IsBar d) (hw : Solid word) (m : Mode)
    (rest : List Char) : Sealed m (' ' :: d :: word) rest := by
  refine sealed_cons.2 ⟨fun hj => absurd hj (not_joins_of_isBar hd _), sealed_of_solid ?_ _ _⟩
  intro c hc
  rcases List.mem_cons.1 hc with rfl | hc
  · exact hd.1
  · exact hw c hc

theorem isBar_of_lower {d : Char} (h : (!isBlank d && Junction.and.text.toList.all (· != d) &&
    Junction.or.text.toList.all (· != d)) = true) : IsBar d := by
  simp only [Bool.and_eq_true, Bool.not_eq_true', List.all_eq_true, bne_iff_ne] at h
  obtain ⟨⟨hb, ha⟩, ho⟩ := h
  refine ⟨hb, fun j hm => ?_⟩
  cases j with
  | and => exact ha d hm rfl
  | or => exact ho d hm rfl

/-- No junction begins before an operator or within it. -/
theorem sealed_operator (op : Operator) (m : Mode) (rest : List Char) :
    Sealed m (' ' :: op.text.toList) rest := by
  have hword : ∀ {d word}, (!isBlank d && Junction.and.text.toList.all (· != d) &&
      Junction.or.text.toList.all (· != d)) = true → Solid word → ∀ m rest,
        Sealed m (' ' :: d :: word) rest := fun hd hw => sealed_blank_word (isBar_of_lower hd) hw
  cases op with
  | isUnset =>
    refine (sealed_append (a := ' ' :: "not".toList) (b := ' ' :: "exists".toList)).2 ⟨?_, ?_⟩ <;>
      exact hword (by decide) (by decide) _ _
  | _ => exact hword (by decide) (by decide) _ _

/-- Before a bar a sealed text stays sealed, whatever follows the bar. -/
theorem Sealed.of_isBar (h : Sealed m text rest) (hc : IsBar c)
    (hm : Mode.SameMarks rest (c :: rest')) : Sealed m text (c :: rest') := by
  rintro x d y rfl hj
  have hj' : Joins (d :: y) := joins_of_isBar (a := d :: y) hc hj
  have hmode := Mode.after_congr ((Mode.SameMarks.refl (d :: y)).append hm) m x
  exact (congrArg Mode.isFree hmode).symm.trans (h x d y rfl (hj'.append rest))

/-- A firm text that is sealed stays so when other white space follows, or nothing. -/
theorem Sealed.of_firm (h : Sealed m text k) (ht : Firm text) (hk : Follow k k') :
    Sealed m text k' := by
  rintro x d y rfl hj
  have hj' : Joins (d :: y ++ k) :=
    Joins.of_firm (a := d :: y) hj (firm_append_right ht) (by simp) hk
  have hmode := Mode.after_congr ((Mode.SameMarks.refl (d :: y)).append hk.marks) m x
  exact (congrArg Mode.isFree hmode).symm.trans (h x d y rfl hj')

end Sealed

namespace Layout

theorem sealed_text (l : Layout p) (k : List Char) : Sealed .start l.text k ↔
    Sealed .start (['\x7b', '\x7b'] ++ l.front) (p.subject.toList ++ l.rest ++ k) ∧
      Sealed .braced p.subject.toList (l.rest ++ k) ∧
      Sealed (inside p k) l.lead (l.gap ++ valueText p ++ k) ∧
      Sealed ((inside p k).after l.lead (l.gap ++ valueText p ++ k)) (l.gap ++ valueText p) k := by
  have hrest : Sealed (inside p k) l.rest k ↔
      Sealed (inside p k) l.lead (l.gap ++ valueText p ++ k) ∧
        Sealed ((inside p k).after l.lead (l.gap ++ valueText p ++ k)) (l.gap ++ valueText p)
          k := by
    rw [rest_eq, sealed_append]
  rw [text_eq, sealed_append (a := ['\x7b', '\x7b'] ++ l.front), after_front,
    sealed_append (a := p.subject.toList), after_subject, hrest]

/-- The last white space before a value, and the value. -/
theorem sealed_value (l : Layout p) {gap : List Char} (hg : l.gap = gap ++ [c]) (m : Mode)
    (h : Sealed (m.after l.lead (l.gap ++ valueText p ++ k)) (l.gap ++ valueText p) k) :
    (Joins (c :: (valueText p ++ k)) → m.spaced.isFree = false) ∧
      Sealed m.spaced (valueText p) k := by
  have hblank := l.blank_gap
  rw [hg] at h hblank
  refine ⟨fun hj => ?_, ?_⟩
  · have hfree := h gap c (valueText p) (by simp) hj
    rwa [Mode.isFree_after fun d hd => Mode.bare_of_blank (hblank d (List.mem_append_left _ hd)),
      l.isFree_after_lead] at hfree
  · have hrest := (sealed_append.1 h).2
    rwa [List.append_assoc (gap ++ [c]), l.after_gap m hblank] at hrest

/-- The value of the canonical layout, with the white space before it, is sealed when that of a
layout is. -/
theorem sealed_value_canonical (hp : Tidy p) (l : Layout p) {m : Mode}
    (h : Sealed (m.after l.lead (l.gap ++ valueText p ++ k)) (l.gap ++ valueText p) k)
    (hk : Follow k k') :
    Sealed (m.after (canonical p).lead ((canonical p).gap ++ valueText p ++ k'))
      ((canonical p).gap ++ valueText p) k' := by
  by_cases hv : valueText p = []
  · rw [(canonical p).gap_eq_nil.2 hv, hv]
    exact sealed_nil _ _
  · obtain ⟨gap, c, hgap⟩ := (List.eq_nil_or_concat l.gap).resolve_left fun hnil =>
      hv (l.gap_eq_nil.1 hnil)
    rw [List.concat_eq_append] at hgap
    obtain ⟨hjoins, htext⟩ := l.sealed_value hgap m h
    have hc : isBlank c = true := l.blank_gap c (by simp [hgap])
    have hcanonical : (canonical p).gap = [' '] := if_neg hv
    have hblank : Blank ([] ++ [' ']) := by simp [Blank, isBlank]
    have hspaced := (canonical p).after_gap m hblank (valueText p ++ k')
    have hfirm := htext.of_firm hp.firm hk
    rw [← hspaced] at hfirm
    rw [hcanonical]
    refine sealed_cons.2 ⟨fun hj => ?_, hfirm⟩
    -- The blank may begin a junction only when the white space of the layout does.
    have hhead : ∀ d ∈ (valueText p ++ k').head?, isBlank d = false := by
      obtain ⟨e, v, he⟩ := List.exists_cons_of_ne_nil hv
      intro d hd
      refine hp.head d ?_
      rw [he] at hd ⊢
      exact hd
    rw [isFree_after_lead]
    exact hjoins (Joins.of_firm (a := c :: valueText p) (Joins.congr_blank hj hc hhead)
      (firm_append hp.firm hv [c]) (by simp) hk)

/-- **When no junction begins in the open within a layout, none does within the canonical one.** -/
theorem sealed_canonical (hp : Tidy p) (l : Layout p) (h : Sealed .start l.text k)
    (hk : Follow k k') : Sealed .start (canonical p).text k' := by
  obtain ⟨-, hsubject, -, hvalue⟩ := (l.sealed_text k).1 h
  have hfront : Solid ['\x7b', '\x7b'] := solid_openBraces
  refine ((canonical p).sealed_text k').2 ⟨sealed_of_solid hfront _ _, ?_, ?_, ?_⟩
  · refine hsubject.of_isBar isBar_brace ?_
    exact (l.sameMarks_rest.trans (canonical p).sameMarks_rest.symm).append hk.marks
  · exact sealed_append.2 ⟨sealed_of_solid solid_braces _ _, sealed_operator _ _ _⟩
  · rw [← inside_congr hk.marks]
    exact l.sealed_value_canonical hp hvalue hk

end Layout

/-! ### Pieces of guards -/

/-- What a piece of a text and the canonical form of its predicate have in common, before what
follows the one and the other. -/
theorem canonical_of_readPredicate {piece : List Char} (h : readPredicate piece = .ok p)
    (hk : Follow k k') (hs : Sealed .start piece k) :
    Sealed .start p.written k' ∧ (Mode.start.after piece k).isFree =
      (Mode.start.after p.written k').isFree ∧ Mode.SameMarks piece p.written := by
  obtain ⟨hp, l, htrim, -⟩ := exists_layout h
  obtain ⟨front, back, hfront, hback, hpiece, -⟩ := exists_margins piece
  rw [htrim] at hpiece
  subst hpiece
  have hfree : ∀ {text}, Blank text → ∀ c ∈ text, Mode.Bare c := fun ht c hc =>
    Mode.bare_of_blank (ht c hc)
  have hmarks : ∀ {text}, Blank text → ∀ b, Mode.SameMarks (text ++ b) b := fun ht =>
    Mode.sameMarks_append fun c hc => (hfree ht c hc).2.2
  have hfollow : Follow (back ++ k) k' := by
    refine ⟨(hmarks hback k).trans hk.marks, hk.blank, fun hne => ?_⟩
    cases back with
    | nil => exact hk.exists_blank hne
    | cons c back => exact ⟨c, back ++ k, rfl, hback.head⟩
  rw [sealed_append, Mode.start_after_blank hfront, sealed_append] at hs
  rw [hp.written_eq]
  refine ⟨l.sealed_canonical hp hs.2.1 hfollow, ?_, ?_⟩
  · rw [Mode.after_append, Mode.start_after_blank hfront, Mode.after_append,
      Mode.isFree_after (hfree hback), l.isFree_after_text, (canonical p).isFree_after_text,
      Layout.inside_congr hfollow.marks, Mode.after_congr hfollow.marks]
  · have hback' : Mode.SameMarks (l.text ++ back) l.text := by
      have hswap : Mode.SameMarks (l.text ++ back) (back ++ l.text) := fun mark => by
        simp only [List.mem_append, or_comm]
      exact hswap.trans (hmarks hback _)
    exact (hmarks hfront _).trans (hback'.trans (l.sameMarks_text.trans
      (canonical p).sameMarks_text.symm))

theorem readPieces_eq_ok {first : List Char} {more : List (Junction × List Char × List Char)}
    {g : Guard} : readPieces (first, more) = .ok g ↔
      readPredicate first = .ok g.first ∧ readRest more = .ok g.rest := by
  rw [readPieces]
  dsimp only
  cases readPredicate first with
  | error fault => simp
  | ok p =>
    cases readRest more with
    | error fault => simp
    | ok rest =>
      obtain ⟨p', rest'⟩ := g
      simp

theorem readRest_cons_eq_ok {j : Junction} {t piece : List Char}
    {more : List (Junction × List Char × List Char)} {rest : List (Junction × Predicate)} :
    readRest ((j, t, piece) :: more) = .ok rest ↔ ∃ p others,
      readPredicate piece = .ok p ∧ readRest more = .ok others ∧ rest = (j, p) :: others := by
  rw [readRest]
  cases readPredicate piece with
  | error fault => simp
  | ok p =>
    cases readRest more with
    | error fault => simp
    | ok others => simp [eq_comm]

/-- The texts of the pieces, in their order. -/
def texts (ps : List Char × List (Junction × List Char × List Char)) : List (List Char) :=
  ps.1 :: ps.2.map (·.2.2)

/-- The predicates of a guard are those that the pieces write. -/
theorem forall₂_of_readPieces {ps : List Char × List (Junction × List Char × List Char)} {g : Guard}
    (h : readPieces ps = .ok g) :
    List.Forall₂ (fun piece p => readPredicate piece = .ok p) (texts ps) g.predicates := by
  obtain ⟨first, more⟩ := ps
  obtain ⟨p, rest⟩ := g
  obtain ⟨hfirst, hmore⟩ := readPieces_eq_ok.1 h
  refine .cons hfirst ?_
  dsimp only at hmore ⊢
  clear h hfirst
  induction more generalizing rest with
  | nil =>
    cases hmore
    exact .nil
  | cons piece more ih =>
    obtain ⟨j, t, piece⟩ := piece
    obtain ⟨q, others, hq, hothers, rfl⟩ := readRest_cons_eq_ok.1 hmore
    exact .cons hq (ih _ hothers)

/-- **What is read from pieces is read from its canonical form.** -/
theorem readPieces_canonical {cs : List Char} {g : Guard} (h : readPieces (pieces cs) = .ok g) :
    readPieces (pieces g.written) = .ok g ∧ Mode.SameMarks cs g.written := by
  -- On the length of the text: what follows the first junction in the open is a guard of its own.
  induction hn : cs.length using Nat.strongRecOn generalizing cs g with
  | ind n ih =>
    obtain ⟨p, rest⟩ := g
    rcases sealed_or_exists_first cs with hs | ⟨a, t, b, j, rfl, hfirst⟩
    · rw [pieces_of_sealed hs] at h
      obtain ⟨hp, hrest⟩ := readPieces_eq_ok.1 h
      cases hrest
      have hend : Follow [] [] := ⟨Mode.SameMarks.refl [], by simp, by simp⟩
      obtain ⟨hsealed, -, hmarks⟩ := canonical_of_readPredicate hp hend hs
      have hw : written ⟨p, []⟩ = p.written := List.append_nil _
      rw [hw, pieces_of_sealed hsealed]
      exact ⟨readPieces_eq_ok.2 ⟨readPredicate_layout hp, rfl⟩, hmarks⟩
    · rw [pieces_of_first hfirst] at h
      obtain ⟨hp, hrest⟩ := readPieces_eq_ok.1 h
      obtain ⟨q, others, hq, hothers, rfl⟩ := readRest_cons_eq_ok.1 hrest
      have hpos := hfirst.leads.pos
      obtain ⟨hread, hmarks⟩ := ih b.length (by simp [← hn]; omega) (g := ⟨q, others⟩)
        (readPieces_eq_ok.2 ⟨hq, hothers⟩) rfl
      -- What a junction takes holds no quotation marks, neither here nor in the canonical form.
      have hlead : Leads (separator j ++ []) j (separator j).length := leads_separator j (by simp)
      have hbare : ∀ c ∈ separator j, Mode.Bare c := hlead.bare le_rfl
      have hsep : Mode.SameMarks (t ++ b) (separator j ++ written ⟨q, others⟩) :=
        (Mode.sameMarks_of_bare (hfirst.leads.bare le_rfl) hbare).append hmarks
      have hblank : ∃ c rest, t ++ b = c :: rest ∧ isBlank c = true := by
        obtain ⟨c, t, rfl⟩ := List.exists_cons_of_ne_nil (List.ne_nil_of_length_pos hpos)
        have hjoins : Joins (c :: (t ++ b)) := hfirst.leads.joins
        exact ⟨c, t ++ b, rfl, hjoins.head_blank⟩
      have hfollow : Follow (t ++ b) (separator j ++ written ⟨q, others⟩) :=
        ⟨hsep, fun c hc => by cases hc; rfl, fun _ => hblank⟩
      obtain ⟨hsealed, hfree, hmarks'⟩ := canonical_of_readPredicate hp hfollow hfirst.sealed
      have hhead : ∀ c ∈ (written ⟨q, others⟩).head?, isBlank c = false := by
        intro c hc
        cases (head_written q _).symm.trans hc
        rfl
      have hcanonical : First p.written (separator j) (written ⟨q, others⟩) j :=
        ⟨hsealed, hfree.symm.trans hfirst.isFree, leads_separator j hhead⟩
      rw [written_cons, pieces_of_first hcanonical]
      refine ⟨readPieces_eq_ok.2 ⟨readPredicate_layout hp, ?_⟩, hmarks'.append hsep⟩
      obtain ⟨hq', hothers'⟩ := readPieces_eq_ok.1 hread
      exact readRest_cons_eq_ok.2 ⟨q, others, hq', hothers', rfl⟩

/-! ### Guards that are read -/

/-- What is known of a predicate and the piece of a guard that it has been read from: it has a value
exactly when its operator needs one, and its variable is free of double braces exactly when one that
is so stands in braces of its own, or when it is blank. -/
structure Accepts (piece : List Char) (p : Predicate) : Prop where
  value : p.value.isSome = p.operator.needsValue
  braceless : Braceless p.subject.toList ↔ Formed piece ∨ Blank p.subject.toList

/-- **What is known of each guard that has been read**: of each predicate with its piece, and that
the canonical form of the guard is read as the same guard. -/
theorem accepts_read {written : String} {g : Guard} (h : read written = .ok g) :
    List.Forall₂ Accepts (texts (pieces written.toList)) g.predicates ∧
      read (String.ofList g.written) = .ok g := by
  have hchars := read_eq_ok.1 h
  rw [readChars_eq (trim_ne_nil_of_readChars hchars)] at hchars
  refine ⟨(forall₂_of_readPieces hchars).imp fun piece p hp =>
    ⟨(exists_layout hp).1.value_isSome, braceless_iff hp⟩, ?_⟩
  rw [read_eq_ok, String.toList_ofList, readChars_eq (trim_written_ne_nil g)]
  exact (readPieces_canonical hchars).1

/-- A guard with white space, a junction in quotation marks, and between two tokens no operator. -/
def hasty : String :=
  " \x7b\x7b a \x7d\x7d  EQUALS\n'x AND y'  AND " ++
    "\x7b\x7bb\x7d\x7d equls \x7b\x7bc\x7d\x7d not  exists "

/-- What is read from it: the second variable runs from one token over the next. -/
def hastyGuard : Guard :=
  ⟨⟨"a", .equals, some "'x AND y'"⟩, [(.and, ⟨"b\x7d\x7d equls \x7b\x7bc", .isUnset, none⟩)]⟩

theorem accepts_read_hasty : read hasty = .ok hastyGuard ∧
    List.Forall₂ Accepts (texts (pieces hasty.toList)) hastyGuard.predicates ∧
      read (String.ofList hastyGuard.written) = .ok hastyGuard := by
  have hread : read hasty = .ok hastyGuard := by decide +kernel
  exact ⟨hread, accepts_read hread⟩

/-- Between two tokens there is an operator with a slip. -/
def slip : String := "\x7b\x7ba\x7d\x7d equls \x7b\x7bb\x7d\x7d exists"

/-- It is read all the same: both tokens, with the word between them, are one variable. -/
theorem not_braceless_slip :
    ∃ g, read slip = .ok g ∧ ¬∀ p ∈ g.predicates, Braceless p.subject.toList := by
  refine ⟨⟨⟨"a\x7d\x7d equls \x7b\x7bb", .isSet, none⟩, []⟩, by decide +kernel, fun h => ?_⟩
  exact (h _ List.mem_cons_self).closing ⟨['a'], " equls \x7b\x7bb".toList, by decide⟩

end Dialogue.Guard

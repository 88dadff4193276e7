import Mathlib.Data.Nat.Find
import Dialogue.Proofs.Guard.Written

/-!
# Guards from left to right

The spans of a guard are looked up by position. Read from left to right, a text is in the open,
within braces or within a quotation at each place, and all that decides this is what has been read,
apart from one question: whether a quotation mark comes again. So the piece before the first
junction in the open can be told from its own characters, and what follows the junction is cut as a
text of its own.

* `Guard.Mode`: what a text is in the middle of.
* `Guard.covers_shieldedSpans`: a blank is shielded exactly when the text is in the middle of
  something.
* `Guard.Sealed`: a text in which no junction begins in the open.
* `Guard.pieces_of_sealed`, `Guard.pieces_of_first`: how a text is cut.
* `Guard.sealed_or_exists_first`: one of the two applies to each text.
-/

namespace Dialogue.Guard

open Text

/-! ### Modes -/

/-- The characters that open and close a quotation. -/
abbrev QuoteMark := {c : Char // c = '"' ∨ c = '\''}

/-- What a text is in the middle of: nothing, and a word may begin there or not; nothing, behind an
opening brace; braces; braces, behind a closing one; a quotation. -/
inductive Mode where
  | free (atWord : Bool)
  | curl
  | braced
  | half
  | quoted (mark : QuoteMark)
  deriving DecidableEq

namespace Mode

/-- Whether a text is in the open. -/
def isFree : Mode → Bool
  | free _ | curl => true
  | braced | half | quoted _ => false

/-- Whether a quotation may begin. -/
def atWord : Mode → Bool
  | free b => b
  | _ => false

/-- The mode after a character in the open. A quotation mark opens only when it comes again. -/
def opened (atWord : Bool) (c : Char) (rest : List Char) : Mode :=
  if c = '\x7b' then curl
  else if h : c = '"' ∨ c = '\'' then
    if atWord ∧ c ∈ rest then quoted ⟨c, h⟩ else free false
  else free (isBlank c)

/-- The mode after a character, with what comes after it. -/
def next (m : Mode) (c : Char) (rest : List Char) : Mode :=
  match m with
  | free b => opened b c rest
  | curl => if c = '\x7b' then braced else opened false c rest
  | braced => if c = '\x7d' then half else braced
  | half => if c = '\x7d' then free false else braced
  | quoted mark => if c = mark then free false else quoted mark

/-- The mode after a text, with what comes after it. -/
def after (m : Mode) : (text rest : List Char) → Mode
  | [], _ => m
  | c :: text, rest => (m.next c (text ++ rest)).after text rest

@[simp] theorem after_nil (m : Mode) (rest : List Char) : m.after [] rest = m := rfl

@[simp] theorem after_cons (m : Mode) (c : Char) (text rest : List Char) :
    m.after (c :: text) rest = (m.next c (text ++ rest)).after text rest := rfl

theorem after_append (m : Mode) (a b rest : List Char) :
    m.after (a ++ b) rest = (m.after a (b ++ rest)).after b rest := by
  induction a generalizing m with
  | nil => rfl
  | cons c a ih => simp [ih]

/-- A character that neither opens nor closes anything. -/
def Bare (c : Char) : Prop := c ≠ '\x7b' ∧ c ≠ '\x7d' ∧ c ≠ '"' ∧ c ≠ '\''

instance (c : Char) : Decidable (Bare c) :=
  inferInstanceAs (Decidable (_ ∧ _))

variable {m : Mode} {c : Char} {text rest rest' : List Char}

theorem bare_of_blank (h : isBlank c = true) : Bare c := by
  refine ⟨?_, ?_, ?_, ?_⟩ <;> rintro rfl <;> cases h

theorem opened_of_bare (h : Bare c) (b : Bool) (rest : List Char) :
    opened b c rest = free (isBlank c) := by
  simp [opened, h.1, h.2.2.1, h.2.2.2]

/-- In the open such a character leaves the text in the open. -/
theorem next_of_isFree (hc : Bare c) (h : m.isFree = true) (rest : List Char) :
    m.next c rest = free (isBlank c) := by
  cases m with
  | free b => exact opened_of_bare hc b rest
  | curl => simp [next, hc.1, opened_of_bare hc]
  | _ => cases h

theorem isFree_next (hc : Bare c) (m : Mode) (rest : List Char) :
    (m.next c rest).isFree = m.isFree := by
  by_cases h : m.isFree = true
  · rw [next_of_isFree hc h, h]
    rfl
  · cases m with
    | free b => exact absurd rfl h
    | curl => exact absurd rfl h
    | braced => simp [next, hc.2.1]
    | half => simp [next, hc.2.1, isFree]
    | quoted mark =>
      have hne : c ≠ mark := by
        rcases mark.2 with hm | hm
        · rw [hm]
          exact hc.2.2.1
        · rw [hm]
          exact hc.2.2.2
      simp [next, hne]

/-- Characters that neither open nor close anything do not lead out of the open or into it. -/
theorem isFree_after (h : ∀ c ∈ text, Bare c) (m : Mode) (rest : List Char) :
    (m.after text rest).isFree = m.isFree := by
  induction text generalizing m with
  | nil => rfl
  | cons c text ih =>
    rw [after_cons, ih fun d hd => h d (List.mem_cons_of_mem c hd),
      isFree_next (h c List.mem_cons_self)]

/-- After white space in the open a word may begin. -/
theorem after_concat_blank (h : ∀ c ∈ text, Bare c) (hc : isBlank c = true) (hm : m.isFree = true)
    (rest : List Char) : m.after (text ++ [c]) rest = free true := by
  have hfree : (m.after text ([c] ++ rest)).isFree = true := by rw [isFree_after h, hm]
  rw [after_append, after_cons, next_of_isFree (bare_of_blank hc) hfree, hc, after_nil]

/-- Two texts in which the same quotation marks occur. -/
def SameMarks (a b : List Char) : Prop := ∀ mark : QuoteMark, mark.1 ∈ a ↔ mark.1 ∈ b

theorem SameMarks.append {a a' b b' : List Char} (ha : SameMarks a a') (hb : SameMarks b b') :
    SameMarks (a ++ b) (a' ++ b') := fun mark => by
  simp only [List.mem_append, ha mark, hb mark]

theorem SameMarks.refl (a : List Char) : SameMarks a a := fun _ => Iff.rfl

theorem sameMarks_of_bare {a b : List Char} (ha : ∀ c ∈ a, Bare c) (hb : ∀ c ∈ b, Bare c) :
    SameMarks a b := by
  have hnot : ∀ {t : List Char}, (∀ c ∈ t, Bare c) → ∀ mark : QuoteMark, mark.1 ∉ t := by
    rintro t ht ⟨c, rfl | rfl⟩ hm
    · exact (ht _ hm).2.2.1 rfl
    · exact (ht _ hm).2.2.2 rfl
  exact fun mark => iff_of_false (hnot ha mark) (hnot hb mark)

theorem next_congr (h : SameMarks rest rest') (m : Mode) (c : Char) :
    m.next c rest = m.next c rest' := by
  have hopened : ∀ b, opened b c rest = opened b c rest' := fun b => by
    unfold opened
    split
    · rfl
    · split
      · rename_i hc
        simp only [h ⟨c, hc⟩]
      · rfl
  cases m <;> simp only [next, hopened]

/-- What comes after a text matters only for its quotation marks. -/
theorem after_congr (h : SameMarks rest rest') (m : Mode) (text : List Char) :
    m.after text rest = m.after text rest' := by
  induction text generalizing m with
  | nil => rfl
  | cons c text ih =>
    rw [after_cons, after_cons, ih, next_congr ((SameMarks.refl text).append h)]

end Mode

/-! ### Spans -/

variable {c : Char} {cs a b text rest : List Char}

/-- How far it is to the end of the first mark, or else to the end of the text. -/
def toMark (mark cs : List Char) : Nat :=
  match cut? mark cs with
  | some (inner, _) => inner.length + mark.length
  | none => cs.length

theorem toMark_cons (m : Char) (mark : List Char) (c : Char) (cs : List Char) :
    toMark (m :: mark) (c :: cs) =
      if begins (m :: mark) (c :: cs) then (m :: mark).length else toMark (m :: mark) cs + 1 := by
  unfold toMark begins
  rw [cut?]
  cases after? (m :: mark) (c :: cs) with
  | some rest => simp
  | none =>
    cases cut? (m :: mark) cs with
    | none => simp
    | some found => simp [Nat.add_right_comm]

theorem begins_singleton (m c : Char) (cs : List Char) : begins [m] (c :: cs) = decide (c = m) := by
  by_cases h : m = c <;> simp [begins, after?, h, Ne.symm]

theorem begins_braces (m c : Char) (cs : List Char) :
    begins [m, m] (c :: cs) = decide (c = m ∧ cs.head? = some m) := by
  by_cases h : m = c
  · subst h
    cases cs with
    | nil => simp [begins, after?]
    | cons d cs => by_cases hd : m = d <;> simp [begins, after?, hd, Ne.symm]
  · simp [begins, after?, h, Ne.symm h]

theorem cut?_singleton_of_mem {q : Char} (h : q ∈ cs) :
    ∃ inner more, cut? [q] cs = some (inner, more) := by
  obtain ⟨inner, more, rfl, hn⟩ := List.eq_append_cons_of_mem h
  exact ⟨inner, more, cut?_append_mark hn [] more⟩

namespace Mode

/-- How many of the characters that follow belong to a span that has begun. -/
def reach : Mode → List Char → Nat
  | free _, _ => 0
  | curl, cs => if cs.head? = some '\x7b' then toMark ['\x7d', '\x7d'] cs else 0
  | braced, cs => toMark ['\x7d', '\x7d'] cs
  | half, cs => if cs.head? = some '\x7d' then 1 else toMark ['\x7d', '\x7d'] cs
  | quoted mark, cs => toMark [mark.1] cs

/-- The state of the search for spans, with so many characters of a span to come, stands for a mode.
-/
structure Stands (m : Mode) (skip : Nat) (atWord : Bool) (cs : List Char) : Prop where
  reach_eq : m.reach cs = skip
  atWord_eq : skip = 0 → m.atWord = atWord
  closed : ∀ mark, m = quoted mark → mark.1 ∈ cs

variable {m : Mode} {skip : Nat} {atWord : Bool}

theorem toMark_braces (c : Char) (cs : List Char) : toMark ['\x7d', '\x7d'] (c :: cs) =
    if c = '\x7d' ∧ cs.head? = some '\x7d' then 2 else toMark ['\x7d', '\x7d'] cs + 1 := by
  simp [toMark_cons, begins_braces]

theorem toMark_quote (q c : Char) (cs : List Char) :
    toMark [q] (c :: cs) = if c = q then 1 else toMark [q] cs + 1 := by
  simp [toMark_cons, begins_singleton]

/-- Within a span the next character is the next one of the span. -/
theorem Stands.tail (h : m.Stands (skip + 1) atWord (c :: cs)) :
    (m.next c cs).Stands skip false cs := by
  obtain ⟨hr, -, hq⟩ := h
  cases m with
  | free b => cases hr
  | curl =>
    by_cases hc : c = '\x7b'
    · subst hc
      have hs : toMark ['\x7d', '\x7d'] cs = skip := by simpa [reach, toMark_braces] using hr
      exact ⟨by simpa [next, reach] using hs, fun _ => by simp [next, Mode.atWord], by simp [next]⟩
    · simp [reach, hc] at hr
  | braced =>
    by_cases hc : c = '\x7d'
    · refine ⟨?_, fun _ => by simp [next, hc, Mode.atWord], by simp [next, hc]⟩
      by_cases hd : cs.head? = some '\x7d' <;>
        simp [reach, next, toMark_braces, hc, hd] at hr ⊢ <;> omega
    · have hs : toMark ['\x7d', '\x7d'] cs = skip := by simpa [reach, toMark_braces, hc] using hr
      exact ⟨by simpa [next, hc, reach] using hs, fun _ => by simp [next, hc, Mode.atWord],
        by simp [next, hc]⟩
  | half =>
    by_cases hc : c = '\x7d'
    · refine ⟨?_, fun _ => by simp [next, hc, Mode.atWord], by simp [next, hc]⟩
      simp [reach, next, hc] at hr ⊢
      omega
    · have hs : toMark ['\x7d', '\x7d'] cs = skip := by simpa [reach, toMark_braces, hc] using hr
      exact ⟨by simpa [next, hc, reach] using hs, fun _ => by simp [next, hc, Mode.atWord],
        by simp [next, hc]⟩
  | quoted mark =>
    by_cases hc : c = mark
    · refine ⟨?_, fun _ => by simp [next, hc, Mode.atWord], by simp [next, hc]⟩
      simp [reach, next, hc, toMark_quote] at hr ⊢
      omega
    · have hs : toMark [mark.1] cs = skip := by simpa [reach, toMark_quote, hc] using hr
      refine ⟨by simpa [next, hc, reach] using hs, fun _ => by simp [next, hc, Mode.atWord], ?_⟩
      intro mark' hm
      simp only [next, hc, if_false] at hm
      cases hm
      exact (List.mem_cons.1 (hq mark rfl)).resolve_left (Ne.symm hc)

/-- Where no span has characters to come, the next one is in the open. -/
theorem Stands.next_eq (h : m.Stands 0 atWord (c :: cs)) : m.next c cs = opened atWord c cs := by
  obtain ⟨hr, hw, -⟩ := h
  have hpos : ∀ n : Nat, (if c = '\x7d' ∧ cs.head? = some '\x7d' then 2 else n + 1) ≠ 0 := by
    intro n
    split <;> omega
  cases m with
  | free b => rw [next, ← hw rfl, Mode.atWord]
  | curl =>
    by_cases hc : c = '\x7b'
    · simp [Mode.reach, hc, toMark_braces] at hr
    · simp only [next, hc, if_false, ← hw rfl, Mode.atWord]
  | braced => exact absurd ((toMark_braces c cs).symm.trans hr) (hpos _)
  | half =>
    by_cases hc : c = '\x7d'
    · simp [Mode.reach, hc] at hr
    · simp [Mode.reach, hc, toMark_braces] at hr
  | quoted mark =>
    have hm : toMark [mark.1] (c :: cs) = 0 := hr
    rw [toMark_quote] at hm
    split at hm <;> omega

theorem spanHere?_eq (atWord : Bool) (c : Char) (cs : List Char) : spanHere? atWord c cs =
    if c = '\x7b' ∧ cs.head? = some '\x7b' then some (toMark ['\x7d', '\x7d'] cs + 1)
    else if (c = '"' ∨ c = '\'') ∧ atWord ∧ c ∈ cs then some (toMark [c] cs + 1) else none := by
  rw [spanHere?, begins_braces]
  by_cases hb : c = '\x7b' ∧ cs.head? = some '\x7b'
  · have hmark : toMark ['\x7d', '\x7d'] (c :: cs) = toMark ['\x7d', '\x7d'] cs + 1 := by
      simp [toMark_braces, hb.1]
    rw [if_pos hb, ← hmark, if_pos (by simpa using hb)]
    rfl
  · rw [if_neg hb, if_neg (by simpa using hb)]
    by_cases hw : (c = '"' ∨ c = '\'') ∧ atWord = true
    · by_cases hm : c ∈ cs
      · obtain ⟨inner, more, hcut⟩ := cut?_singleton_of_mem hm
        rw [if_pos hw, if_pos ⟨hw.1, hw.2, hm⟩, toMark, hcut]
        rfl
      · rw [if_pos hw, if_neg (by simp [hm]), cut?_of_not_mem hm]
        rfl
    · rw [if_neg hw, if_neg fun h => hw ⟨h.1, h.2.1⟩]

/-- In the open a span begins exactly when one is entered. -/
theorem stands_opened (atWord : Bool) (c : Char) (cs : List Char) :
    match spanHere? atWord c cs with
    | some n => (opened atWord c cs).Stands (n - 1) false cs ∧ 0 < n
    | none => (opened atWord c cs).Stands 0 (isBlank c) cs := by
  rw [spanHere?_eq]
  by_cases hb : c = '\x7b'
  · subst hb
    by_cases hd : cs.head? = some '\x7b'
    · simp only [hd, and_self, if_true]
      exact ⟨⟨by simp [opened, reach, hd], fun _ => rfl, by simp [opened]⟩, Nat.succ_pos _⟩
    · simp only [hd, and_false, if_false, Char.reduceEq, or_self, false_and]
      exact ⟨by simp [opened, reach, hd], fun _ => rfl, by simp [opened]⟩
  · by_cases hq : c = '"' ∨ c = '\''
    · by_cases hw : atWord = true ∧ c ∈ cs
      · simp only [hb, hq, hw, false_and, if_false, and_self, if_true]
        have hopened : opened true c cs = quoted ⟨c, hq⟩ := by simp [opened, hb, hq, hw.2]
        rw [hopened]
        refine ⟨⟨rfl, fun _ => rfl, fun mark hm => ?_⟩, Nat.succ_pos _⟩
        cases hm
        exact hw.2
      · have hopened : opened atWord c cs = free false := by simp [opened, hb, hq, hw]
        have hblank : isBlank c = false := by rcases hq with rfl | rfl <;> rfl
        simp only [hb, hq, hw, false_and, if_false, and_false]
        rw [hopened, hblank]
        exact ⟨rfl, fun _ => rfl, by simp⟩
    · have hopened : opened atWord c cs = free (isBlank c) := by simp [opened, hb, hq]
      simp only [hb, hq, false_and, if_false]
      rw [hopened]
      exact ⟨rfl, fun _ => rfl, by simp⟩

end Mode

/-- Spans begin where the search for them has come, or later. -/
theorem le_start_of_mem_spansFrom {skip : Nat} {atWord : Bool} {i : Nat} {s : Span}
    (h : s ∈ spansFrom skip atWord i cs) : i ≤ s.start := by
  induction cs generalizing skip atWord i with
  | nil => cases skip <;> cases h
  | cons c cs ih =>
    cases skip with
    | succ skip => exact Nat.le_of_succ_le (ih h)
    | zero =>
      rw [spansFrom_zero] at h
      split at h
      · rcases List.mem_cons.1 h with rfl | h
        · exact Nat.le_refl i
        · exact Nat.le_of_succ_le (ih h)
      · exact Nat.le_of_succ_le (ih h)

/-- In the middle of something exactly as long as a span has characters to come. -/
theorem Mode.Stands.isFree_eq {m : Mode} {skip : Nat} {atWord : Bool} (hc : isBlank c = true)
    (h : m.Stands skip atWord (c :: cs)) : m.isFree = decide (skip = 0) := by
  obtain ⟨hb, hb', -, -⟩ := Mode.bare_of_blank hc
  rw [← h.reach_eq]
  cases m with
  | free b => rfl
  | curl => simp [isFree, reach, hb]
  | braced => simp [isFree, reach, toMark_braces, hb']
  | half => simp [isFree, reach, toMark_braces, hb']
  | quoted mark =>
    have hm : c ≠ mark := by
      intro hm
      rcases mark.2 with h | h <;> rw [← hm] at h <;> rw [h] at hc <;> cases hc
    simp [isFree, reach, toMark_quote, hm]

/-- A blank is shielded, by the span at hand or a later one, exactly when the text is in the middle
of something there. -/
theorem covers_spansFrom {m : Mode} {skip : Nat} {atWord : Bool} (hc : isBlank c = true)
    (h : m.Stands skip atWord (a ++ c :: b)) (i : Nat) :
    (decide (a.length < skip) ||
      (spansFrom skip atWord i (a ++ c :: b)).any (·.covers (i + a.length))) =
        !(m.after a (c :: b)).isFree := by
  induction a generalizing m skip atWord i with
  | nil =>
    rw [List.nil_append] at h ⊢
    rw [Mode.after_nil, h.isFree_eq hc]
    cases skip with
    | succ skip => simp
    | zero =>
      have hnone : (spansFrom 0 atWord i (c :: b)).any (·.covers i) = false := by
        rw [spansFrom_zero, spanHere?_of_blank hc]
        refine List.any_eq_false.2 fun s hs => ?_
        have hlt : ¬s.start ≤ i := fun hle => by
          have := le_start_of_mem_spansFrom hs
          omega
        simp [Span.covers, hlt]
      simpa using hnone
  | cons d a ih =>
    have hlen : i + (d :: a).length = i + 1 + a.length := by
      rw [List.length_cons]
      omega
    rw [hlen, List.length_cons, List.cons_append, Mode.after_cons]
    rw [List.cons_append] at h
    cases skip with
    | succ skip =>
      have hlt : decide (a.length + 1 < skip + 1) = decide (a.length < skip) := by simp
      rw [hlt, spansFrom]
      exact ih h.tail (i + 1)
    | zero =>
      rw [h.next_eq, spansFrom_zero]
      have hopened := Mode.stands_opened atWord d (a ++ c :: b)
      cases hs : spanHere? atWord d (a ++ c :: b) with
      | none =>
        rw [hs] at hopened
        have hrest := ih hopened (i + 1)
        simpa using hrest
      | some n =>
        rw [hs] at hopened
        have hrest := ih hopened.1 (i + 1)
        have hpos := hopened.2
        have hcover : (⟨i, i + n⟩ : Span).covers (i + 1 + a.length) =
            decide (a.length < n - 1) := by
          have hle : i ≤ i + 1 + a.length := by omega
          have hlt : i + 1 + a.length < i + n ↔ a.length < n - 1 := by omega
          simp [Span.covers, hle, hlt]
        rw [← hrest, List.any_cons, hcover]
        simp

/-- The mode before a text. -/
def Mode.start : Mode := .free true

/-- **A blank is shielded exactly when the text is in the middle of something there.** -/
theorem covers_shieldedSpans (hc : isBlank c = true) (a b : List Char) :
    (shieldedSpans (a ++ c :: b)).any (·.covers a.length) =
      !(Mode.start.after a (c :: b)).isFree := by
  have hstart : Mode.start.Stands 0 true (a ++ c :: b) := ⟨rfl, fun _ => rfl, by simp [Mode.start]⟩
  simpa [shieldedSpans] using covers_spansFrom hc hstart 0

/-! ### Junctions in the open -/

/-- A junction stands at the front of a text. -/
def Joins (cs : List Char) : Prop :=
  ∃ gap, ∃ j : Junction, ∃ c rest, cs = gap ++ (j.text.toList ++ c :: rest) ∧ gap ≠ [] ∧ Blank gap ∧
    isBlank c = true

theorem Leads.joins {j : Junction} {n : Nat} (h : Leads cs j n) : Joins cs := by
  obtain ⟨gap, tail, rest, rfl, hgap, htail, hg, ht, -, -⟩ := h
  cases tail with
  | nil => exact absurd rfl htail
  | cons c tail => exact ⟨gap, j, c, tail ++ rest, rfl, hgap, hg, ht.head⟩

theorem Joins.head_blank (h : Joins (c :: cs)) : isBlank c = true := by
  obtain ⟨gap, j, d, rest, heq, hgap, hg, -⟩ := h
  cases gap with
  | nil => exact absurd rfl hgap
  | cons e gap =>
    obtain ⟨rfl, -⟩ := List.cons.inj heq
    exact hg.head

theorem Joins.leads (h : Joins cs) : ∃ j n, Leads cs j n := by
  obtain ⟨gap, j, c, rest, rfl, hgap, hg, hc⟩ := h
  obtain ⟨tail, more, hrest, ht, hm⟩ := exists_gap (c :: rest)
  refine ⟨j, _, gap, tail, more, by rw [hrest], hgap, ?_, hg, ht, hm, rfl⟩
  rintro rfl
  rw [List.nil_append] at hrest
  have hnot := hm c (by rw [← hrest]; rfl)
  cases hc.symm.trans hnot

theorem bare_of_mem_junction {j : Junction} (h : c ∈ j.text.toList) : Mode.Bare c := by
  have hall : ∀ j : Junction, ∀ c ∈ j.text.toList, Mode.Bare c := by
    rintro (_ | _) <;> simp [Junction.text, Mode.Bare]
  exact hall j c h

/-- What a junction takes opens and closes nothing. -/
theorem Leads.bare {j : Junction} {n : Nat} (h : Leads (a ++ b) j n) (hn : a.length ≤ n) :
    ∀ c ∈ a, Mode.Bare c := by
  obtain ⟨gap, tail, rest, heq, -, -, hg, ht, -, rfl⟩ := h
  have htake : (a ++ b).take (gap.length + j.text.length + tail.length) =
      gap ++ (j.text.toList ++ tail) := by
    rw [heq]
    have hl : gap.length + j.text.length + tail.length =
        (gap ++ (j.text.toList ++ tail)).length := by
      simp [Nat.add_assoc, String.length_toList]
    have htext : gap ++ (j.text.toList ++ (tail ++ rest)) =
        gap ++ (j.text.toList ++ tail) ++ rest := by simp
    rw [hl, htext, List.take_left]
  intro c hc
  have hmem : c ∈ gap ++ (j.text.toList ++ tail) := by
    rw [← htake, List.take_append, List.take_of_length_le hn]
    exact List.mem_append_left _ hc
  simp only [List.mem_append] at hmem
  rcases hmem with h | h | h
  · exact Mode.bare_of_blank (hg c h)
  · exact bare_of_mem_junction h
  · exact Mode.bare_of_blank (ht c h)

/-- A text after which so much comes, in which no junction begins in the open. -/
def Sealed (m : Mode) (text rest : List Char) : Prop :=
  ∀ x c y, text = x ++ c :: y → Joins (c :: (y ++ rest)) →
    (m.after x (c :: (y ++ rest))).isFree = false

theorem sealed_append {m : Mode} : Sealed m (a ++ b) rest ↔
    Sealed m a (b ++ rest) ∧ Sealed (m.after a (b ++ rest)) b rest := by
  constructor
  · intro h
    refine ⟨fun x c y ha hj => ?_, fun x c y hb hj => ?_⟩
    · have hx := h x c (y ++ b) (by rw [ha]; simp)
      rw [List.append_assoc] at hx
      exact hx hj
    · have hx := h (a ++ x) c y (by rw [hb]; simp) hj
      rw [Mode.after_append] at hx
      rw [hb]
      simpa using hx
  · rintro ⟨ha, hb⟩ x c y hab hj
    rcases List.append_eq_append_iff.1 hab with ⟨x', rfl, rfl⟩ | ⟨x', rfl, hx⟩
    · rw [Mode.after_append]
      have hx := hb x' c y rfl hj
      simpa using hx
    · cases x' with
      | nil =>
        rw [List.nil_append] at hx
        rw [List.append_nil] at ha hb
        have hx' := hb [] c y hx.symm hj
        rw [← hx] at hx'
        exact hx'
      | cons d x' =>
        simp only [List.cons_append, List.cons.injEq] at hx
        obtain ⟨rfl, rfl⟩ := hx
        have hx' := ha x c x' rfl
        rw [List.append_assoc] at hj ⊢
        exact hx' hj

theorem exists_of_mem_junctionsFrom {i : Nat} {l : JunctionAt} (h : l ∈ junctionsFrom 0 i cs) :
    ∃ x c y, cs = x ++ c :: y ∧ isBlank c = true ∧ l.span.start = i + x.length := by
  have hle : ∀ x d y, cs = x ++ d :: y →
      ∀ j n, Leads (d :: (y ++ [])) j n → n ≤ y.length + 1 :=
    fun x d y _ j n hl => by simpa using hl.le
  obtain ⟨inner, hj, hi⟩ := junctionsFrom_append_of_le hle (Nat.zero_le _) i
  rw [List.append_nil, junctionsFrom_nil, List.append_nil] at hj
  obtain ⟨x, c, y, n, rfl, hl, hstart⟩ := hi l (hj ▸ h)
  exact ⟨x, c, y, rfl, hl.joins.head_blank, hstart⟩

/-- A sealed text after which the open begins is scanned apart, and its junctions are all shielded.
-/
theorem junctionsFrom_sealed {m : Mode} (h : Sealed m text rest)
    (hend : (m.after text rest).isFree = true ∨ rest = []) (i : Nat) :
    ∃ inner, junctionsFrom 0 i (text ++ rest) =
        inner ++ junctionsFrom 0 (i + text.length) rest ∧
      ∀ l ∈ inner, ∃ x c y, text = x ++ c :: y ∧ isBlank c = true ∧ l.span.start = i + x.length ∧
        (m.after x (c :: (y ++ rest))).isFree = false := by
  have hle : ∀ x d y, text = x ++ d :: y → ∀ j n, Leads (d :: (y ++ rest)) j n →
      n ≤ y.length + 1 := by
    rintro x d y rfl j n hl
    have hm := h x d y rfl hl.joins
    by_contra hlt
    rcases hend with hend | rfl
    · -- A junction that reached beyond the text would lead from within a span into the open.
      have hbare : ∀ c ∈ d :: y, Mode.Bare c :=
        Leads.bare (a := d :: y) hl (by rw [List.length_cons]; omega)
      rw [Mode.after_append, Mode.isFree_after hbare, List.cons_append, hm] at hend
      cases hend
    · have hlen := hl.le
      rw [List.append_nil, List.length_cons] at hlen
      exact hlt hlen
  obtain ⟨inner, hj, hi⟩ := junctionsFrom_append_of_le hle (Nat.zero_le _) i
  refine ⟨inner, hj, fun l hmem => ?_⟩
  obtain ⟨x, c, y, n, rfl, hl, hstart⟩ := hi l hmem
  exact ⟨x, c, y, rfl, hl.joins.head_blank, hstart, h x c y rfl hl.joins⟩

/-! ### Cutting -/

/-- A sealed text is a single piece. -/
theorem junctions_of_sealed (h : Sealed .start text []) : junctions text = [] := by
  obtain ⟨inner, hj, hi⟩ := junctionsFrom_sealed h (.inr rfl) 0
  rw [List.append_nil, junctionsFrom_nil, List.append_nil] at hj
  unfold junctions
  rw [hj]
  refine List.filter_eq_nil_iff.2 fun l hl => ?_
  obtain ⟨x, c, y, rfl, hc, hstart, hm⟩ := hi l hl
  rw [List.append_nil] at hm
  rw [hstart, Nat.zero_add, covers_shieldedSpans hc, hm]
  simp

/-- The first junction in the open, with what it takes of the text: so much comes before it, and so
much after it. -/
structure First (a t b : List Char) (j : Junction) : Prop where
  sealed : Sealed .start a (t ++ b)
  isFree : (Mode.start.after a (t ++ b)).isFree = true
  leads : Leads (t ++ b) j t.length

variable {t : List Char} {j : Junction}

/-- After a junction a text is read as if nothing stood before. -/
theorem First.after_eq (h : First a t b j) : Mode.start.after (a ++ t) b = .start := by
  have hbare := h.leads.bare (Nat.le_refl _)
  obtain ⟨gap, tail, rest, heq, -, htail, -, ht, -, hn⟩ := h.leads
  have hsplit : t = gap ++ (j.text.toList ++ tail) := by
    have hl : t.length = (gap ++ (j.text.toList ++ tail)).length := by
      simp [hn, Nat.add_assoc, String.length_toList]
    have hsame : t ++ b = gap ++ (j.text.toList ++ tail) ++ rest := by
      rw [heq]
      simp
    exact (List.append_inj hsame hl).1
  obtain ⟨before, c, rfl⟩ := (List.eq_nil_or_concat tail).resolve_left htail
  have hc : isBlank c = true := ht c (by simp)
  have hlast : t = gap ++ (j.text.toList ++ before) ++ [c] := by
    rw [hsplit]
    simp
  rw [Mode.after_append, hlast]
  rw [hlast] at hbare
  have hfree := h.isFree
  rw [hlast] at hfree
  exact Mode.after_concat_blank (fun d hd => hbare d (List.mem_append_left _ hd)) hc hfree b

theorem junctions_of_first (h : First a t b j) :
    junctions (a ++ (t ++ b)) = ⟨⟨a.length, a.length + t.length⟩, j⟩ ::
      (junctions b).map (·.moved (a.length + t.length)) := by
  obtain ⟨inner, hj, hi⟩ := junctionsFrom_sealed h.sealed (.inl h.isFree) 0
  have hpos := h.leads.pos
  obtain ⟨c, t', rfl⟩ := List.exists_cons_of_ne_nil (List.ne_nil_of_length_pos hpos)
  have hjoins : Joins (c :: (t' ++ b)) := h.leads.joins
  have hc : isBlank c = true := hjoins.head_blank
  have hhere := junctionsFrom_of_leads h.leads a.length
  have hopen : (shieldedSpans (a ++ (c :: t' ++ b))).any (·.covers a.length) = false := by
    rw [List.cons_append, covers_shieldedSpans hc, ← List.cons_append, h.isFree]
    rfl
  have hinner : inner.filter (fun l => !(shieldedSpans (a ++ (c :: t' ++ b))).any
      (·.covers l.span.start)) = [] := by
    refine List.filter_eq_nil_iff.2 fun l hl => ?_
    obtain ⟨x, d, y, rfl, hd, hstart, hm⟩ := hi l hl
    have htext : x ++ d :: y ++ (c :: t' ++ b) = x ++ d :: (y ++ (c :: t' ++ b)) := by simp
    rw [htext, hstart, Nat.zero_add, covers_shieldedSpans hd, hm]
    simp
  unfold junctions
  dsimp only
  rw [hj, Nat.zero_add, hhere, List.filter_append, hinner, List.nil_append, List.filter_cons,
    if_pos (by dsimp only; rw [hopen]; rfl), List.filter_map]
  refine congrArg _ (congrArg _ (List.filter_congr fun l hl => ?_))
  obtain ⟨x, d, y, rfl, hd, hstart⟩ := exists_of_mem_junctionsFrom hl
  -- The rest of the text shields what it shields by itself.
  have hplace : x.length + (a.length + (c :: t').length) = (a ++ (c :: t' ++ x)).length := by
    simp
    omega
  have htext : a ++ (c :: t' ++ (x ++ d :: y)) = a ++ (c :: t' ++ x) ++ d :: y := by simp
  rw [Function.comp_apply, JunctionAt.start_moved, hstart, Nat.zero_add, hplace, htext,
    covers_shieldedSpans hd, covers_shieldedSpans hd, ← List.append_assoc, Mode.after_append,
    h.after_eq]

theorem pieces_of_sealed (h : Sealed .start text []) : Guard.pieces text = (text, []) := by
  rw [Guard.pieces, junctions_of_sealed h, cutAt]

/-- A text is cut at its first junction in the open, and what follows is cut as a text of its own.
-/
theorem pieces_of_first (h : First a t b j) : Guard.pieces (a ++ (t ++ b)) =
    (a, (j, t, (Guard.pieces b).1) :: (Guard.pieces b).2) := by
  have hrest := cutAt_add (a.length + t.length) 0 b (junctions b)
  rw [Nat.zero_add] at hrest
  rw [Guard.pieces, junctions_of_first h, cutAt]
  dsimp only
  rw [Nat.sub_zero, List.take_left, List.drop_left, Nat.add_sub_cancel_left, List.drop_left,
    List.take_left, hrest]
  rfl

/-- **Each text is a single piece or has a first junction in the open.** -/
theorem sealed_or_exists_first (text : List Char) :
    Sealed .start text [] ∨ ∃ a t b j, text = a ++ (t ++ b) ∧ First a t b j := by
  classical
  by_cases h : ∃ k, Joins (text.drop k) ∧
      (Mode.start.after (text.take k) (text.drop k)).isFree = true
  · -- The first place where a junction begins in the open.
    obtain ⟨hjoins, hfree⟩ := Nat.find_spec h
    have hmin : ∀ k < Nat.find h, Joins (text.drop k) →
        (Mode.start.after (text.take k) (text.drop k)).isFree = false := fun k hk hj => by
      have hnot := Nat.find_min h hk
      simpa [hj] using hnot
    generalize Nat.find h = k at hjoins hfree hmin
    obtain ⟨j, n, hl⟩ := hjoins.leads
    have hdrop : (text.drop k).take n ++ (text.drop k).drop n = text.drop k :=
      List.take_append_drop n _
    refine .inr ⟨text.take k, (text.drop k).take n, (text.drop k).drop n, j, ?_, ?_, ?_, ?_⟩
    · rw [hdrop, List.take_append_drop]
    · intro x c y hx hj
      rw [hdrop] at hj ⊢
      have htext : text = x ++ (c :: (y ++ text.drop k)) := by
        conv_lhs => rw [← List.take_append_drop k text, hx]
        simp
      have hlt : x.length < k := by
        have hlen := congrArg List.length hx
        simp only [List.length_take, List.length_append, List.length_cons] at hlen
        omega
      have hplace := hmin x.length hlt
      generalize text.drop k = rest at htext hj hplace ⊢
      rw [htext, List.drop_left, List.take_left] at hplace
      exact hplace hj
    · rw [hdrop]
      exact hfree
    · rw [hdrop, List.length_take, Nat.min_eq_left hl.le]
      exact hl
  · refine .inl fun x c y hx hj => ?_
    rw [List.append_nil] at hj ⊢
    by_contra hfree
    refine h ⟨x.length, ?_⟩
    rw [hx, List.drop_left, List.take_left]
    exact ⟨hj, by simpa using hfree⟩

end Dialogue.Guard

import Dialogue.Guard.Reader
import Dialogue.Proofs.Text.Margins

/-!
# Spans and junctions in a text with margins

A margin at the front of a text moves its spans and junctions. A margin at its end leaves the
junctions where they are, but may add one: the last word of the text, when that is `AND` or `OR`.

* `Guard.spansFrom_add`, `Guard.junctionsFrom_add`: the same text further on.
* `Guard.covers_spansFrom_append`: a margin at the end shields nothing new.
* `Guard.junctionsFrom_append`: the junctions of a text with a margin at its end.
-/

namespace Dialogue.Guard

open Text

variable {text margin : List Char}

theorem solid_openBraces : Solid ['\x7b', '\x7b'] := by decide

theorem solid_braces : Solid ['\x7d', '\x7d'] := by decide

theorem solid_singleton {c : Char} (h : isBlank c = false) : Solid [c] := by
  intro d hd
  rw [List.mem_singleton.1 hd]
  exact h

/-! ### Spans -/

/-- A span further on. -/
def Span.moved (s : Span) (k : Nat) : Span := ⟨s.start + k, s.stop + k⟩

@[simp] theorem Span.covers_moved (s : Span) (k i : Nat) :
    (s.moved k).covers (i + k) = s.covers i := by
  simp [moved, covers]

/-- The length of the span that begins with a character before a text. -/
def spanHere? (atWord : Bool) (c : Char) (cs : List Char) : Option Nat :=
  if begins ['\x7b', '\x7b'] (c :: cs) then
    some (match cut? ['\x7d', '\x7d'] (c :: cs) with
      | some (inner, _) => inner.length + 2
      | none => cs.length + 1)
  else if (c = '"' ∨ c = '\'') ∧ atWord then
    (cut? [c] cs).map fun (inner, _) => inner.length + 2
  else none

theorem spansFrom_zero (atWord : Bool) (i : Nat) (c : Char) (cs : List Char) :
    spansFrom 0 atWord i (c :: cs) = match spanHere? atWord c cs with
      | some n => ⟨i, i + n⟩ :: spansFrom (n - 1) false (i + 1) cs
      | none => spansFrom 0 (isBlank c) (i + 1) cs := by
  rw [spansFrom, spanHere?]
  split
  · rfl
  · split
    · cases cut? [c] cs <;> rfl
    · rfl

/-- The spans of a text further on are those of the text, further on. -/
theorem spansFrom_add (k : Nat) (skip : Nat) (atWord : Bool) (i : Nat) (text : List Char) :
    spansFrom skip atWord (i + k) text = (spansFrom skip atWord i text).map (·.moved k) := by
  induction text generalizing skip atWord i with
  | nil => cases skip <;> rfl
  | cons c text ih =>
    have hi : i + k + 1 = i + 1 + k := by omega
    cases skip with
    | succ skip =>
      rw [spansFrom, spansFrom, hi]
      exact ih skip false (i + 1)
    | zero =>
      rw [spansFrom_zero, spansFrom_zero, hi]
      cases spanHere? atWord c text with
      | none => exact ih 0 (isBlank c) (i + 1)
      | some n =>
        dsimp only
        rw [List.map_cons, ih, Span.moved, show i + k + n = i + n + k by omega]

theorem spanHere?_of_blank {c : Char} (hc : isBlank c = true) (atWord : Bool) (cs : List Char) :
    spanHere? atWord c cs = none := by
  have hb : begins ['\x7b', '\x7b'] (c :: cs) = false := by
    have hne : '\x7b' ≠ c := by
      rintro rfl
      cases hc
    rw [begins, after?, if_neg hne]
    rfl
  have hq : ¬((c = '"' ∨ c = '\'') ∧ atWord = true) := by
    rintro ⟨rfl | rfl, -⟩ <;> cases hc
  rw [spanHere?, hb, if_neg (by simp), if_neg hq]

theorem spansFrom_of_blank (h : Blank margin) (skip : Nat) (atWord : Bool) (i : Nat) :
    spansFrom skip atWord i margin = [] := by
  induction margin generalizing skip atWord i with
  | nil => cases skip <;> rfl
  | cons c margin ih =>
    cases skip with
    | succ skip => exact ih h.tail _ _ _
    | zero =>
      rw [spansFrom_zero, spanHere?_of_blank h.head]
      exact ih h.tail _ _ _

/-- A margin at the front of a text holds no spans. -/
theorem spansFrom_blank_append (h : Blank margin) (i : Nat) (text : List Char) :
    spansFrom 0 true i (margin ++ text) = spansFrom 0 true (i + margin.length) text := by
  induction margin generalizing i with
  | nil => rfl
  | cons c margin ih =>
    rw [List.cons_append, spansFrom_zero, spanHere?_of_blank h.head, h.head, List.length_cons,
      show i + (margin.length + 1) = i + 1 + margin.length by omega]
    exact ih h.tail (i + 1)

/-- Nothing begins inside of a span that is longer than the text. -/
theorem spansFrom_of_length_le {skip : Nat} (h : text.length ≤ skip) (atWord : Bool) (i : Nat) :
    spansFrom skip atWord i text = [] := by
  induction text generalizing skip atWord i with
  | nil => cases skip <;> rfl
  | cons c text ih =>
    cases skip with
    | zero => cases h
    | succ skip => exact ih (Nat.le_of_succ_le_succ h) _ _

/-- A margin at the end changes the length of a span only when the span is open there. -/
theorem spanHere?_append (h : Blank margin) (atWord : Bool) (c : Char) (cs : List Char) :
    spanHere? atWord c (cs ++ margin) = spanHere? atWord c cs ∨
      spanHere? atWord c cs = some (cs.length + 1) ∧
        spanHere? atWord c (cs ++ margin) = some (cs.length + 1 + margin.length) := by
  have hcut := cut?_append solid_braces (by simp) h (c :: cs)
  have hbegins := begins_append solid_openBraces h (c :: cs)
  rw [List.cons_append] at hcut hbegins
  rw [spanHere?, spanHere?, hbegins]
  split
  · rw [hcut]
    cases cut? ['\x7d', '\x7d'] (c :: cs) with
    | some found => exact .inl rfl
    | none => exact .inr ⟨rfl, by simp [Nat.add_right_comm]⟩
  · split
    · rename_i hq
      have hc : isBlank c = false := by
        rcases hq.1 with rfl | rfl <;> rfl
      rw [cut?_append (solid_singleton hc) (by simp) h, Option.map_map]
      exact .inl rfl
    · exact .inl rfl

/-- A margin at the end of a text shields nothing of the text. -/
theorem covers_spansFrom_append (h : Blank margin) (skip : Nat) (atWord : Bool) (i : Nat)
    (text : List Char) {place : Nat} (hp : place < i + text.length) :
    (spansFrom skip atWord i (text ++ margin)).any (·.covers place) =
      (spansFrom skip atWord i text).any (·.covers place) := by
  induction text generalizing skip atWord i with
  | nil =>
    rw [List.nil_append, spansFrom_of_blank h, spansFrom_of_length_le (Nat.zero_le skip)]
  | cons c text ih =>
    have hlater : place < i + 1 + text.length := by
      rw [List.length_cons] at hp
      omega
    cases skip with
    | succ skip => exact ih skip false (i + 1) hlater
    | zero =>
      rw [List.cons_append, spansFrom_zero, spansFrom_zero]
      rcases spanHere?_append h atWord c text with hs | ⟨hs, hs'⟩
      · rw [hs]
        cases spanHere? atWord c text with
        | none => exact ih 0 (isBlank c) (i + 1) hlater
        | some n =>
          dsimp only
          rw [List.any_cons, List.any_cons, ih _ _ _ hlater]
      · -- The span is open: it reaches to the end, with the margin and without.
        rw [hs, hs']
        dsimp only
        rw [spansFrom_of_length_le (by simp), spansFrom_of_length_le (by simp)]
        have hc : (⟨i, i + (text.length + 1 + margin.length)⟩ : Span).covers place =
            (⟨i, i + (text.length + 1)⟩ : Span).covers place := by
          have hl : place < i + (text.length + 1) := by omega
          have hl' : place < i + (text.length + 1 + margin.length) := by omega
          simp [Span.covers, hl, hl']
        rw [List.any_cons, List.any_cons, hc]

/-! ### Junctions -/

/-- A junction further on. -/
def JunctionAt.moved (j : JunctionAt) (k : Nat) : JunctionAt := ⟨j.span.moved k, j.junction⟩

@[simp] theorem JunctionAt.start_moved (j : JunctionAt) (k : Nat) :
    (j.moved k).span.start = j.span.start + k := rfl

@[simp] theorem JunctionAt.stop_moved (j : JunctionAt) (k : Nat) :
    (j.moved k).span.stop = j.span.stop + k := rfl

@[simp] theorem JunctionAt.junction_moved (j : JunctionAt) (k : Nat) :
    (j.moved k).junction = j.junction := rfl

theorem junctionsFrom_nil (skip i : Nat) : junctionsFrom skip i [] = [] := by
  rw [junctionsFrom.eq_def]

theorem junctionsFrom_succ (skip i : Nat) (c : Char) (cs : List Char) :
    junctionsFrom (skip + 1) i (c :: cs) = junctionsFrom skip (i + 1) cs := by
  rw [junctionsFrom.eq_def]

theorem junctionsFrom_zero (i : Nat) (c : Char) (cs : List Char) :
    junctionsFrom 0 i (c :: cs) = match junctionHere? (c :: cs) with
      | some (j, n) => ⟨⟨i, i + n⟩, j⟩ :: junctionsFrom (n - 1) (i + 1) cs
      | none => junctionsFrom 0 (i + 1) cs := by
  refine (junctionsFrom.eq_def 0 i (c :: cs)).trans ?_
  cases hn : junctionHere? (c :: cs) <;> simp only [hn]

/-- The junctions of a text further on are those of the text, further on. -/
theorem junctionsFrom_add (k : Nat) (skip : Nat) (i : Nat) (text : List Char) :
    junctionsFrom skip (i + k) text = (junctionsFrom skip i text).map (·.moved k) := by
  induction text generalizing skip i with
  | nil => rw [junctionsFrom_nil, junctionsFrom_nil, List.map_nil]
  | cons c text ih =>
    have hi : i + k + 1 = i + 1 + k := by omega
    cases skip with
    | succ skip =>
      rw [junctionsFrom_succ, junctionsFrom_succ, hi]
      exact ih skip (i + 1)
    | zero =>
      rw [junctionsFrom_zero, junctionsFrom_zero, hi]
      cases junctionHere? (c :: text) with
      | none => exact ih 0 (i + 1)
      | some found =>
        obtain ⟨j, n⟩ := found
        dsimp only
        rw [List.map_cons, ih, JunctionAt.moved, Span.moved, show i + k + n = i + n + k by omega]

theorem junctionsFrom_of_length_le {skip : Nat} (h : text.length ≤ skip) (i : Nat) :
    junctionsFrom skip i text = [] := by
  induction text generalizing skip i with
  | nil => exact junctionsFrom_nil skip i
  | cons c text ih =>
    cases skip with
    | zero => cases h
    | succ skip =>
      rw [junctionsFrom_succ]
      exact ih (Nat.le_of_succ_le_succ h) _

/-- White space before what does not begin with white space. -/
theorem takeWhile_blank_append {gap rest : List Char} (hg : Blank gap)
    (hr : ∀ c ∈ rest.head?, isBlank c = false) :
    (gap ++ rest).takeWhile isBlank = gap ∧ (gap ++ rest).dropWhile isBlank = rest := by
  rw [List.takeWhile_append_of_pos hg, List.dropWhile_append_of_pos hg]
  cases rest with
  | nil => exact ⟨List.append_nil gap, rfl⟩
  | cons c rest =>
    have hc : ¬isBlank c = true := by simp [hr c rfl]
    rw [List.takeWhile_cons_of_neg hc, List.dropWhile_cons_of_neg hc]
    exact ⟨List.append_nil gap, rfl⟩

/-- A text is its leading white space and what does not begin with white space. -/
theorem exists_gap (text : List Char) : ∃ gap rest, text = gap ++ rest ∧ Blank gap ∧
    ∀ c ∈ rest.head?, isBlank c = false := by
  obtain ⟨gap, hb, ht⟩ := exists_front text
  exact ⟨gap, _, ht, hb, fun c hc => head_trimFront hc⟩

theorem head_junction (j : Junction) (rest : List Char) :
    ∀ c ∈ (j.text.toList ++ rest).head?, isBlank c = false := by
  cases j <;> (intro c hc; cases hc; rfl)

/-- A junction takes so many characters at the front of a text: white space, the word, white
space. -/
def Leads (text : List Char) (j : Junction) (n : Nat) : Prop :=
  ∃ gap tail rest, text = gap ++ (j.text.toList ++ (tail ++ rest)) ∧ gap ≠ [] ∧ tail ≠ [] ∧
    Blank gap ∧ Blank tail ∧ (∀ c ∈ rest.head?, isBlank c = false) ∧
    n = gap.length + j.text.length + tail.length

theorem leads_of_word {gap more : List Char} {j j' : Junction} {n : Nat} (hne : gap ≠ [])
    (hg : Blank gap)
    (h : (if more.takeWhile isBlank = [] then none
      else some (j', gap.length + j'.text.length + (more.takeWhile isBlank).length)) =
        some (j, n)) : Leads (gap ++ (j'.text.toList ++ more)) j n := by
  obtain ⟨tail, rest, rfl, htail, hr⟩ := exists_gap more
  rw [(takeWhile_blank_append htail hr).1] at h
  split at h
  · cases h
  · rename_i htne
    cases h
    exact ⟨gap, tail, rest, rfl, hne, htne, hg, htail, hr, rfl⟩

theorem leads_of_junctionHere? {j : Junction} {n : Nat} (h : junctionHere? text = some (j, n)) :
    Leads text j n := by
  obtain ⟨gap, word, rfl, hg, hw⟩ := exists_gap text
  obtain ⟨ht, hd⟩ := takeWhile_blank_append hg hw
  unfold junctionHere? at h
  rw [ht, hd] at h
  dsimp only at h
  split at h
  · cases h
  rename_i hne
  cases ha : after? ['A', 'N', 'D'] word with
  | some more =>
    rw [ha] at h
    rw [after?_eq_some.1 ha]
    exact leads_of_word hne hg h
  | none =>
    rw [ha] at h
    dsimp only at h
    cases ho : after? ['O', 'R'] word with
    | none =>
      rw [ho] at h
      cases h
    | some more =>
      rw [ho, Option.bind_some] at h
      rw [after?_eq_some.1 ho]
      exact leads_of_word hne hg h

theorem junctionHere?_of_leads {j : Junction} {n : Nat} (h : Leads text j n) :
    junctionHere? text = some (j, n) := by
  obtain ⟨gap, tail, rest, rfl, hgap, htail, hg, ht, hr, rfl⟩ := h
  obtain ⟨h₁, h₂⟩ := takeWhile_blank_append hg (head_junction j (tail ++ rest))
  obtain ⟨h₃, -⟩ := takeWhile_blank_append ht hr
  unfold junctionHere?
  rw [h₁, h₂, if_neg hgap]
  cases j with
  | and =>
    rw [show after? ['A', 'N', 'D'] (Junction.and.text.toList ++ (tail ++ rest)) =
      some (tail ++ rest) from rfl]
    dsimp only
    rw [h₃, if_neg htail]
  | or =>
    rw [show after? ['A', 'N', 'D'] (Junction.or.text.toList ++ (tail ++ rest)) = none from rfl]
    dsimp only
    rw [show after? ['O', 'R'] (Junction.or.text.toList ++ (tail ++ rest)) =
      some (tail ++ rest) from rfl, Option.bind_some, h₃, if_neg htail]

/-- The junction that is read at the front of a text is the one that stands there. -/
theorem junctionHere?_eq_some {j : Junction} {n : Nat} :
    junctionHere? text = some (j, n) ↔ Leads text j n :=
  ⟨leads_of_junctionHere?, junctionHere?_of_leads⟩

theorem junctionHere?_eq_none : junctionHere? text = none ↔ ∀ j n, ¬Leads text j n := by
  rw [Option.eq_none_iff_forall_ne_some]
  exact ⟨fun h j n hl => h (j, n) (junctionHere?_eq_some.2 hl),
    fun h found hf => h found.1 found.2 (junctionHere?_eq_some.1 hf)⟩

theorem Leads.pos {j : Junction} {n : Nat} (h : Leads text j n) : 0 < n := by
  obtain ⟨gap, tail, rest, -, hgap, -, -, -, -, rfl⟩ := h
  have hl := List.length_pos_iff.2 hgap
  omega

theorem Leads.le {j : Junction} {n : Nat} (h : Leads text j n) : n ≤ text.length := by
  obtain ⟨gap, tail, rest, rfl, -, -, -, -, -, rfl⟩ := h
  simp only [List.length_append, String.length_toList]
  omega

/-- In a text without white space after its first word there is no junction. -/
theorem not_leads_of_solid {gap word : List Char} (hg : Blank gap) (hw : Solid word)
    (j : Junction) (n : Nat) : ¬Leads (gap ++ word) j n := by
  rintro ⟨gap', tail, rest, ht, -, htail, hg', hblank, -, -⟩
  have hword : ∀ c ∈ word.head?, isBlank c = false := fun c hc => hw c (List.mem_of_mem_head? hc)
  have hd := (takeWhile_blank_append hg hword).2
  rw [ht, (takeWhile_blank_append hg' (head_junction j _)).2] at hd
  obtain ⟨c, hc⟩ := List.exists_mem_of_ne_nil tail htail
  have hcw : c ∈ word := by
    rw [← hd]
    exact List.mem_append_right _ (List.mem_append_left _ hc)
  cases (hw c hcw).symm.trans (hblank c hc)

theorem junctionsFrom_of_solid {word : List Char} (hw : Solid word) (skip i : Nat) :
    junctionsFrom skip i word = [] := by
  induction word generalizing skip i with
  | nil => exact junctionsFrom_nil skip i
  | cons c word ih =>
    have htail : Solid word := fun d hd => hw d (List.mem_cons_of_mem c hd)
    cases skip with
    | succ skip =>
      rw [junctionsFrom_succ]
      exact ih htail skip (i + 1)
    | zero =>
      have hn : junctionHere? (c :: word) = none :=
        junctionHere?_eq_none.2 (not_leads_of_solid blank_nil hw)
      rw [junctionsFrom_zero, hn]
      exact ih htail 0 (i + 1)

theorem junctionsFrom_of_word {gap word : List Char} (hg : Blank gap) (hw : Solid word)
    (skip i : Nat) : junctionsFrom skip i (gap ++ word) = [] := by
  induction gap generalizing skip i with
  | nil => exact junctionsFrom_of_solid hw skip i
  | cons c gap ih =>
    cases skip with
    | succ skip =>
      rw [List.cons_append, junctionsFrom_succ]
      exact ih hg.tail skip (i + 1)
    | zero =>
      have hn := junctionHere?_eq_none.2 (not_leads_of_solid hg hw)
      rw [List.cons_append] at hn ⊢
      rw [junctionsFrom_zero, hn]
      exact ih hg.tail 0 (i + 1)

/-- Before braces there is no junction in a margin at the front of a text. -/
theorem junctionsFrom_blank_append (h : Blank margin) (ht : text.head? = some '\x7b') (i : Nat) :
    junctionsFrom 0 i (margin ++ text) = junctionsFrom 0 (i + margin.length) text := by
  have hhead : ∀ c ∈ text.head?, isBlank c = false := by
    intro c hc
    cases ht.symm.trans hc
    rfl
  induction margin generalizing i with
  | nil => rfl
  | cons c margin ih =>
    have hn : junctionHere? (c :: (margin ++ text)) = none := by
      refine junctionHere?_eq_none.2 fun j n hl => ?_
      obtain ⟨gap, tail, rest, hl, -, -, hg, -, -, -⟩ := hl
      have hd := (takeWhile_blank_append h hhead).2
      rw [List.cons_append, hl, (takeWhile_blank_append hg (head_junction j _)).2] at hd
      rw [← hd] at ht
      cases j <;> cases ht
    rw [List.cons_append, junctionsFrom_zero, hn, List.length_cons,
      show i + (margin.length + 1) = i + 1 + margin.length by omega]
    exact ih h.tail (i + 1)

end Dialogue.Guard

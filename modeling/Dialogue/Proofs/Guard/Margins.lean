import Dialogue.Proofs.Guard.Scanning

/-!
# Guards with margins

A guard that is written with white space around it says the same as without, unless its last word is
`AND` or `OR` in the open: then the white space after the word makes it a junction, with nothing to
join.

* `Guard.EndsInJunction`: a text at whose end a junction is found.
* `Guard.readChars_of_endsInJunction`: such a text is no guard.
* `Guard.readChars_margins`: any other text says what its trimmed form says.
-/

namespace Dialogue.Guard

open Text

variable {text margin : List Char}

/-! ### The end of a text -/

/-- A text ends in one way only in a firm part and a margin. -/
theorem firm_append_inj {a b r r' : List Char} (ha : Firm a) (hb : Firm b) (hr : Blank r)
    (hr' : Blank r') (h : a ++ r = b ++ r') : a = b ∧ r = r' := by
  have hnil : ∀ {x y z : List Char}, Firm (x ++ y) → Blank (y ++ z) → y = [] := fun hx hy =>
    (firm_append_right hx).eq_nil_of_blank fun c hc => hy c (List.mem_append_left _ hc)
  rcases List.append_eq_append_iff.1 h with ⟨x, rfl, rfl⟩ | ⟨x, rfl, rfl⟩
  · have hx := hnil hb hr
    subst hx
    exact ⟨(List.append_nil a).symm, rfl⟩
  · have hx := hnil ha hr'
    subst hx
    exact ⟨List.append_nil b, rfl⟩

theorem firm_junction (gap : List Char) (j : Junction) : Firm (gap ++ j.text.toList) := by
  intro c hc
  cases j with
  | and =>
    rw [show gap ++ Junction.and.text.toList = gap ++ ['A', 'N'] ++ ['D'] by simp; rfl,
      List.getLast?_concat] at hc
    cases hc
    rfl
  | or =>
    rw [show gap ++ Junction.or.text.toList = gap ++ ['O'] ++ ['R'] by simp; rfl,
      List.getLast?_concat] at hc
    cases hc
    rfl

theorem solid_junction (j : Junction) : Solid j.text.toList := by
  cases j <;> decide

/-- A margin at the end of a firm text makes a junction of the last word only. -/
theorem leads_append (hs : Firm text) (hne : text ≠ []) (hb : Blank margin) {j : Junction} {n : Nat}
    (h : Leads (text ++ margin) j n) :
    Leads text j n ∨ n = text.length + margin.length ∧
      ∃ gap, Blank gap ∧ text = gap ++ j.text.toList := by
  obtain ⟨gap, tail, rest, ht, hgap, htail, hg, htb, hr, rfl⟩ := h
  -- With nothing after it, the white space after the word is the margin.
  cases rest with
  | nil =>
    rw [List.append_nil, ← List.append_assoc] at ht
    obtain ⟨rfl, rfl⟩ := firm_append_inj hs (firm_junction gap j) hb htb ht
    exact .inr ⟨by rw [List.length_append, String.length_toList], gap, hg, rfl⟩
  | cons c rest =>
    have hc : isBlank c = false := hr c rfl
    rw [← List.append_assoc, ← List.append_assoc] at ht
    rcases List.append_eq_append_iff.1 ht with ⟨x, -, hx⟩ | ⟨x, hx, hx'⟩
    · have hm : c ∈ margin := by
        rw [hx]
        exact List.mem_append_right _ List.mem_cons_self
      cases (hb c hm).symm.trans hc
    · refine .inl ⟨gap, tail, x, by rw [hx]; simp, hgap, htail, hg, htb, fun d hd => ?_, rfl⟩
      cases x with
      | nil => cases hd
      | cons y x =>
        cases hd
        rw [← (List.cons.inj hx').1]
        exact hc

theorem leads_append_of_leads (hs : Firm text) {j : Junction} {n : Nat}
    (h : Leads text j n) : Leads (text ++ margin) j n := by
  obtain ⟨gap, tail, rest, rfl, hgap, htail, hg, htb, hr, rfl⟩ := h
  refine ⟨gap, tail, rest ++ margin, by simp, hgap, htail, hg, htb, fun c hc => ?_, rfl⟩
  cases rest with
  | nil =>
    rw [List.append_nil, ← List.append_assoc] at hs
    exact absurd ((firm_append_right hs).eq_nil_of_blank htb) htail
  | cons d rest => exact hr c hc

/-- A margin at the end of a firm text adds at most one junction, which takes up the end. -/
theorem junctionsFrom_append (hs : Firm text) (hb : Blank margin) (skip i : Nat) :
    ∃ last, junctionsFrom skip i (text ++ margin) = junctionsFrom skip i text ++ last ∧
      ∀ j ∈ last, j.span.stop = i + (text ++ margin).length := by
  induction text generalizing skip i with
  | nil =>
    have h := junctionsFrom_of_word hb (fun _ hm => absurd hm List.not_mem_nil) skip i
    rw [List.append_nil] at h
    exact ⟨[], by rw [List.nil_append, h, junctionsFrom_nil, List.append_nil],
      fun _ hm => absurd hm List.not_mem_nil⟩
  | cons c text ih =>
    have hlen : i + (c :: text ++ margin).length = i + 1 + (text ++ margin).length := by
      rw [List.cons_append, List.length_cons]
      omega
    cases skip with
    | succ skip =>
      rw [List.cons_append, junctionsFrom_succ, junctionsFrom_succ, ← List.cons_append, hlen]
      exact ih hs.tail skip (i + 1)
    | zero =>
      rw [hlen, List.cons_append, junctionsFrom_zero, junctionsFrom_zero, ← List.cons_append]
      cases hn : junctionHere? (c :: text) with
      | some found =>
        obtain ⟨j, n⟩ := found
        have hl : Leads (c :: text ++ margin) j n :=
          leads_append_of_leads hs (leads_of_junctionHere? hn)
        rw [junctionHere?_of_leads hl]
        dsimp only
        obtain ⟨last, h, hlast⟩ := ih hs.tail (n - 1) (i + 1)
        exact ⟨last, by rw [h, List.cons_append], hlast⟩
      | none =>
        cases hm : junctionHere? (c :: text ++ margin) with
        | none => exact ih hs.tail 0 (i + 1)
        | some found =>
          obtain ⟨j, n⟩ := found
          dsimp only
          rcases leads_append hs (by simp) hb (leads_of_junctionHere? hm) with hl | ⟨hn', gap, hg, ht⟩
          · cases hn.symm.trans (junctionHere?_of_leads hl)
          · -- The last word has become a junction; before, nothing was found from here on.
            have hnone : junctionsFrom 0 (i + 1) text = [] := by
              have h := junctionsFrom_of_word hg (solid_junction j) 0 i
              rw [← ht, junctionsFrom_zero, hn] at h
              exact h
            have hmore : junctionsFrom (n - 1) (i + 1) (text ++ margin) = [] := by
              refine junctionsFrom_of_length_le ?_ (i + 1)
              rw [hn', List.length_append, List.length_cons]
              omega
            refine ⟨[⟨⟨i, i + n⟩, j⟩], by rw [hnone, hmore, List.nil_append], fun j' hj => ?_⟩
            rw [List.mem_singleton.1 hj, hn', List.length_append, List.length_cons]
            dsimp only
            omega

/-! ### Junctions in their order -/

/-- Junctions that follow one another between two positions. -/
def Within : (first last : Nat) → List JunctionAt → Prop
  | first, last, [] => first ≤ last
  | first, last, j :: more =>
    first ≤ j.span.start ∧ j.span.start < j.span.stop ∧ Within j.span.stop last more

theorem Within.le {first last : Nat} {js : List JunctionAt} (h : Within first last js) :
    first ≤ last := by
  induction js generalizing first with
  | nil => exact h
  | cons j js ih =>
    have hrest := ih h.2.2
    have hstart := h.1
    have hstop := h.2.1
    omega

theorem Within.mono {first first' last : Nat} {js : List JunctionAt} (h : Within first last js)
    (hf : first' ≤ first) : Within first' last js := by
  cases js with
  | nil => exact Nat.le_trans hf h
  | cons j js => exact ⟨Nat.le_trans hf h.1, h.2⟩

theorem Within.filter {first last : Nat} {js : List JunctionAt} (h : Within first last js)
    (keep : JunctionAt → Bool) : Within first last (js.filter keep) := by
  induction js generalizing first with
  | nil => exact h
  | cons j js ih =>
    cases hk : keep j with
    | true =>
      rw [List.filter_cons_of_pos hk]
      exact ⟨h.1, h.2.1, ih h.2.2⟩
    | false =>
      rw [List.filter_cons_of_neg (by simp [hk])]
      exact (ih h.2.2).mono (Nat.le_trans h.1 (Nat.le_of_lt h.2.1))

theorem Within.start_lt {first last : Nat} {js : List JunctionAt} (h : Within first last js)
    {j : JunctionAt} (hj : j ∈ js) : j.span.start < last := by
  induction js generalizing first with
  | nil => cases hj
  | cons k js ih =>
    rcases List.mem_cons.1 hj with rfl | hj
    · exact Nat.lt_of_lt_of_le h.2.1 h.2.2.le
    · exact ih h.2.2 hj

/-- What stands behind a junction ends where the text ends. -/
theorem Within.stop_add_length {offset : Nat} {text : List Char} {j : JunctionAt}
    {js : List JunctionAt} (h : Within offset (offset + text.length) (j :: js)) :
    j.span.stop + ((text.drop (j.span.start - offset)).drop (j.span.stop - j.span.start)).length =
      offset + text.length := by
  obtain ⟨hstart, hstop, hrest⟩ := h
  have hle := hrest.le
  rw [List.length_drop, List.length_drop]
  omega

theorem within_junctionsFrom {text : List Char} (skip i : Nat) (h : skip ≤ text.length) :
    Within (i + skip) (i + text.length) (junctionsFrom skip i text) := by
  induction text generalizing skip i with
  | nil =>
    rw [junctionsFrom_nil]
    exact Nat.add_le_add_left h i
  | cons c text ih =>
    have hlen : i + (c :: text).length = i + 1 + text.length := by
      rw [List.length_cons]
      omega
    rw [hlen]
    cases skip with
    | succ skip =>
      rw [junctionsFrom_succ, show i + (skip + 1) = i + 1 + skip by omega]
      exact ih skip (i + 1) (Nat.le_of_succ_le_succ h)
    | zero =>
      rw [junctionsFrom_zero]
      cases hn : junctionHere? (c :: text) with
      | none => exact (ih 0 (i + 1) (Nat.zero_le _)).mono (by omega)
      | some found =>
        obtain ⟨j, n⟩ := found
        have hl := leads_of_junctionHere? hn
        have hpos := hl.pos
        have hle := hl.le
        rw [List.length_cons] at hle
        have hrest := ih (n - 1) (i + 1) (by omega)
        rw [show i + 1 + (n - 1) = i + n by omega] at hrest
        exact ⟨Nat.le_refl i, by dsimp only; omega, hrest⟩

theorem within_junctions (text : List Char) : Within 0 text.length (junctions text) := by
  have h := within_junctionsFrom 0 0 (Nat.zero_le text.length)
  rw [Nat.zero_add, Nat.zero_add] at h
  exact h.filter _

/-- A text at whose end there is a junction in the open. -/
def EndsInJunction (text : List Char) : Prop := ∃ j ∈ junctions text, j.span.stop = text.length

instance (text : List Char) : Decidable (EndsInJunction text) :=
  decidable_of_iff ((junctions text).any (·.span.stop == text.length) = true)
    (by simp [EndsInJunction])

/-- Without a junction at its end, a text has the junctions of its firm part. -/
theorem junctions_append (hs : Firm text) (hb : Blank margin)
    (he : ¬EndsInJunction (text ++ margin)) : junctions (text ++ margin) = junctions text := by
  obtain ⟨last, hj, hlast⟩ := junctionsFrom_append hs hb 0 0
  have hopen : ∀ j ∈ junctionsFrom 0 0 text,
      (shieldedSpans (text ++ margin)).any (·.covers j.span.start) =
        (shieldedSpans text).any (·.covers j.span.start) := by
    intro j hm
    have hw := within_junctionsFrom 0 0 (Nat.zero_le text.length)
    exact covers_spansFrom_append hb 0 true 0 text (hw.start_lt hm)
  have hnone : last.filter (fun j => !(shieldedSpans (text ++ margin)).any
      (·.covers j.span.start)) = [] := by
    refine List.filter_eq_nil_iff.2 fun j hm hk => he ⟨j, ?_, ?_⟩
    · refine List.mem_filter.2 ⟨?_, hk⟩
      rw [hj]
      exact List.mem_append_right _ hm
    · rw [hlast j hm, Nat.zero_add]
  unfold junctions
  dsimp only
  rw [hj, List.filter_append, hnone, List.append_nil]
  refine List.filter_congr fun j hm => ?_
  rw [hopen j hm]

/-- Before braces a margin at the front moves all junctions. -/
theorem junctions_blank_append (h : Blank margin) (ht : text.head? = some '\x7b') :
    junctions (margin ++ text) = (junctions text).map (·.moved margin.length) := by
  unfold junctions shieldedSpans
  dsimp only
  rw [junctionsFrom_blank_append h ht, junctionsFrom_add, spansFrom_blank_append h, spansFrom_add,
    List.filter_map]
  refine congrArg _ (List.filter_congr fun j _ => ?_)
  rw [Function.comp_apply, JunctionAt.start_moved, List.any_map]
  refine congrArg _ (congrArg _ (funext fun span => ?_))
  rw [Function.comp_apply, Span.covers_moved]

end Dialogue.Guard

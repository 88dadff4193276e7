import Dialogue.Proofs.Guard.Variables

/-!
# Layouts of predicates

A predicate can be written in many ways: with white space at both sides of its variable, before its
operator and before its value, and with any spelling of the operator. Whatever the layout of a piece
that is read as a predicate, the canonical layout of that predicate is read alike.

* `Guard.Layout`: what is written of a predicate beside its variable and its value.
* `Guard.exists_layout`: a piece that is read as a predicate is one of its layouts.
* `Guard.readPredicate_layout`: of a predicate that has been read, the canonical layout is read
  alike.
* `Guard.braceless_iff`: a variable is free of double braces when it stands in braces of its own, or
  is blank.
-/

namespace Dialogue.Guard

open Text

variable {p : Predicate} {a b s : List Char}

/-! ### Layouts -/

/-- The value of a predicate, or nothing. -/
def valueText (p : Predicate) : List Char := p.value.elim [] String.toList

/-- What is written of a predicate beside its variable and its value: white space at both sides of
the variable, before the operator and before the value, and the operator in one of its spellings. -/
structure Layout (p : Predicate) where
  front : List Char
  back : List Char
  before : List Char
  operator : List Char
  gap : List Char
  blank_front : Blank front
  blank_back : Blank back
  blank_before : Blank before
  blank_gap : Blank gap
  spelled : Spelled operator
  head_operator : ∀ c ∈ operator.head?, isBlank c = false
  gap_eq_nil : gap = [] ↔ valueText p = []

namespace Layout

/-- What follows the closing braces. -/
def tail (l : Layout p) : List Char := l.before ++ (l.operator ++ (l.gap ++ valueText p))

/-- What follows the variable. -/
def rest (l : Layout p) : List Char := l.back ++ '\x7d' :: '\x7d' :: l.tail

/-- A predicate in a layout. -/
def text (l : Layout p) : List Char :=
  '\x7b' :: '\x7b' :: (l.front ++ (p.subject.toList ++ l.rest))

theorem head_gap (l : Layout p) : ∀ c ∈ (l.gap ++ valueText p).head?, isBlank c = true := by
  intro c hc
  cases hg : l.gap with
  | nil =>
    rw [hg, l.gap_eq_nil.1 hg] at hc
    cases hc
  | cons d gap =>
    rw [hg] at hc
    cases hc
    exact l.blank_gap c (by rw [hg]; exact List.mem_cons_self)

theorem dropWhile_tail (l : Layout p) :
    l.tail.dropWhile isBlank = l.operator ++ (l.gap ++ valueText p) := by
  refine (takeWhile_blank_append l.blank_before ?_).2
  obtain ⟨c, o, ho⟩ := List.exists_cons_of_ne_nil l.spelled.ne_nil
  have hhead := l.head_operator
  rw [ho] at hhead ⊢
  exact hhead

theorem ending?_rest_eq (l : Layout p) :
    ending? l.rest = operatorHere? (l.operator ++ (l.gap ++ valueText p)) := by
  rw [rest, ending?_blank_append l.blank_back, ending?_braces, dropWhile_tail]

/-- The variable is ended behind it. -/
theorem isSome_ending? (l : Layout p) : (ending? l.rest).isSome = true := by
  rw [ending?_rest_eq]
  exact l.spelled.isSome l.head_gap

end Layout

/-- A predicate with a value exactly when its operator needs one, and that without white space at
its ends. -/
structure Tidy (p : Predicate) : Prop where
  value_isSome : p.value.isSome = p.operator.needsValue
  value_ne_nil : ∀ v ∈ p.value, v.toList ≠ []
  head : ∀ c ∈ (valueText p).head?, isBlank c = false
  firm : Firm (valueText p)

theorem Tidy.valueText_eq_nil (h : Tidy p) : valueText p = [] ↔ p.value = none := by
  rw [valueText]
  cases hv : p.value with
  | none => simp
  | some v => simpa using h.value_ne_nil v hv

theorem Tidy.value_eq (h : Tidy p) :
    p.value = if valueText p = [] then none else some (String.ofList (valueText p)) := by
  split
  · rename_i hnil
    exact h.valueText_eq_nil.1 hnil
  · rename_i hne
    rw [h.valueText_eq_nil] at hne
    obtain ⟨v, hv⟩ := Option.ne_none_iff_exists'.1 hne
    rw [valueText, hv]
    exact congrArg some String.ofList_toList.symm

theorem spelled_text (op : Operator) : Spelled op.text.toList := by
  have h : operatorHere? (op.text.toList ++ []) = some (op.text.toList, [].dropWhile isBlank) :=
    operatorHere?_text op (by simp)
  rw [List.append_nil] at h
  exact (operatorHere?_eq_some h).1

/-- The layout in which a predicate is written. -/
def canonical (p : Predicate) : Layout p where
  front := []
  back := []
  before := [' ']
  operator := p.operator.text.toList
  gap := if valueText p = [] then [] else [' ']
  blank_front := blank_nil
  blank_back := blank_nil
  blank_before := by simp [Blank, isBlank]
  blank_gap := by
    split
    · exact blank_nil
    · simp [Blank, isBlank]
  spelled := spelled_text p.operator
  head_operator := not_blank_of_all (by cases p.operator <;> decide)
  gap_eq_nil := by
    split <;> simp [*]

theorem Tidy.written_eq (h : Tidy p) : p.written = (canonical p).text := by
  have hargument : argument p = (canonical p).gap ++ valueText p := by
    have hnil := h.valueText_eq_nil
    rw [argument, canonical]
    dsimp only
    cases hv : p.value with
    | none => simp [hnil.2 hv]
    | some v =>
      rw [if_neg (by simp [hnil, hv]), valueText, hv]
      rfl
  rw [Guard.written_eq, hargument]
  simp [Layout.text, Layout.rest, Layout.tail, canonical]

theorem Tidy.firm_text (h : Tidy p) : Firm (canonical p).text := by
  have hoperator : Firm p.operator.text.toList := firm_operator p.operator
  have hlast : Firm (p.operator.text.toList ++ ((canonical p).gap ++ valueText p)) := by
    by_cases hv : valueText p = []
    · rw [(canonical p).gap_eq_nil.2 hv, hv]
      simpa using hoperator
    · exact firm_append (firm_append h.firm hv _) (by simp [hv]) _
  have hne : p.operator.text.toList ++ ((canonical p).gap ++ valueText p) ≠ [] := by
    simp [(spelled_text p.operator).ne_nil]
  have htext : (canonical p).text =
      '\x7b' :: '\x7b' :: (p.subject.toList ++ ['\x7d', '\x7d', ' ']) ++
        (p.operator.text.toList ++ ((canonical p).gap ++ valueText p)) := by
    simp [Layout.text, Layout.rest, Layout.tail, canonical]
  rw [htext]
  exact firm_append hlast hne _

/-- A piece that is read as a predicate is one of its layouts, with the variable as short as can be.
-/
theorem exists_layout {piece : List Char} (h : readPredicate piece = .ok p) :
    Tidy p ∧ ∃ l : Layout p, trim piece = l.text ∧ Earliest p.subject.toList l.rest := by
  obtain ⟨inner, operator, value, htrim, hvariable, hop, hneeds, hvalue⟩ := readPredicate_eq_ok.1 h
  obtain ⟨front, rest, rfl, hfront, hearliest, hend⟩ := variableAfter_eq_some.1 hvariable
  obtain ⟨back, before, more, rfl, hback, hbefore, hspelled, hoperator, hmore, rfl⟩ :=
    ending?_eq_some hend
  obtain ⟨gap, v, rfl, hgap, hv⟩ := exists_gap more
  rw [(takeWhile_blank_append hgap hv).2] at hvalue hend
  -- The piece is trimmed, so its value has no white space behind it.
  have hmargins := exists_margins piece
  obtain ⟨-, -, -, -, -, hfirm⟩ := hmargins
  rw [htrim] at hfirm
  have htext : '\x7b' :: '\x7b' :: (front ++ (p.subject.toList ++ (back ++ '\x7d' :: '\x7d' ::
      (before ++ operator)))) ++ (gap ++ v) = '\x7b' :: '\x7b' :: (front ++ (p.subject.toList ++
        (back ++ '\x7d' :: '\x7d' :: (before ++ (operator ++ (gap ++ v)))))) := by simp
  rw [← htext] at hfirm
  have hgv : Firm (gap ++ v) := firm_append_right hfirm
  have hvfirm : Firm v := firm_append_right hgv
  rw [trim_of_firm hv hvfirm] at hvalue
  have htext : valueText p = v := by
    rw [valueText, hvalue]
    split
    · rename_i hnil
      exact hnil.symm
    · exact String.toList_ofList
  have hnil : gap = [] ↔ v = [] := by
    constructor
    · rintro rfl
      rcases v with _ | ⟨c, v⟩
      · rfl
      · cases (hmore c rfl).symm.trans (hv c rfl)
    · rintro rfl
      rw [List.append_nil] at hgv
      exact hgv.eq_nil_of_blank hgap
  refine ⟨⟨hneeds, fun w hw => ?_, by rwa [htext], by rwa [htext]⟩,
    ⟨front, back, before, operator, gap, hfront, hback, hbefore, hgap, hspelled, hoperator,
      by rwa [htext]⟩, ?_, ?_⟩
  · rw [Option.mem_def.1 hw] at hvalue
    split at hvalue
    · cases hvalue
    · rename_i hne
      cases hvalue
      rwa [String.toList_ofList]
  · simpa only [Layout.text, Layout.rest, Layout.tail, htext] using htrim
  · simpa only [Layout.rest, Layout.tail, htext] using hearliest

/-! ### The canonical layout -/

theorem Endless.of_append (h : Endless (a ++ b)) : Endless b := fun x z heq hx =>
  h (a ++ x) z (by rw [heq, List.append_assoc]) (by simp [hx])

theorem Endless.ending?_eq (h : Endless (a ++ b)) (ha : a ≠ []) : ending? b = none :=
  h a b rfl ha

/-- Nothing is ended where there is no closing brace. -/
theorem ending?_append (ha : '\x7d' ∉ a) (hb : ending? b = none) : ending? (a ++ b) = none := by
  induction a with
  | nil => exact hb
  | cons c a ih =>
    rw [List.mem_cons, not_or] at ha
    cases hc : isBlank c with
    | true =>
      have hblank : Blank [c] := fun d hd => by rwa [List.mem_singleton.1 hd]
      exact (ending?_blank_append hblank (a ++ b)).trans (ih ha.2)
    | false => exact ending?_cons_of_ne hc (Ne.symm ha.1) _

theorem endless_append (ha : '\x7d' ∉ a) (hend : ending? b = none) (hb : Endless b) :
    Endless (a ++ b) := by
  induction a with
  | nil => exact hb
  | cons c a ih =>
    rw [List.mem_cons, not_or] at ha
    exact endless_cons.2 ⟨ending?_append ha.2 hend, ih ha.2⟩

/-- When nothing after the variable ends one in a layout, nothing does in the canonical one. -/
theorem Layout.endless_canonical (l : Layout p) (h : Endless l.rest) :
    Endless (canonical p).rest := by
  have hrest : l.rest =
      (l.back ++ '\x7d' :: '\x7d' :: (l.before ++ (l.operator ++ l.gap))) ++ valueText p := by
    simp [Layout.rest, Layout.tail]
  rw [hrest] at h
  have hvalue : ending? (valueText p) = none := h.ending?_eq (by simp)
  have hbrace : '\x7d' ∉ ' ' :: (p.operator.text.toList ++ (canonical p).gap) := by
    have hgap : '\x7d' ∉ (canonical p).gap := fun hm => by
      cases (canonical p).blank_gap _ hm
    have hoperator : '\x7d' ∉ p.operator.text.toList := fun hm =>
      absurd rfl ((spelled_text p.operator).bare _ hm).2.1
    simp [hgap, hoperator]
  have hend := ending?_append hbrace hvalue
  have hless := endless_append hbrace hvalue h.of_append
  have heq : (canonical p).rest = '\x7d' :: '\x7d' ::
      (' ' :: (p.operator.text.toList ++ (canonical p).gap) ++ valueText p) := by
    simp [Layout.rest, Layout.tail, canonical]
  rw [heq]
  exact endless_cons.2 ⟨ending?_brace_of_ne (by decide) _, endless_cons.2 ⟨hend, hless⟩⟩

/-- A variable that is the shortest in a layout is the shortest in the canonical one. -/
theorem Layout.earliest_canonical (l : Layout p) (h : Earliest p.subject.toList l.rest) :
    Earliest p.subject.toList (canonical p).rest := by
  obtain ⟨hne, hshort, hfront⟩ := h
  refine ⟨hne, fun x z heq hx hz => ?_, hfront.imp_right fun ⟨b, hb, hblank, hless⟩ =>
    ⟨b, hb, hblank, l.endless_canonical hless⟩⟩
  have hnone := hshort x z heq hx hz
  cases hend : ending? (z ++ (canonical p).rest) with
  | none => rfl
  | some found =>
    have hz : ¬Blank z := fun hz => by
      have hsome := l.isSome_ending?
      rw [← ending?_blank_append hz, hnone] at hsome
      cases hsome
    have hsome := ending?_isSome_append hz (b := (canonical p).tail) (by
      show (ending? (z ++ (canonical p).rest)).isSome = true
      rw [hend]
      rfl) l.rest
    rw [hnone] at hsome
    cases hsome

/-- **Of a predicate that has been read, what is written is read alike.** -/
theorem readPredicate_layout {piece : List Char} (h : readPredicate piece = .ok p) :
    readPredicate p.written = .ok p := by
  obtain ⟨htidy, l, -, hearliest⟩ := exists_layout h
  have hend : ending? (canonical p).rest = some (p.operator.text.toList, valueText p) := by
    rw [Layout.ending?_rest_eq]
    refine (operatorHere?_text p.operator (canonical p).head_gap).trans ?_
    rw [(takeWhile_blank_append (canonical p).blank_gap htidy.head).2]
  have hvariable :=
    variableAfter_eq_some.2 ⟨[], _, rfl, blank_nil, l.earliest_canonical hearliest, hend⟩
  have htrim : trim p.written = p.written := by
    rw [htidy.written_eq]
    exact trim_of_firm (fun c hc => by cases hc; rfl) htidy.firm_text
  refine readPredicate_eq_ok.2 ⟨_, _, _, ?_, hvariable, operatorOf_text _, htidy.value_isSome, ?_⟩
  · rw [htrim, htidy.written_eq]
    rfl
  · rw [trim_of_firm htidy.head htidy.firm]
    exact htidy.value_eq

/-! ### Braces in variables -/

/-- A text with no double braces in it. -/
structure Braceless (s : List Char) : Prop where
  opening : ¬['\x7b', '\x7b'] <:+: s
  closing : ¬['\x7d', '\x7d'] <:+: s

theorem Braceless.of_append (h : Braceless (a ++ b)) : Braceless a :=
  ⟨fun hi => h.opening (hi.trans (List.prefix_append a b).isInfix),
    fun hi => h.closing (hi.trans (List.prefix_append a b).isInfix)⟩

theorem braceless_of_blank (h : Blank s) : Braceless s := by
  have hnot : ∀ c, isBlank c = false → ¬[c, c] <:+: s := fun c hc hi => by
    have hmem : c ∈ s := hi.subset (by simp)
    cases hc.symm.trans (h c hmem)
  exact ⟨hnot _ (by decide), hnot _ (by decide)⟩

/-- At the front of a piece a variable without double braces stands in braces of its own, and an
operator follows these. -/
def Formed (piece : List Char) : Prop :=
  ∃ front s back tail, trim piece =
      '\x7b' :: '\x7b' :: (front ++ (s ++ (back ++ '\x7d' :: '\x7d' :: tail))) ∧
    Blank front ∧ Blank back ∧ s ≠ [] ∧ (∀ c ∈ s.head?, isBlank c = false) ∧ Braceless s ∧
    (operatorHere? (tail.dropWhile isBlank)).isSome = true

/-- **The variable that is read is free of double braces exactly when one that is so stands in
braces of its own, before an operator.** A blank between the braces is read as well. -/
theorem braceless_iff {piece : List Char} (h : readPredicate piece = .ok p) :
    Braceless p.subject.toList ↔ Formed piece ∨ Blank p.subject.toList := by
  constructor
  · intro hs
    obtain ⟨-, l, htrim, hne, -, hfront⟩ := exists_layout h
    rcases hfront with hhead | ⟨b, hb, hblank, -⟩
    · have hsome := l.isSome_ending?
      rw [Layout.rest, ending?_blank_append l.blank_back, ending?_braces] at hsome
      exact .inl ⟨l.front, _, l.back, l.tail, htrim, l.blank_front, l.blank_back, hne, hhead, hs,
        hsome⟩
    · refine .inr fun c hc => ?_
      rw [hb] at hc
      rwa [List.mem_singleton.1 hc]
  · rintro (⟨front, s, back, tail, htrim, hfront, hback, hne, hhead, hs, hsome⟩ | hblank)
    · obtain ⟨inner, operator, value, htrim', hvariable, -⟩ := readPredicate_eq_ok.1 h
      rw [htrim] at htrim'
      obtain rfl : _ = inner := by simpa using htrim'
      obtain ⟨c, s', rfl⟩ := List.exists_cons_of_ne_nil hne
      have hword : ∀ d ∈ (c :: s' ++ (back ++ '\x7d' :: '\x7d' :: tail)).head?, isBlank d = false :=
        hhead
      rw [(takeWhile_blank_append hfront hword).1, variableAfter_eq hfront,
        Option.or_eq_some_iff] at hvariable
      have hend : ending? (back ++ '\x7d' :: '\x7d' :: tail) ≠ none := by
        rw [ending?_blank_append hback, ending?_braces]
        exact Option.isSome_iff_ne_none.1 hsome
      rcases hvariable with hvariable | ⟨hnone, -⟩
      · obtain ⟨name, rest, heq, -, hshort, -, hname⟩ := variableFrom_eq_some.1 hvariable
        rw [hname, List.reverse_nil, List.nil_append]
        -- The shortest variable is no longer than the one that stands there.
        rcases List.append_eq_append_iff.1 heq with ⟨x, rfl, hx⟩ | ⟨x, hx, -⟩
        · by_cases hnil : x = []
          · rw [hnil, List.append_nil]
            exact hs
          · rw [hx] at hend
            exact absurd (hshort _ x rfl (by simp) hnil) hend
        · rw [hx] at hs
          exact hs.of_append
      · exact absurd ((variableFrom_eq_none.1 hnone).ending?_eq hne) hend
    · exact braceless_of_blank hblank

end Dialogue.Guard

import Dialogue.Proofs.Guard.Stored

/-!
# Guards that are written and read

A guard that is written with its values in quotation marks is read back as it was. A variable in
braces and a value in quotation marks may hold `AND`, `OR` and more: each of them hides its own
junctions, and none of these reaches beyond, so the junctions left in the open are those that join
the predicates.

* `Guard.Hides`: a piece of text whose junctions all lie in spans of its own.
* `Guard.junctions_written_append`: the first junction after a predicate is the one written there.
* `Guard.read_written`: what is read from a written guard is that guard.
-/

namespace Dialogue

open Text

namespace Guard

/-! ### Pieces that hide their junctions -/

theorem spansFrom_length (text rest : List Char) (i : Nat) :
    spansFrom text.length false i (text ++ rest) = spansFrom 0 false (i + text.length) rest := by
  induction text generalizing i with
  | nil => rfl
  | cons c text ih =>
    rw [List.length_cons, List.cons_append, spansFrom, ih, Nat.add_assoc, Nat.add_comm 1]

theorem junctionsFrom_length (text rest : List Char) (i : Nat) :
    junctionsFrom text.length i (text ++ rest) = junctionsFrom 0 (i + text.length) rest := by
  induction text generalizing i with
  | nil => rfl
  | cons c text ih =>
    rw [List.length_cons, List.cons_append, junctionsFrom_succ, ih, Nat.add_assoc, Nat.add_comm 1]

/-- A character that is no part of any junction. -/
def IsBar (c : Char) : Prop := isBlank c = false ∧ ∀ j : Junction, c ∉ j.text.toList

theorem isBar_brace : IsBar '\x7d' := ⟨by decide, fun j => by cases j <;> decide⟩

theorem isBar_quote : IsBar '"' := ⟨by decide, fun j => by cases j <;> decide⟩

variable {c : Char} {text rest : List Char}

/-- A junction does not reach over a bar. -/
theorem Leads.le_of_isBar {j : Junction} {n : Nat} (hc : IsBar c)
    (h : Leads (text ++ c :: rest) j n) : n ≤ text.length := by
  obtain ⟨gap, tail, more, ht, -, -, hg, hblank, -, rfl⟩ := h
  have hn : gap.length + j.text.length + tail.length =
      (gap ++ (j.text.toList ++ tail)).length := by
    rw [List.length_append, List.length_append, String.length_toList, Nat.add_assoc]
  have ht' : text ++ c :: rest = gap ++ (j.text.toList ++ tail) ++ more := by
    rw [ht]
    simp only [List.append_assoc]
  rw [hn]
  rcases List.append_eq_append_iff.1 ht' with ⟨x, hx, hx'⟩ | ⟨x, hx, -⟩
  · cases x with
    | nil =>
      have hlen : (gap ++ (j.text.toList ++ tail)).length = text.length := by
        rw [hx, List.append_nil]
      exact Nat.le_of_eq hlen
    | cons d x =>
      have hmem : c ∈ gap ++ (j.text.toList ++ tail) := by
        rw [hx, (List.cons.inj hx').1]
        exact List.mem_append_right _ List.mem_cons_self
      rcases List.mem_append.1 hmem with hm | hm
      · cases hc.1.symm.trans (hg c hm)
      · rcases List.mem_append.1 hm with hm | hm
        · exact absurd hm (hc.2 j)
        · cases hc.1.symm.trans (hblank c hm)
  · have hl := congrArg List.length hx
    rw [List.length_append] at hl
    omega

theorem junctionHere?_of_not_blank (hc : isBlank c = false) (rest : List Char) :
    junctionHere? (c :: rest) = none := by
  have hn : ¬isBlank c = true := by simp [hc]
  rw [junctionHere?]
  dsimp only
  rw [List.takeWhile_cons_of_neg hn, if_pos rfl]

/-- Where no junction of a text reaches beyond it, what follows is scanned as if nothing stood before,
and each junction that is found in the text leads there. -/
theorem junctionsFrom_append_of_le (hle : ∀ x d y, text = x ++ d :: y →
      ∀ j n, Leads (d :: (y ++ rest)) j n → n ≤ y.length + 1)
    {skip : Nat} (hs : skip ≤ text.length) (i : Nat) :
    ∃ inner, junctionsFrom skip i (text ++ rest) =
        inner ++ junctionsFrom 0 (i + text.length) rest ∧
      ∀ l ∈ inner, ∃ x d y n, text = x ++ d :: y ∧ Leads (d :: (y ++ rest)) l.junction n ∧
        l.span.start = i + x.length := by
  induction text generalizing skip i with
  | nil =>
    obtain rfl : skip = 0 := Nat.le_zero.1 hs
    exact ⟨[], rfl, fun l hl => absurd hl List.not_mem_nil⟩
  | cons d text ih =>
    have hlen : i + (d :: text).length = i + 1 + text.length := by
      rw [List.length_cons]
      omega
    rw [hlen, List.cons_append]
    -- What is found further on leads further on.
    have hlater : ∀ {skip}, skip ≤ text.length → ∃ inner,
        junctionsFrom skip (i + 1) (text ++ rest) =
          inner ++ junctionsFrom 0 (i + 1 + text.length) rest ∧
        ∀ l ∈ inner, ∃ x e y n, d :: text = x ++ e :: y ∧
          Leads (e :: (y ++ rest)) l.junction n ∧ l.span.start = i + x.length := by
      intro skip hs
      obtain ⟨inner, hj, hi⟩ := ih (fun x e y ht => hle (d :: x) e y (by rw [ht]; rfl)) hs (i + 1)
      refine ⟨inner, hj, fun l hl => ?_⟩
      obtain ⟨x, e, y, n, rfl, hlead, hstart⟩ := hi l hl
      exact ⟨d :: x, e, y, n, rfl, hlead, by rw [hstart, List.length_cons]; omega⟩
    cases skip with
    | succ skip =>
      rw [junctionsFrom_succ]
      exact hlater (Nat.le_of_succ_le_succ hs)
    | zero =>
      rw [junctionsFrom_zero]
      cases hn : junctionHere? (d :: (text ++ rest)) with
      | none => exact hlater (Nat.zero_le _)
      | some found =>
        obtain ⟨j, n⟩ := found
        have hlead := leads_of_junctionHere? hn
        obtain ⟨inner, hj, hi⟩ := hlater (Nat.sub_le_iff_le_add.2 (hle [] d text rfl j n hlead))
        dsimp only
        refine ⟨⟨⟨i, i + n⟩, j⟩ :: inner, by rw [hj]; rfl, fun l hl => ?_⟩
        rcases List.mem_cons.1 hl with rfl | hl
        · exact ⟨[], d, text, n, rfl, hlead, rfl⟩
        · exact hi l hl

/-- The junctions before a bar begin there, and those after it are found as if nothing stood
before. -/
theorem junctionsFrom_append_isBar (hc : IsBar c) (text rest : List Char) (i : Nat) :
    ∃ inner, junctionsFrom 0 i (text ++ c :: rest) =
        inner ++ junctionsFrom 0 (i + text.length + 1) rest ∧
      ∀ j ∈ inner, i ≤ j.span.start ∧ j.span.start < i + text.length := by
  have hle : ∀ x d y, text = x ++ d :: y →
      ∀ j n, Leads (d :: (y ++ c :: rest)) j n → n ≤ y.length + 1 :=
    fun x d y _ j n (hl : Leads (d :: y ++ c :: rest) j n) => hl.le_of_isBar hc
  obtain ⟨inner, hj, hi⟩ := junctionsFrom_append_of_le hle (Nat.zero_le _) i
  refine ⟨inner, ?_, fun j hm => ?_⟩
  · rw [hj, junctionsFrom_zero, junctionHere?_of_not_blank hc.1]
  · obtain ⟨x, d, y, n, rfl, -, hstart⟩ := hi j hm
    rw [hstart, List.length_append, List.length_cons]
    omega

/-- A piece of text before the rest of it, the first at the start of a word or not and the rest not:
both are scanned apart, and all junctions of the piece lie in spans of the piece. -/
def Hides (atWord : Bool) (piece rest : List Char) : Prop :=
  ∀ i, ∃ inner spans,
    junctionsFrom 0 i (piece ++ rest) = inner ++ junctionsFrom 0 (i + piece.length) rest ∧
    spansFrom 0 atWord i (piece ++ rest) = spans ++ spansFrom 0 false (i + piece.length) rest ∧
    (∀ j ∈ inner, spans.any (·.covers j.span.start) = true) ∧
    ∀ s ∈ spans, s.stop ≤ i + piece.length

theorem hides_nil (rest : List Char) : Hides false [] rest := fun _ =>
  ⟨[], [], rfl, rfl, fun _ h => absurd h List.not_mem_nil, fun _ h => absurd h List.not_mem_nil⟩

theorem Hides.append {atWord : Bool} {a b rest : List Char} (ha : Hides atWord a (b ++ rest))
    (hb : Hides false b rest) : Hides atWord (a ++ b) rest := by
  intro i
  obtain ⟨inner, spans, hj, hs, hcover, hstop⟩ := ha i
  obtain ⟨inner', spans', hj', hs', hcover', hstop'⟩ := hb (i + a.length)
  refine ⟨inner ++ inner', spans ++ spans', ?_, ?_, fun j hm => ?_, fun s hm => ?_⟩
  · rw [List.append_assoc, hj, hj', List.length_append, Nat.add_assoc, List.append_assoc]
  · rw [List.append_assoc, hs, hs', List.length_append, Nat.add_assoc, List.append_assoc]
  · rw [List.any_append, Bool.or_eq_true]
    exact (List.mem_append.1 hm).imp (hcover j) (hcover' j)
  · rw [List.length_append, ← Nat.add_assoc]
    rcases List.mem_append.1 hm with hm | hm
    · exact Nat.le_trans (hstop s hm) (Nat.le_add_right _ _)
    · exact hstop' s hm

/-- A span whose last character is a bar hides its junctions. -/
theorem hides_of_spanHere? {atWord : Bool} {d : Char} (hc : IsBar c)
    (h : spanHere? atWord d (text ++ c :: rest) = some (text.length + 2)) :
    Hides atWord (d :: (text ++ [c])) rest := by
  intro i
  have htext : d :: (text ++ [c]) ++ rest = d :: text ++ c :: rest := by simp
  have hlen : (d :: (text ++ [c])).length = text.length + 2 := by simp
  rw [htext, hlen]
  obtain ⟨inner, hj, hi⟩ := junctionsFrom_append_isBar hc (d :: text) rest i
  refine ⟨inner, [⟨i, i + (text.length + 2)⟩], ?_, ?_, fun j hm => ?_, fun s hm => ?_⟩
  · rw [hj, List.length_cons, Nat.add_assoc]
  · have hskip := spansFrom_length (text ++ [c]) rest (i + 1)
    rw [List.length_append, List.append_assoc] at hskip
    rw [List.cons_append, spansFrom_zero, h]
    refine congrArg _ (hskip.trans ?_)
    rw [List.length_singleton, Nat.add_assoc, Nat.add_comm 1]
    rfl
  · obtain ⟨hl, hr⟩ := hi j hm
    rw [List.length_cons] at hr
    have hr' : j.span.start < i + (text.length + 2) := by omega
    simp [Span.covers, hl, hr']
  · cases List.mem_singleton.1 hm
    exact Nat.le_refl _

/-- A variable in braces hides its junctions. -/
theorem hides_braces (h : '\x7d' ∉ text) (rest : List Char) :
    Hides true ('\x7b' :: '\x7b' :: (text ++ ['\x7d', '\x7d'])) rest := by
  have hcut : cut? ['\x7d', '\x7d'] ('\x7b' :: '\x7b' :: text ++ ('\x7d' :: ['\x7d'] ++ rest)) =
      some ('\x7b' :: '\x7b' :: text, rest) :=
    cut?_append_mark (by simpa using h) ['\x7d'] rest
  have hspan : spanHere? true '\x7b' ('\x7b' :: text ++ ['\x7d'] ++ '\x7d' :: rest) =
      some (('\x7b' :: text ++ ['\x7d']).length + 2) := by
    have htext : '\x7b' :: ('\x7b' :: text ++ ['\x7d'] ++ '\x7d' :: rest) =
        '\x7b' :: '\x7b' :: text ++ ('\x7d' :: ['\x7d'] ++ rest) := by simp
    have hopen : begins ['\x7b', '\x7b'] ('\x7b' :: '\x7b' :: text ++ ('\x7d' :: ['\x7d'] ++ rest)) =
      true := rfl
    rw [spanHere?, htext, hcut, if_pos hopen]
    simp
  have hh := hides_of_spanHere? isBar_brace hspan
  rwa [List.append_assoc] at hh

/-- A value in quotation marks hides its junctions. -/
theorem hides_quoted (h : '"' ∉ text) (rest : List Char) :
    Hides true ('"' :: (text ++ ['"'])) rest := by
  refine hides_of_spanHere? isBar_quote ?_
  rw [spanHere?, if_neg (by simp [begins, after?]), if_pos (by simp),
    show text ++ '"' :: rest = text ++ (['"'] ++ rest) from rfl, cut?_append_mark h]
  rfl

/-- A blank before a piece that begins with a bar. -/
theorem Hides.blank {piece : List Char} (hc : IsBar c) (h : Hides true (c :: piece) rest) :
    Hides false (' ' :: c :: piece) rest := by
  intro i
  obtain ⟨inner, spans, hj, hs, hcover, hstop⟩ := h (i + 1)
  have hlen : i + (' ' :: c :: piece).length = i + 1 + (c :: piece).length := by
    rw [List.length_cons]
    omega
  have hn : junctionHere? (' ' :: (c :: piece ++ rest)) = none := by
    refine junctionHere?_eq_none.2 fun j n hl => ?_
    have hle : n ≤ [' '].length := hl.le_of_isBar hc
    obtain ⟨gap, tail, more, -, hgap, htail, -, -, -, rfl⟩ := hl
    have hg := List.length_pos_iff.2 hgap
    have ht := List.length_pos_iff.2 htail
    rw [List.length_singleton] at hle
    omega
  rw [hlen]
  refine ⟨inner, spans, ?_, ?_, hcover, hstop⟩
  · rw [List.cons_append, junctionsFrom_zero, hn]
    exact hj
  · rw [List.cons_append, spansFrom_zero, spanHere?_of_blank rfl]
    exact hs

/-- An operator has nothing to hide. -/
theorem hides_operator (op : Operator) (rest : List Char) :
    Hides false (' ' :: op.text.toList) rest := by
  intro i
  refine ⟨[], [], ?_, ?_, fun _ h => absurd h List.not_mem_nil,
    fun _ h => absurd h List.not_mem_nil⟩
  · cases op <;> rfl
  · cases op <;> rfl

/-! ### Predicates -/

/-- What a predicate writes after its operator. -/
def argument (p : Predicate) : List Char :=
  match p.value with
  | none => []
  | some v => ' ' :: v.toList

theorem written_eq (p : Predicate) : p.written =
    '\x7b' :: '\x7b' :: (p.subject.toList ++ ['\x7d', '\x7d']) ++
      (' ' :: p.operator.text.toList ++ argument p) := by
  rw [Predicate.written, argument]
  cases p.value <;> simp

/-- A predicate whose variable has no closing brace and no white space at its ends, and whose value,
when its operator needs one, is a text in quotation marks. An opening brace does no harm. -/
structure Legible (p : Predicate) : Prop where
  subject_ne_nil : p.subject.toList ≠ []
  close_notMem : '\x7d' ∉ p.subject.toList
  head : ∀ c ∈ p.subject.toList.head?, isBlank c = false
  firm : Firm p.subject.toList
  value_of_bare : p.operator.needsValue = false → p.value = none
  value_of_needsValue : p.operator.needsValue = true →
    ∃ v, '"' ∉ v ∧ p.value = some (String.ofList ('"' :: (v ++ ['"'])))

namespace Legible

variable {p : Predicate}

/-- A legible predicate has no value or one in quotation marks, as its operator needs. -/
theorem argument_cases (h : Legible p) :
    (p.operator.needsValue = false ∧ p.value = none ∧ argument p = []) ∨
      (p.operator.needsValue = true ∧ ∃ v, '"' ∉ v ∧
        p.value = some (String.ofList ('"' :: (v ++ ['"']))) ∧
        argument p = ' ' :: '"' :: (v ++ ['"'])) := by
  cases hn : p.operator.needsValue with
  | false =>
    have hv := h.value_of_bare hn
    exact .inl ⟨rfl, hv, by rw [argument, hv]⟩
  | true =>
    obtain ⟨v, hq, hv⟩ := h.value_of_needsValue hn
    refine .inr ⟨rfl, v, hq, hv, ?_⟩
    rw [argument, hv]
    dsimp only
    rw [String.toList_ofList]

/-- A written predicate hides its junctions. -/
theorem hides (h : Legible p) (rest : List Char) : Hides true p.written rest := by
  rw [written_eq]
  refine (hides_braces h.close_notMem _).append ((hides_operator _ _).append ?_)
  obtain ⟨-, -, ha⟩ | ⟨-, v, hq, -, ha⟩ := h.argument_cases
  · rw [ha]
    exact hides_nil rest
  · rw [ha]
    exact (hides_quoted hq rest).blank isBar_quote

end Legible

/-! ### Junctions in the open -/

/-- A junction as it is written between two predicates. -/
def separator (j : Junction) : List Char := ' ' :: (j.text.toList ++ [' '])

theorem leads_separator (j : Junction) (hr : ∀ c ∈ rest.head?, isBlank c = false) :
    Leads (separator j ++ rest) j (separator j).length := by
  have hblank : Blank [' '] := by simp [Blank, isBlank]
  refine ⟨[' '], [' '], rest, by simp [separator], by simp, by simp, hblank, hblank, hr, ?_⟩
  cases j <;> rfl

theorem written_cons (p q : Predicate) (j : Junction) (rest : List (Junction × Predicate)) :
    written ⟨p, (j, q) :: rest⟩ = p.written ++ (separator j ++ written ⟨q, rest⟩) := by
  simp [written, separator]

theorem junctions_written {p : Predicate} (h : Legible p) : junctions p.written = [] := by
  obtain ⟨inner, spans, hj, hs, hcover, -⟩ := h.hides [] 0
  rw [List.append_nil, junctionsFrom_nil, List.append_nil] at hj
  rw [List.append_nil, spansFrom_of_blank blank_nil, List.append_nil] at hs
  unfold junctions shieldedSpans
  rw [hj, hs]
  refine List.filter_eq_nil_iff.2 fun j hm hk => ?_
  rw [hcover j hm] at hk
  cases hk

/-- At a junction the scan takes what is read with it, and goes on as if nothing stood before. -/
theorem junctionsFrom_of_leads {t b : List Char} {j : Junction} (h : Leads (t ++ b) j t.length)
    (i : Nat) : junctionsFrom 0 i (t ++ b) = ⟨⟨i, i + t.length⟩, j⟩ ::
      (junctionsFrom 0 0 b).map (·.moved (i + t.length)) := by
  obtain ⟨c, t, rfl⟩ := List.exists_cons_of_ne_nil (List.ne_nil_of_length_pos h.pos)
  rw [List.cons_append, junctionsFrom_zero, ← List.cons_append, junctionHere?_of_leads h,
    ← junctionsFrom_add, Nat.zero_add]
  refine congrArg _ ((junctionsFrom_length t b _).trans ?_)
  rw [List.length_cons, Nat.add_assoc, Nat.add_comm 1]

/-- After a predicate comes the junction that is written there, and then the junctions of the
rest. -/
theorem junctions_written_append {p : Predicate} (h : Legible p) (j : Junction)
    {rest : List Char} (hr : rest.head? = some '\x7b') :
    junctions (p.written ++ (separator j ++ rest)) =
      ⟨⟨p.written.length, p.written.length + (separator j).length⟩, j⟩ ::
        (junctions rest).map (·.moved (p.written.length + (separator j).length)) := by
  obtain ⟨inner, spans, hj, hs, hcover, hstop⟩ := h.hides (separator j ++ rest) 0
  generalize p.written.length = k at *
  have hhead : ∀ c ∈ rest.head?, isBlank c = false := by
    intro c hc
    cases hr.symm.trans hc
    rfl
  have hopen := junctionsFrom_of_leads (leads_separator j hhead) k
  have hspans : spansFrom 0 false k (separator j ++ rest) =
      (spansFrom 0 true 0 rest).map (·.moved (k + (separator j).length)) := by
    rw [← spansFrom_add, Nat.zero_add]
    cases j <;> rfl
  have hpast : ∀ place, k ≤ place → spans.any (·.covers place) = false := by
    intro place hp
    refine List.any_eq_false.2 fun s hm => ?_
    have hs := hstop s hm
    have hlt : ¬place < s.stop := by omega
    simp [Span.covers, hlt]
  have hpos : 0 < (separator j).length := Nat.succ_pos _
  unfold junctions shieldedSpans
  rw [hj, hs, Nat.zero_add, hopen, hspans, List.filter_append]
  have hinner : inner.filter (fun l => !(spans ++ (spansFrom 0 true 0 rest).map
      (·.moved (k + (separator j).length))).any (·.covers l.span.start)) = [] := by
    refine List.filter_eq_nil_iff.2 fun l hm hk => ?_
    rw [List.any_append, hcover l hm] at hk
    cases hk
  have hkept : (spans ++ (spansFrom 0 true 0 rest).map
      (·.moved (k + (separator j).length))).any (·.covers k) = false := by
    rw [List.any_append, hpast k (Nat.le_refl k), List.any_map, Bool.false_or]
    refine List.any_eq_false.2 fun s _ => ?_
    have hlt : ¬s.start + (k + (separator j).length) ≤ k := by omega
    simp [Span.covers, Span.moved, hlt]
  rw [hinner, List.nil_append, List.filter_cons_of_pos (by simp [hkept]), List.filter_map]
  refine congrArg _ (congrArg _ (List.filter_congr fun l _ => ?_))
  have hl : spans.any (·.covers (l.span.start + (k + (separator j).length))) = false :=
    hpast _ (by omega)
  rw [Function.comp_apply, JunctionAt.start_moved, List.any_append, hl, List.any_map,
    Bool.false_or]
  simp only [Function.comp_def, Span.covers_moved]

/-! ### Reading what is written -/

theorem operatorOf_text (op : Operator) : operatorOf op.text.toList = .ok op := by
  cases op <;> decide

/-- The first spelling that fits a word is the one that is found, at the end of a text or before
white space. -/
theorem operatorHere?_of_spellings {word rest : List Char} (n : Nat)
    {spelling : List Char → Option (List Char)} {after : List (List Char → Option (List Char))}
    (hs : spellings.drop n = spelling :: after)
    (hnone : ((spellings.take n).all fun other => (other (word ++ rest)).isNone) = true)
    (hsome : spelling (word ++ rest) = some rest) (hr : ∀ c ∈ rest.head?, isBlank c = true) :
    operatorHere? (word ++ rest) = some (word, rest.dropWhile isBlank) := by
  have hword : (word ++ rest).take ((word ++ rest).length - rest.length) = word := by
    rw [List.length_append, Nat.add_sub_cancel, List.take_left]
  rw [operatorHere?, ← List.take_append_drop n spellings, List.findSome?_append]
  refine (congrArg (Option.or · _) (List.findSome?_eq_none_iff.2 fun other hm => ?_)).trans ?_
  · rw [Option.isNone_iff_eq_none.1 (List.all_eq_true.1 hnone other hm)]
    rfl
  rw [Option.none_or, hs, List.findSome?_cons, hsome]
  dsimp only [Option.bind_eq_bind, Option.bind_some]
  rw [hword]
  cases rest with
  | nil => rfl
  | cons c rest =>
    dsimp only
    rw [hr c rfl, if_pos rfl]

/-- An operator is found at the end of a text or before white space. -/
theorem operatorHere?_text (op : Operator) {rest : List Char}
    (h : ∀ c ∈ rest.head?, isBlank c = true) :
    operatorHere? (op.text.toList ++ rest) = some (op.text.toList, rest.dropWhile isBlank) := by
  cases op with
  | isUnset => exact operatorHere?_of_spellings 0 rfl rfl rfl h
  | isSet => exact operatorHere?_of_spellings 1 rfl rfl rfl h
  | differs => exact operatorHere?_of_spellings 2 rfl rfl rfl h
  | equals => exact operatorHere?_of_spellings 3 rfl rfl rfl h
  | lacks => exact operatorHere?_of_spellings 4 rfl rfl rfl h
  | contains => exact operatorHere?_of_spellings 5 rfl rfl rfl h

/-- A variable ends at the first closing braces when an operator follows. -/
theorem variableFrom_append {name more operator value : List Char} (hne : name ≠ [])
    (hc : '\x7d' ∉ name) (hf : Firm name)
    (ho : operatorHere? (more.dropWhile isBlank) = some (operator, value)) (held : List Char) :
    variableFrom held (name ++ '\x7d' :: '\x7d' :: more) =
      some (held.reverse ++ name, operator, value) := by
  induction name generalizing held with
  | nil => exact absurd rfl hne
  | cons c name ih =>
    rw [List.cons_append, variableFrom]
    cases name with
    | nil =>
      have hd : ([] ++ '\x7d' :: '\x7d' :: more).dropWhile isBlank = '\x7d' :: '\x7d' :: more :=
        List.dropWhile_cons_of_neg (by decide)
      have ha : after? ['\x7d', '\x7d'] ('\x7d' :: '\x7d' :: more) = some more := after?_eq_some.2 rfl
      simp only [hd, ha, ho, Option.bind_eq_bind, Option.bind_some, List.reverse_cons]
    | cons d name =>
      -- The name goes on with something that is neither white space nor a brace.
      obtain ⟨gap, word, hword, hg, hw⟩ := exists_gap (d :: name)
      have hhere : after? ['\x7d', '\x7d']
          ((d :: name ++ '\x7d' :: '\x7d' :: more).dropWhile isBlank) = none := by
        cases word with
        | nil =>
          rw [List.append_nil] at hword
          cases hf.tail.eq_nil_of_blank (hword ▸ hg)
        | cons e word =>
          have he : '\x7d' ≠ e := by
            rintro rfl
            refine hc (List.mem_cons_of_mem c ?_)
            rw [hword]
            exact List.mem_append_right _ List.mem_cons_self
          have hw' : ∀ b ∈ (e :: (word ++ '\x7d' :: '\x7d' :: more)).head?, isBlank b = false := hw
          rw [hword, List.append_assoc, List.cons_append, (takeWhile_blank_append hg hw').2]
          exact if_neg he
      rw [hhere]
      dsimp only [Option.bind_eq_bind, Option.bind_none]
      rw [ih (by simp) (fun hm => hc (List.mem_cons_of_mem c hm)) hf.tail]
      simp

theorem not_blank_of_all {c? : Option Char} (h : (c?.all fun c => !isBlank c) = true) :
    ∀ c ∈ c?, isBlank c = false := by
  rintro c rfl
  simpa using h

theorem firm_operator (op : Operator) : Firm op.text.toList :=
  not_blank_of_all (by cases op <;> decide)

theorem firm_quoted (v : List Char) : Firm ('"' :: (v ++ ['"'])) := by
  rw [← List.cons_append]
  exact firm_append (not_blank_of_all (by decide)) (by simp) _

theorem Legible.firm_written {p : Predicate} (h : Legible p) : Firm p.written := by
  rw [written_eq]
  obtain ⟨-, -, ha⟩ | ⟨-, v, -, -, ha⟩ := h.argument_cases
  · rw [ha, List.append_nil]
    exact firm_append (firm_append (firm_operator _) (by cases p.operator <;> decide) [' '])
      (by simp) _
  · rw [ha]
    exact firm_append (firm_append (firm_append (firm_quoted v) (by simp) [' ']) (by simp) _)
      (by simp) _

/-- What is written behind the opening braces begins with the variable, and the operator after it is
found. -/
theorem Legible.variableAfter_written {p : Predicate} (h : Legible p) {inner : List Char}
    (hi : inner = p.subject.toList ++ '\x7d' :: '\x7d' ::
      (' ' :: p.operator.text.toList ++ argument p)) :
    variableAfter inner (inner.takeWhile isBlank).length =
      some (p.subject.toList, p.operator.text.toList, (argument p).dropWhile isBlank) := by
  have hfront : inner.takeWhile isBlank = [] := by
    obtain ⟨c, name, hs⟩ := List.exists_cons_of_ne_nil h.subject_ne_nil
    have hc : isBlank c = false := h.head c (by rw [hs]; rfl)
    rw [hi, hs]
    exact List.takeWhile_cons_of_neg (by simp [hc])
  have hblank : ∀ c ∈ (argument p).head?, isBlank c = true := by
    intro c hc
    obtain ⟨-, -, ha⟩ | ⟨-, v, -, -, ha⟩ := h.argument_cases <;> (rw [ha] at hc; cases hc)
    rfl
  have hoperator : operatorHere? ((' ' :: p.operator.text.toList ++ argument p).dropWhile isBlank) =
      some (p.operator.text.toList, (argument p).dropWhile isBlank) := by
    have hd : (' ' :: p.operator.text.toList ++ argument p).dropWhile isBlank =
        p.operator.text.toList ++ argument p := by
      cases p.operator <;> rfl
    rw [hd, operatorHere?_text _ hblank]
  rw [hfront, List.length_nil, variableAfter, hi,
    variableFrom_append h.subject_ne_nil h.close_notMem h.firm hoperator, List.reverse_nil,
    List.nil_append]

/-- A written predicate is read back as it was. -/
theorem readPredicate_written {p : Predicate} (h : Legible p) :
    readPredicate p.written = .ok p := by
  have hhead : ∀ c ∈ p.written.head?, isBlank c = false := by
    intro c hc
    rw [written_eq] at hc
    cases hc
    rfl
  have hinner : after? ['\x7b', '\x7b'] p.written = some (p.subject.toList ++
      '\x7d' :: '\x7d' :: (' ' :: p.operator.text.toList ++ argument p)) := by
    rw [after?_eq_some, written_eq]
    simp
  unfold readPredicate
  rw [trim_of_firm hhead h.firm_written]
  dsimp only
  rw [hinner]
  dsimp only [Option.bind_eq_bind, Option.bind_some]
  rw [h.variableAfter_written rfl]
  dsimp only
  rw [operatorOf_text]
  dsimp only
  obtain ⟨hn, hv, ha⟩ | ⟨hn, v, -, hv, ha⟩ := h.argument_cases
  · rw [ha, List.dropWhile_nil, trim_nil, if_neg (by simp [hn]), if_neg (by simp), if_pos rfl, ← hv,
      String.ofList_toList]
  · have hq : trim ('"' :: (v ++ ['"'])) = '"' :: (v ++ ['"']) :=
      trim_of_firm (fun c hc => by cases hc; rfl) (firm_quoted v)
    have hd : (' ' :: '"' :: (v ++ ['"'])).dropWhile isBlank = '"' :: (v ++ ['"']) := rfl
    rw [ha, hd, hq, if_neg (by simp), if_neg (by simp [hn]), if_neg (by simp), ← hv,
      String.ofList_toList]

theorem head_written (p : Predicate) (rest : List Char) :
    (p.written ++ rest).head? = some '\x7b' := by
  rw [written_eq]
  rfl

theorem trim_written_ne_nil (g : Guard) : trim g.written ≠ [] := by
  have hw : g.written = '\x7b' :: g.written.tail :=
    List.eq_cons_of_mem_head? (head_written g.first _)
  intro ht
  have hh := head_trim_cons (show isBlank '\x7b' = false by decide) g.written.tail
  rw [← hw, ht] at hh
  cases hh

/-- Guards that are written, with all that follows the first predicate. -/
theorem readPieces_written {p : Predicate} (hp : Legible p) {rest : List (Junction × Predicate)}
    (hr : ∀ q ∈ rest, Legible q.2) :
    readPieces (pieces (written ⟨p, rest⟩)) = .ok ⟨p, rest⟩ := by
  induction rest generalizing p with
  | nil =>
    have hw : written ⟨p, []⟩ = p.written := List.append_nil _
    rw [hw, pieces, junctions_written hp, cutAt, readPieces, readPredicate_written hp]
    rfl
  | cons q more ih =>
    obtain ⟨j, q⟩ := q
    have hinner := ih (hr (j, q) List.mem_cons_self) fun r hm => hr r (List.mem_cons_of_mem _ hm)
    have hhead : (written ⟨q, more⟩).head? = some '\x7b' := head_written q _
    rw [written_cons, pieces, junctions_written_append hp j hhead, readPieces_cutAt_cons]
    dsimp only
    have hmore := cutAt_add (p.written.length + (separator j).length) 0 (written ⟨q, more⟩)
      (junctions (written ⟨q, more⟩))
    rw [Nat.zero_add] at hmore
    rw [Nat.sub_zero, List.take_left, List.drop_left, Nat.add_sub_cancel_left, List.drop_left,
      readPredicate_written hp, hmore, ← pieces, hinner]
    rfl

/-- **What is read from a written guard is that guard.** -/
theorem read_written {g : Guard} (h : ∀ p ∈ g.predicates, Legible p) :
    read (String.ofList g.written) = .ok g := by
  obtain ⟨p, rest⟩ := g
  have hp : Legible p := h p List.mem_cons_self
  have hr : ∀ q ∈ rest, Legible q.2 := fun q hm =>
    h q.2 (List.mem_cons_of_mem _ (List.mem_map.2 ⟨q, hm, rfl⟩))
  rw [read_eq_ok, String.toList_ofList, readChars_eq (trim_written_ne_nil ⟨p, rest⟩)]
  exact readPieces_written hp hr

/-- A guard with junctions, braces, quotation marks and line breaks in its variables and values. -/
def puzzle : Guard :=
  ⟨⟨"a AND b's", .isSet, none⟩,
    [(.or, ⟨"OR", .differs, some "\" AND \x7b\x7bx\x7d\x7d exists OR 'y\n AND \""⟩),
      (.and, ⟨"c OR\nd", .isUnset, none⟩),
      (.or, ⟨"e", .lacks, some "\"\""⟩)]⟩

theorem legible_puzzle : ∀ p ∈ puzzle.predicates, Legible p := by
  have hends : ∀ p ∈ puzzle.predicates, (p.subject.toList.head?.all fun c => !isBlank c) = true ∧
      (p.subject.toList.getLast?.all fun c => !isBlank c) = true := by
    decide
  have hvalue : ∀ p ∈ puzzle.predicates, p.operator.needsValue = true →
      ∃ v, '"' ∉ v ∧ p.value = some (String.ofList ('"' :: (v ++ ['"']))) := by
    intro p hp hn
    refine ⟨((p.value.getD "").toList.drop 1).dropLast, ?_⟩
    revert p
    decide
  intro p hp
  refine ⟨?_, ?_, not_blank_of_all (hends p hp).1, not_blank_of_all (hends p hp).2, ?_,
    hvalue p hp⟩ <;> (revert p; decide)

theorem read_written_puzzle : (∀ p ∈ puzzle.predicates, Legible p) ∧
    read (String.ofList puzzle.written) = .ok puzzle :=
  ⟨legible_puzzle, read_written legible_puzzle⟩

end Guard

end Dialogue

import Dialogue.Proofs.Guard.Shading

/-!
# Variables of predicates

The variable of a predicate ends as early as it can, at the first closing braces that an operator
follows. So it may run over closing braces, when none follows them; and of the white space before
it, as much is left aside as can be.

* `Guard.operatorHere?_eq_some`: an operator that is found is spelled at the front of the text.
* `Guard.ending?_isSome_append`: what ends a variable before closing braces depends on nothing after
  them.
* `Guard.variableFrom_eq_some`: the variable that is found is the shortest that is ended.
* `Guard.variableAfter_eq_some`: the same behind white space.
* `Guard.readPredicate_eq_ok`: what a piece is that is read as a predicate.
-/

namespace Dialogue.Guard

open Text

variable {cs rest text a b o s y z : List Char}

/-! ### Operators -/

/-- A text is a word, letter by letter and in either case. -/
def IsCase (word o : List Char) : Prop := List.Forall₂ (fun w c => sameLetter w c = true) word o

theorem afterWord?_eq_some {word : List Char} :
    afterWord? word cs = some rest ↔ ∃ o, IsCase word o ∧ cs = o ++ rest := by
  induction word generalizing cs with
  | nil =>
    constructor
    · intro h
      exact ⟨[], .nil, by simpa [afterWord?] using h⟩
    · rintro ⟨o, ho, rfl⟩
      cases ho
      rfl
  | cons w word ih =>
    constructor
    · intro h
      cases cs with
      | nil => cases h
      | cons c cs =>
        rw [afterWord?] at h
        split at h
        · rename_i hw
          obtain ⟨o, ho, rfl⟩ := ih.1 h
          exact ⟨c :: o, .cons hw ho, rfl⟩
        · cases h
    · rintro ⟨o, ho, rfl⟩
      cases ho with
      | cons hw ho =>
        rw [List.cons_append, afterWord?, if_pos hw]
        exact ih.2 ⟨_, ho, rfl⟩

/-- A letter that no brace and no quotation mark is taken for. -/
def isLetter (w : Char) : Bool :=
  ['\x7b', '\x7d', '"', '\''].all fun c => !sameLetter w c

theorem bare_of_sameLetter {w c : Char} (hw : isLetter w = true) (h : sameLetter w c = true) :
    Mode.Bare c := by
  simp only [isLetter, List.all_cons, List.all_nil, Bool.and_true, Bool.and_eq_true,
    Bool.not_eq_true'] at hw
  obtain ⟨h₁, h₂, h₃, h₄⟩ := hw
  refine ⟨?_, ?_, ?_, ?_⟩ <;> rintro rfl
  · cases h.symm.trans h₁
  · cases h.symm.trans h₂
  · cases h.symm.trans h₃
  · cases h.symm.trans h₄

theorem IsCase.bare {word : List Char} (h : IsCase word o) (hw : word.all isLetter = true) :
    ∀ c ∈ o, Mode.Bare c := by
  induction h with
  | nil => exact fun c hc => absurd hc List.not_mem_nil
  | cons hwc _ ih =>
    rw [List.all_cons, Bool.and_eq_true] at hw
    intro c hc
    rcases List.mem_cons.1 hc with rfl | hc
    · exact bare_of_sameLetter hw.1 hwc
    · exact ih hw.2 c hc

theorem IsCase.ne_nil {word : List Char} (h : IsCase word o) (hw : word ≠ []) : o ≠ [] := by
  rintro rfl
  cases h
  exact hw rfl

/-- An operator as it may be written: one of the spellings takes it, whatever follows. -/
structure Spelled (o : List Char) : Prop where
  ne_nil : o ≠ []
  bare : ∀ c ∈ o, Mode.Bare c
  takes : ∃ spelling ∈ spellings, ∀ rest, spelling (o ++ rest) = some rest

/-- What a spelling takes. -/
def Takes (spelling : List Char → Option (List Char)) : Prop :=
  ∀ {cs rest}, spelling cs = some rest → ∃ o, cs = o ++ rest ∧ o ≠ [] ∧ (∀ c ∈ o, Mode.Bare c) ∧
    ∀ rest', spelling (o ++ rest') = some rest'

theorem takes_afterWord? {word : List Char} (hne : word ≠ []) (hw : word.all isLetter = true) :
    Takes (afterWord? word) := by
  intro cs rest h
  obtain ⟨o, ho, rfl⟩ := afterWord?_eq_some.1 h
  exact ⟨o, rfl, ho.ne_nil hne, ho.bare hw, fun rest' => afterWord?_eq_some.2 ⟨o, ho, rfl⟩⟩

/-- Two words with white space between them. -/
theorem takes_words {word word' : List Char} (hne : word ≠ []) (hw : word.all isLetter = true)
    (hne' : word' ≠ []) (hw' : word'.all isLetter = true) :
    Takes (fun cs => (afterWord? word cs).bind fun rest =>
      if rest.takeWhile isBlank = [] then none
      else afterWord? word' (rest.dropWhile isBlank)) := by
  intro cs rest h
  obtain ⟨more, hmore, hafter⟩ := Option.bind_eq_some_iff.1 h
  obtain ⟨o, rfl, ho, hbare, htakes⟩ := takes_afterWord? hne hw hmore
  obtain ⟨gap, more, rfl, hgap, hhead⟩ := exists_gap more
  obtain ⟨htake, hdrop⟩ := takeWhile_blank_append hgap hhead
  rw [htake, hdrop] at hafter
  split at hafter
  · cases hafter
  rename_i hgne
  obtain ⟨o', rfl, ho', hbare', htakes'⟩ := takes_afterWord? hne' hw' hafter
  refine ⟨o ++ (gap ++ o'), by simp, by simp [ho], fun c hc => ?_, fun rest' => ?_⟩
  · simp only [List.mem_append] at hc
    rcases hc with hc | hc | hc
    · exact hbare c hc
    · exact Mode.bare_of_blank (hgap c hc)
    · exact hbare' c hc
  · have hhead' : ∀ c ∈ (o' ++ rest').head?, isBlank c = false := by
      cases o' with
      | nil => exact absurd rfl ho'
      | cons d o' => exact hhead
    obtain ⟨htake', hdrop'⟩ := takeWhile_blank_append hgap hhead'
    have htext : o ++ (gap ++ o') ++ rest' = o ++ (gap ++ (o' ++ rest')) := by simp
    refine Option.bind_eq_some_iff.2 ⟨gap ++ (o' ++ rest'), by rw [htext, htakes], ?_⟩
    rw [htake', hdrop', if_neg hgne, htakes']

theorem takes_of_mem {spelling : List Char → Option (List Char)} (h : spelling ∈ spellings) :
    Takes spelling := by
  simp only [spellings, List.mem_cons, List.not_mem_nil, or_false] at h
  rcases h with rfl | rfl | rfl | rfl | rfl | rfl | rfl | rfl
  · exact takes_words (show "not".toList ≠ [] by decide) (by decide)
      (show "exists".toList ≠ [] by decide) (by decide)
  all_goals exact takes_afterWord? (by decide) (by decide)

/-- An operator that is found is spelled at the front of the text, and white space follows it or
nothing. -/
theorem operatorHere?_eq_some {value : List Char} (h : operatorHere? cs = some (o, value)) :
    Spelled o ∧ ∃ rest, cs = o ++ rest ∧ (∀ c ∈ rest.head?, isBlank c = true) ∧
      value = rest.dropWhile isBlank := by
  obtain ⟨spelling, hmem, h⟩ := List.exists_of_findSome?_eq_some h
  obtain ⟨rest, hrest, h⟩ := Option.bind_eq_some_iff.1 h
  obtain ⟨o', rfl, hne, hbare, htakes⟩ := takes_of_mem hmem hrest
  have htake : (o' ++ rest).take ((o' ++ rest).length - rest.length) = o' := by
    rw [List.length_append, Nat.add_sub_cancel, List.take_left]
  rw [htake] at h
  have hs : Spelled o' := ⟨hne, hbare, spelling, hmem, htakes⟩
  cases rest with
  | nil =>
    cases h
    exact ⟨hs, [], rfl, by simp, rfl⟩
  | cons c rest =>
    dsimp only at h
    split at h
    · rename_i hc
      cases h
      exact ⟨hs, c :: rest, rfl, fun d hd => by cases hd; exact hc, rfl⟩
    · cases h

/-- Where an operator is spelled, before white space or at the end, an operator is found. -/
theorem Spelled.isSome (h : Spelled o) (hr : ∀ c ∈ rest.head?, isBlank c = true) :
    (operatorHere? (o ++ rest)).isSome = true := by
  obtain ⟨spelling, hmem, htakes⟩ := h.takes
  refine List.findSome?_isSome_iff.2 ⟨spelling, hmem, ?_⟩
  rw [htakes]
  cases rest with
  | nil => rfl
  | cons c rest => simp [hr c rfl]

/-- An operator before a closing brace is found whatever follows in its place. -/
theorem operatorHere?_isSome_append (h : (operatorHere? (a ++ '\x7d' :: b)).isSome = true)
    (rest : List Char) : (operatorHere? (a ++ rest)).isSome = true := by
  obtain ⟨⟨o, value⟩, hf⟩ := Option.isSome_iff_exists.1 h
  obtain ⟨ho, more, heq, hmore, -⟩ := operatorHere?_eq_some hf
  -- The brace is no part of the operator, and no white space.
  rcases List.append_eq_append_iff.1 heq with ⟨x, rfl, hx⟩ | ⟨x, rfl, hx⟩
  · cases x with
    | nil => cases hmore '\x7d' (by rw [List.nil_append] at hx; rw [← hx]; rfl)
    | cons c x =>
      obtain ⟨rfl, -⟩ := List.cons.inj hx
      exact absurd rfl (ho.bare _ (by simp)).2.1
  · cases x with
    | nil => cases hmore '\x7d' (by rw [hx]; rfl)
    | cons c x =>
      rw [List.append_assoc]
      refine ho.isSome fun d hd => hmore d ?_
      rw [hx]
      exact hd

theorem operatorHere?_brace (rest : List Char) : operatorHere? ('\x7d' :: rest) = none := by
  cases h : operatorHere? ('\x7d' :: rest) with
  | none => rfl
  | some found =>
    obtain ⟨ho, more, heq, -⟩ := operatorHere?_eq_some h
    obtain ⟨c, o, hc⟩ := List.exists_cons_of_ne_nil ho.ne_nil
    have hbare := ho.bare c (by rw [hc]; exact List.mem_cons_self)
    rw [hc] at heq
    exact absurd (List.cons.inj heq).1.symm hbare.2.1

/-! ### Where a variable ends -/

/-- What ends a variable at the front of a text: closing braces, behind white space or none, and an
operator with what follows it. -/
def ending? (cs : List Char) : Option (List Char × List Char) :=
  (after? ['\x7d', '\x7d'] (cs.dropWhile isBlank)).bind fun rest =>
    operatorHere? (rest.dropWhile isBlank)

theorem ending?_blank_append (h : Blank a) (b : List Char) : ending? (a ++ b) = ending? b := by
  rw [ending?, List.dropWhile_append_of_pos h, ending?]

theorem ending?_braces (rest : List Char) :
    ending? ('\x7d' :: '\x7d' :: rest) = operatorHere? (rest.dropWhile isBlank) := rfl

theorem ending?_cons_of_ne {c : Char} (hb : isBlank c = false) (hc : c ≠ '\x7d') (cs : List Char) :
    ending? (c :: cs) = none := by
  rw [ending?, List.dropWhile_cons_of_neg (by simp [hb]), after?, if_neg (Ne.symm hc)]
  rfl

theorem ending?_brace_of_ne {c : Char} (hc : c ≠ '\x7d') (cs : List Char) :
    ending? ('\x7d' :: c :: cs) = none := by
  have hafter : after? ['\x7d', '\x7d'] ('\x7d' :: c :: cs) = none := by
    rw [after?, if_pos rfl, after?, if_neg (Ne.symm hc)]
  rw [ending?, List.dropWhile_cons_of_neg (by decide), hafter]
  rfl

/-- What ends a variable is closing braces and an operator, with white space at will. -/
theorem ending?_eq_some {value : List Char} (h : ending? cs = some (o, value)) :
    ∃ back before more, cs = back ++ '\x7d' :: '\x7d' :: (before ++ (o ++ more)) ∧ Blank back ∧
      Blank before ∧ Spelled o ∧ (∀ c ∈ o.head?, isBlank c = false) ∧
      (∀ c ∈ more.head?, isBlank c = true) ∧ value = more.dropWhile isBlank := by
  obtain ⟨rest, hrest, hoperator⟩ := Option.bind_eq_some_iff.1 h
  obtain ⟨back, word, rfl, hback, hword⟩ := exists_gap cs
  rw [(takeWhile_blank_append hback hword).2, after?_eq_some] at hrest
  subst hrest
  obtain ⟨before, word, rfl, hbefore, hword⟩ := exists_gap rest
  rw [(takeWhile_blank_append hbefore hword).2] at hoperator
  obtain ⟨hs, more, rfl, hmore, hvalue⟩ := operatorHere?_eq_some hoperator
  refine ⟨back, before, more, rfl, hback, hbefore, hs, fun c hc => hword c ?_, hmore, hvalue⟩
  rw [List.head?_append, Option.mem_def.1 hc]
  rfl

/-- What ends a variable before closing braces, and is not just white space before them, ends it
whatever follows in their place. -/
theorem ending?_isSome_append (hz : ¬Blank z)
    (h : (ending? (z ++ '\x7d' :: '\x7d' :: b)).isSome = true) (rest : List Char) :
    (ending? (z ++ rest)).isSome = true := by
  obtain ⟨gap, word, rfl, hgap, hword⟩ := exists_gap z
  rw [List.append_assoc, ending?_blank_append hgap] at h ⊢
  cases word with
  | nil => exact absurd (by simpa using hgap) hz
  | cons c word =>
    by_cases hc : c = '\x7d'
    · subst hc
      cases word with
      | nil =>
        -- The brace and the first one after it would be the closing braces, and a brace comes next.
        have hbrace : ending? (['\x7d'] ++ '\x7d' :: '\x7d' :: b) = none :=
          (ending?_braces _).trans (operatorHere?_brace b)
        rw [hbrace] at h
        cases h
      | cons d word =>
        by_cases hd : d = '\x7d'
        · subst hd
          obtain ⟨gap', name, rfl, hgap', hname⟩ := exists_gap word
          rw [List.cons_append, List.cons_append, ending?_braces, List.append_assoc,
            List.dropWhile_append_of_pos hgap'] at h ⊢
          cases name with
          | nil =>
            have hbrace : operatorHere? (('\x7d' :: '\x7d' :: b).dropWhile isBlank) = none :=
              operatorHere?_brace _
            rw [List.nil_append, hbrace] at h
            cases h
          | cons e name =>
            have he : ¬isBlank e = true := by simp [hname e rfl]
            rw [List.cons_append, List.dropWhile_cons_of_neg he] at h ⊢
            exact operatorHere?_isSome_append (a := e :: name) h rest
        · rw [List.cons_append, List.cons_append, ending?_brace_of_ne hd] at h
          cases h
    · rw [List.cons_append, ending?_cons_of_ne (hword c rfl) hc] at h
      cases h

/-! ### The shortest variable -/

/-- A variable goes on where nothing ends it. -/
theorem variableFrom_cons (held : List Char) (c : Char) (cs : List Char) :
    variableFrom held (c :: cs) = ((ending? cs).map fun found => ((c :: held).reverse, found)).or
      (variableFrom (c :: held) cs) := by
  rw [variableFrom, ending?]
  dsimp only
  cases after? ['\x7d', '\x7d'] (cs.dropWhile isBlank) with
  | none => rfl
  | some rest =>
    dsimp only [Option.bind_eq_bind, Option.bind_some]
    cases operatorHere? (rest.dropWhile isBlank) <;> rfl

/-- A text within which, behind the first character, nothing ends a variable. -/
def Endless (cs : List Char) : Prop := ∀ x z, cs = x ++ z → x ≠ [] → ending? z = none

theorem endless_nil : Endless [] := fun _ _ h hx =>
  absurd (List.append_eq_nil_iff.1 h.symm).1 hx

theorem endless_cons {c : Char} : Endless (c :: cs) ↔ ending? cs = none ∧ Endless cs := by
  constructor
  · intro h
    exact ⟨h [c] cs rfl (by simp), fun x z heq _ => h (c :: x) z (by rw [heq]; rfl) (by simp)⟩
  · rintro ⟨hhere, hlater⟩ x z heq hx
    obtain ⟨d, x, rfl⟩ := List.exists_cons_of_ne_nil hx
    obtain ⟨rfl, rfl⟩ := List.cons.inj heq
    by_cases hx : x = []
    · rw [hx] at hhere
      exact hhere
    · exact hlater x z rfl hx

theorem variableFrom_eq_none {held : List Char} : variableFrom held cs = none ↔ Endless cs := by
  induction cs generalizing held with
  | nil => exact iff_of_true rfl endless_nil
  | cons c cs ih =>
    rw [variableFrom_cons, endless_cons, Option.or_eq_none_iff, Option.map_eq_none_iff, ih]

/-- A variable that no shorter one could be read for: nothing ends one within it. -/
def Shortest (s rest : List Char) : Prop :=
  ∀ x z, s = x ++ z → x ≠ [] → z ≠ [] → ending? (z ++ rest) = none

theorem shortest_cons {c : Char} :
    Shortest (c :: s) rest ↔ (s ≠ [] → ending? (s ++ rest) = none) ∧ Shortest s rest := by
  constructor
  · intro h
    exact ⟨h [c] s rfl (by simp), fun x z heq _ => h (c :: x) z (by rw [heq]; rfl) (by simp)⟩
  · rintro ⟨hhere, hlater⟩ x z heq hx hz
    obtain ⟨d, x, rfl⟩ := List.exists_cons_of_ne_nil hx
    obtain ⟨rfl, rfl⟩ := List.cons.inj heq
    by_cases hx : x = []
    · rw [hx] at hhere
      exact hhere hz
    · exact hlater x z rfl hx hz

/-- The variable that is found is the shortest that is ended. -/
theorem variableFrom_eq_some {held name operator value : List Char} :
    variableFrom held cs = some (name, operator, value) ↔
      ∃ s rest, cs = s ++ rest ∧ s ≠ [] ∧ Shortest s rest ∧ ending? rest = some (operator, value) ∧
        name = held.reverse ++ s := by
  induction cs generalizing held with
  | nil =>
    refine iff_of_false (by simp [variableFrom]) ?_
    rintro ⟨s, rest, heq, hs, -⟩
    exact hs (List.append_eq_nil_iff.1 heq.symm).1
  | cons c cs ih =>
    rw [variableFrom_cons]
    constructor
    · intro h
      rcases Option.or_eq_some_iff.1 h with h | ⟨hnone, h⟩
      · obtain ⟨found, hend, hfound⟩ := Option.map_eq_some_iff.1 h
        obtain ⟨rfl, rfl⟩ := Prod.mk.inj hfound
        exact ⟨[c], cs, rfl, by simp, shortest_cons.2 ⟨by simp, by simp [Shortest]⟩, hend, by simp⟩
      · have hend := Option.map_eq_none_iff.1 hnone
        obtain ⟨s, rest, rfl, -, hshort, hfound, rfl⟩ := ih.1 h
        exact ⟨c :: s, rest, rfl, by simp, shortest_cons.2 ⟨fun _ => hend, hshort⟩, hfound, by simp⟩
    · rintro ⟨s, rest, heq, hs, hshort, hfound, rfl⟩
      obtain ⟨d, s, rfl⟩ := List.exists_cons_of_ne_nil hs
      rw [List.cons_append] at heq
      obtain ⟨rfl, rfl⟩ := List.cons.inj heq
      obtain ⟨hhere, hlater⟩ := shortest_cons.1 hshort
      by_cases hne : s = []
      · subst hne
        rw [List.nil_append, hfound]
        simp
      · rw [hhere hne]
        exact ih.2 ⟨s, rest, rfl, hne, hlater, hfound, by simp⟩

/-- White space before a variable is left aside, but for a variable that has nothing else. -/
theorem variableAfter_eq {gap : List Char} (hg : Blank gap) (rest : List Char) :
    variableAfter (gap ++ rest) gap.length =
      (variableFrom [] rest).or (gap.getLast?.bind fun b =>
        (ending? rest).map fun found => ([b], found)) := by
  obtain ⟨n, hn⟩ : ∃ n, gap.length = n := ⟨_, rfl⟩
  induction n generalizing gap rest with
  | zero =>
    rw [List.length_eq_zero_iff.1 hn]
    simp [variableAfter]
  | succ n ih =>
    obtain rfl | ⟨before, b, hgap⟩ := List.eq_nil_or_concat gap
    · cases hn
    rw [List.concat_eq_append] at hgap
    subst hgap
    have hlen : before.length = n := by simpa using hn
    have hb : isBlank b = true := hg b (by simp)
    have hrest := ih (fun c hc => hg c (List.mem_append_left _ hc)) (b :: rest) hlen
    have htext : before ++ [b] ++ rest = before ++ b :: rest := by simp
    have hskip : (before ++ [b] ++ rest).drop (n + 1) = rest := by
      rw [← hn, List.drop_left]
    rw [hn, variableAfter, hskip, List.getLast?_concat, Option.bind_some]
    cases hv : variableFrom [] rest with
    | some found => rfl
    | none =>
      dsimp only
      rw [htext, ← hlen, hrest, variableFrom_cons,
        show ending? (b :: rest) = ending? rest from
          ending?_blank_append (a := [b]) (fun c hc => List.mem_singleton.1 hc ▸ hb) rest,
        variableFrom_eq_none.2 (variableFrom_eq_none.1 hv)]
      cases ending? rest <;> simp

/-- A variable that is read before the rest of a text: the shortest one, behind as much white space
as can be left aside. -/
structure Earliest (s rest : List Char) : Prop where
  ne_nil : s ≠ []
  shortest : Shortest s rest
  front : (∀ c ∈ s.head?, isBlank c = false) ∨ ∃ b, s = [b] ∧ isBlank b = true ∧ Endless rest

/-- What is endless begins with no white space before what ends a variable. -/
theorem Endless.head {found : List Char × List Char} (h : Endless rest)
    (hend : ending? rest = some found) : ∀ c ∈ rest.head?, isBlank c = false := by
  intro c hc
  cases rest with
  | nil => cases hc
  | cons d rest =>
    cases hc
    by_contra hb
    have hblank : Blank [c] := fun e he => by simpa [List.mem_singleton.1 he] using hb
    have hrest := (ending?_blank_append hblank rest).symm.trans hend
    rw [(endless_cons.1 h).1] at hrest
    cases hrest

theorem variableAfter_eq_some {inner operator value : List Char} :
    variableAfter inner (inner.takeWhile isBlank).length = some (s, operator, value) ↔
      ∃ front rest, inner = front ++ (s ++ rest) ∧ Blank front ∧ Earliest s rest ∧
        ending? rest = some (operator, value) := by
  constructor
  · intro h
    obtain ⟨gap, word, rfl, hgap, hword⟩ := exists_gap inner
    rw [(takeWhile_blank_append hgap hword).1, variableAfter_eq hgap, Option.or_eq_some_iff] at h
    rcases h with h | ⟨hnone, h⟩
    · obtain ⟨s', rest, rfl, hs, hshort, hend, rfl⟩ := variableFrom_eq_some.1 h
      refine ⟨gap, rest, rfl, hgap, ⟨hs, hshort, .inl fun c hc => hword c ?_⟩, hend⟩
      obtain ⟨d, s', rfl⟩ := List.exists_cons_of_ne_nil hs
      exact hc
    · obtain ⟨b, hlast, h⟩ := Option.bind_eq_some_iff.1 h
      obtain ⟨found, hend, heq⟩ := Option.map_eq_some_iff.1 h
      cases heq
      obtain ⟨before, rfl⟩ := List.getLast?_eq_some_iff.1 hlast
      refine ⟨before, word, by simp, fun c hc => hgap c (List.mem_append_left _ hc), ⟨by simp, ?_,
        .inr ⟨b, rfl, hgap b (by simp), variableFrom_eq_none.1 hnone⟩⟩, hend⟩
      exact shortest_cons.2 ⟨by simp, by simp [Shortest]⟩
  · rintro ⟨front, rest, rfl, hfront, ⟨hne, hshort, hs⟩, hend⟩
    rcases hs with hs | ⟨b, rfl, hb, hless⟩
    · have hhead : ∀ c ∈ (s ++ rest).head?, isBlank c = false := by
        obtain ⟨d, s, rfl⟩ := List.exists_cons_of_ne_nil hne
        exact hs
      rw [(takeWhile_blank_append hfront hhead).1, variableAfter_eq hfront,
        variableFrom_eq_some.2 ⟨s, rest, rfl, hne, hshort, hend, rfl⟩]
      rfl
    · have hgap : Blank (front ++ [b]) := fun c hc => by
        rcases List.mem_append.1 hc with hc | hc
        · exact hfront c hc
        · rwa [List.mem_singleton.1 hc]
      rw [← List.append_assoc, (takeWhile_blank_append hgap (hless.head hend)).1,
        variableAfter_eq hgap, variableFrom_eq_none.2 hless, List.getLast?_concat, hend]
      rfl

/-! ### Predicates that are read -/

/-- A piece that is read as a predicate has double braces, a variable that is found behind them, an
operator that there is, and a value exactly when the operator needs one. -/
theorem readPredicate_eq_ok {piece : List Char} {p : Predicate} : readPredicate piece = .ok p ↔
    ∃ inner operator value, trim piece = '\x7b' :: '\x7b' :: inner ∧
      variableAfter inner (inner.takeWhile isBlank).length =
        some (p.subject.toList, operator, value) ∧
      operatorOf operator = .ok p.operator ∧ p.value.isSome = p.operator.needsValue ∧
      p.value = if trim value = [] then none else some (String.ofList (trim value)) := by
  unfold readPredicate
  dsimp only
  constructor
  · intro h
    split at h
    · cases h
    rename_i subject operator value hfound
    obtain ⟨inner, hinner, hvariable⟩ := Option.bind_eq_some_iff.1 hfound
    refine ⟨inner, operator, value, after?_eq_some.1 hinner, ?_⟩
    split at h
    · cases h
    rename_i op hop
    split at h
    · cases h
    rename_i hmissing
    split at h
    · cases h
    rename_i hextra
    cases h
    refine ⟨by rw [hvariable, String.toList_ofList], hop, ?_, rfl⟩
    by_cases hv : trim value = []
    · rw [if_pos hv]
      cases hn : op.needsValue with
      | true => exact absurd ⟨hn, hv⟩ hmissing
      | false => rfl
    · rw [if_neg hv]
      cases hn : op.needsValue with
      | true => rfl
      | false => exact absurd ⟨by simp [hn], hv⟩ hextra
  · rintro ⟨inner, operator, value, htrim, hvariable, hop, hneeds, hvalue⟩
    have hinner : after? ['\x7b', '\x7b'] (trim piece) = some inner := after?_eq_some.2 htrim
    rw [hinner]
    dsimp only [Option.bind_eq_bind, Option.bind_some]
    rw [hvariable]
    dsimp only
    rw [hop]
    dsimp only
    by_cases hv : trim value = []
    · rw [if_pos hv] at hvalue
      rw [hvalue] at hneeds
      rw [if_neg (by simp [← hneeds]), if_neg (by simp [hv]), if_pos hv, ← hvalue,
        String.ofList_toList]
    · rw [if_neg hv] at hvalue
      rw [hvalue] at hneeds
      rw [if_neg (by simp [hv]), if_neg (by simp [← hneeds]), if_neg hv, ← hvalue,
        String.ofList_toList]

end Dialogue.Guard

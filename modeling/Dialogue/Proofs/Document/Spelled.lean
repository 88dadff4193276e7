import Dialogue.Proofs.Document.Printed

/-!
# What is written is complete

A value is written according to the grammar, however deep it nests and whatever its numbers are. So a
written record that has lost some of its end is no record any more.

* `Json.numeral_write`: numbers are written as the grammar has them.
* `Json.spelled`: a written value is complete, whatever follows it.
* `Json.not_heads_take`: the beginning of a written record is no complete record.
-/

namespace Dialogue.Json

open Text (isDigit hexDigit hexValue?)

variable {cs ds rest : List Char}

/-! ### Numbers -/

theorem digits_append (hne : ds ≠ []) (hd : ∀ c ∈ ds, isDigit c = true) (rest : List Char) :
    Digits (ds ++ rest) rest := by
  induction ds with
  | nil => exact absurd rfl hne
  | cons c ds ih =>
    have hc : isDigit c = true := hd c List.mem_cons_self
    by_cases hds : ds = []
    · rw [hds]
      exact .last hc
    · exact .more hc (ih hds fun d hm => hd d (List.mem_cons_of_mem c hm))

theorem whole_append {c : Char} (h0 : c ≠ '0') (hd : ∀ d ∈ c :: ds, isDigit d = true)
    (rest : List Char) : Whole (c :: (ds ++ rest)) rest := by
  have hc : isDigit c = true := hd c List.mem_cons_self
  by_cases hds : ds = []
  · rw [hds]
    exact .digit h0 hc
  · exact .digits h0 hc (digits_append hds (fun d hm => hd d (List.mem_cons_of_mem c hm)) rest)

/-- The digits of a number that is not zero, the first one apart. -/
theorem exists_digitsOf {n : Nat} (hn : 0 < n) : ∃ c ds, digitsOf n = c :: ds ∧ c ≠ '0' ∧
    ∀ d ∈ c :: ds, isDigit d = true := by
  cases hds : digitsOf n with
  | nil => exact absurd hds (digitsOf_ne_nil n)
  | cons c ds =>
    refine ⟨c, ds, rfl, head_digitsOf hn c (by rw [hds]; rfl), fun d hd => ?_⟩
    exact isDigit_of_mem_digitsOf (hds ▸ hd)

theorem whole_digitsOf (n : Nat) (rest : List Char) : Whole (digitsOf n ++ rest) rest := by
  rcases Nat.eq_zero_or_pos n with rfl | hn
  · exact .zero
  · obtain ⟨c, ds, hds, h0, hd⟩ := exists_digitsOf hn
    rw [hds]
    exact whole_append h0 hd rest

theorem numeral_digitsOf (n : Nat) (rest : List Char) : Numeral (digitsOf n ++ rest) rest :=
  ⟨rest, rest, whole_digitsOf n rest, .absent, .absent⟩

theorem isDigit_of_mem_zeros {n : Nat} {c : Char} (h : c ∈ List.replicate n '0') :
    isDigit c = true := by
  rw [List.eq_of_mem_replicate h]
  rfl

/-- The first digit, a point before the others if there are any, and an exponent. -/
theorem numeral_scientific {c : Char} (h0 : c ≠ '0') (hd : ∀ d ∈ c :: ds, isDigit d = true)
    {sign : Char} (hs : sign = '+' ∨ sign = '-') (n : Nat) (rest : List Char) :
    Numeral (c :: ((if ds = [] then [] else '.' :: ds) ++ 'e' :: sign :: (digitsOf n ++ rest)))
      rest := by
  have hexponent : Exponent ('e' :: sign :: (digitsOf n ++ rest)) rest :=
    .signed (.inl rfl) hs (digits_append (digitsOf_ne_nil n) (fun _ => isDigit_of_mem_digitsOf) rest)
  refine ⟨_, _, .digit h0 (hd c List.mem_cons_self), ?_, hexponent⟩
  by_cases hds : ds = []
  · rw [if_pos hds]
    exact .absent
  · rw [if_neg hds]
    exact .digits (digits_append hds (fun d hm => hd d (List.mem_cons_of_mem c hm)) _)

/-- Digits behind a point, after a zero. -/
theorem numeral_below {after : List Char} (hne : after ≠ [])
    (ha : ∀ d ∈ after, isDigit d = true) (rest : List Char) :
    Numeral ('0' :: '.' :: (after ++ rest)) rest :=
  ⟨_, _, .zero, .digits (digits_append hne ha rest), .absent⟩

/-- Digits before and behind a point. -/
theorem numeral_pointed {c : Char} {before after : List Char} (h0 : c ≠ '0')
    (hb : ∀ d ∈ c :: before, isDigit d = true) (hne : after ≠ [])
    (ha : ∀ d ∈ after, isDigit d = true) (rest : List Char) :
    Numeral (c :: (before ++ '.' :: (after ++ rest))) rest :=
  ⟨_, _, whole_append h0 hb _, .digits (digits_append hne ha rest), .absent⟩

open Binary64 (documentLayout)

/-- Numbers are written as the grammar has them. -/
theorem numeral_write (digits : Nat) (exponent : Int) (rest : List Char) :
    Numeral ((documentLayout.write false digits exponent).toList ++ rest) rest := by
  have hzero : ∀ d ∈ ['0'], isDigit d = true := fun d hd => List.mem_singleton.1 hd ▸ rfl
  unfold DecimalLayout.write
  simp only [Bool.false_eq_true, if_false, String.empty_append]
  split
  · exact numeral_below (List.cons_ne_nil '0' []) hzero rest
  rename_i hdigits
  obtain ⟨c, ds, hds, h0, hd⟩ := exists_digitsOf (Nat.pos_of_ne_zero hdigits)
  have hlength : (digitsOf digits).length = ds.length + 1 := by rw [hds]; rfl
  rw [List.forall_mem_cons] at hd
  obtain ⟨hc, hall⟩ := hd
  split
  · split
    · -- all digits stand before the point, with zeros after them
      have hbefore : ∀ d ∈ c :: (ds ++ List.replicate exponent.toNat '0'), isDigit d = true :=
        List.forall_mem_cons.2
          ⟨hc, List.forall_mem_append.2 ⟨hall, fun _ => isDigit_of_mem_zeros⟩⟩
      have h := numeral_pointed h0 hbefore (List.cons_ne_nil '0' []) hzero rest
      simpa [hds, documentLayout] using h
    · -- the point stands between two digits
      obtain ⟨point, hp⟩ : ∃ point : Nat,
          (((digitsOf digits).length : Int) + exponent).toNat = point + 1 :=
        ⟨((digitsOf digits).length + exponent).toNat - 1, by omega⟩
      have hbefore : ∀ d ∈ c :: ds.take point, isDigit d = true :=
        List.forall_mem_cons.2 ⟨hc, fun d hm => hall d (List.mem_of_mem_take hm)⟩
      have hne : ds.drop point ≠ [] := by
        rw [Ne, List.drop_eq_nil_iff]
        omega
      have h := numeral_pointed h0 hbefore hne (fun d hm => hall d (List.mem_of_mem_drop hm)) rest
      rw [hp, hds]
      simpa using h
  split
  · -- the point stands before all digits, with zeros between
    have h := numeral_below
      (List.append_ne_nil_of_right_ne_nil
        (List.replicate (-(((digitsOf digits).length : Int) + exponent)).toNat '0')
        (digitsOf_ne_nil digits))
      (List.forall_mem_append.2
        ⟨fun _ => isDigit_of_mem_zeros, fun _ => isDigit_of_mem_digitsOf⟩) rest
    simpa using h
  · -- an exponent tells where the point stands
    have hsign : ∃ sign : Char, (sign = '+' ∨ sign = '-') ∧
        (if ((digitsOf digits).length : Int) + exponent - 1 < 0 then "-"
          else documentLayout.exponentPlus).toList = [sign] := by
      split
      · exact ⟨'-', .inr rfl, rfl⟩
      · exact ⟨'+', .inl rfl, rfl⟩
    obtain ⟨sign, hs, hsign⟩ := hsign
    have h := numeral_scientific h0 (List.forall_mem_cons.2 ⟨hc, hall⟩) hs
      (((digitsOf digits).length : Int) + exponent - 1).natAbs rest
    simp only [String.toList_append, String.toList_ofList, hsign]
    rw [hds] at h ⊢
    cases ds with
    | nil => simpa using h
    | cons d ds => simpa using h

/-- A number, with a minus sign or without. -/
def Number (cs rest : List Char) : Prop :=
  Numeral cs rest ∨ ∃ digits, cs = '-' :: digits ∧ Numeral digits rest

theorem number_int (i : Int) (rest : List Char) : Number ((Value.int i).atom ++ rest) rest := by
  have h := numeral_digitsOf i.natAbs rest
  unfold Value.atom
  dsimp only
  split
  · exact .inr ⟨_, rfl, h⟩
  · exact .inl h

theorem number_toText {x : Binary64} (hx : x.isFinite = true) (rest : List Char) :
    Number (x.toText.toList ++ rest) rest := by
  cases x with
  | nan => cases hx
  | infinite => cases hx
  | finite negative mantissa power =>
    generalize hshort : Binary64.shortest mantissa power = found
    obtain ⟨digits, exponent⟩ := found
    have h := numeral_write digits exponent rest
    unfold Binary64.toText
    dsimp only
    rw [hshort]
    cases negative with
    | false => exact .inl h
    | true =>
      refine .inr ⟨_, ?_, h⟩
      simp [DecimalLayout.write]

/-- A number is a value of the grammar. -/
theorem Number.spans (h : Number cs rest) : Spans .value cs rest := by
  rcases h with h | ⟨digits, rfl, h⟩
  · have hskip : skipSpace cs = cs := by
      obtain ⟨fraction, exponent, hw, -, -⟩ := h
      have hdigit : ∀ c : Char, isDigit c = true → isSpace c = false := by
        intro c hc
        cases hs : isSpace c with
        | false => rfl
        | true =>
          simp only [isSpace, Bool.or_eq_true, beq_iff_eq] at hs
          rcases hs with ((rfl | rfl) | rfl) | rfl <;> cases hc
      cases hw with
      | zero => rfl
      | digit _ hc => exact skipSpace_cons_of_neg (hdigit _ hc) _
      | digits _ hc _ => exact skipSpace_cons_of_neg (hdigit _ hc) _
    exact .number (hskip.symm ▸ h)
  · exact .negative rfl h

/-! ### Texts -/

theorem quoted_escape (h : Quoted cs rest) (c : Char) : Quoted (escape c ++ cs) rest := by
  unfold escape
  split
  · exact .escape (by decide) h
  · exact .escape (by decide) h
  · exact .escape (by decide) h
  · exact .escape (by decide) h
  · exact .escape (by decide) h
  · exact .escape (by decide) h
  · exact .escape (by decide) h
  · rename_i hquote hslash _ _ _ _ _
    split
    · have hcode : ∀ n, n < 16 → (hexValue? (hexDigit n)).isSome := fun n hn => by
        rw [hexValue?_hexDigit hn]
        rfl
      refine .code ?_ h
      simp only [List.forall_mem_cons]
      exact ⟨rfl, rfl, hcode _ (by omega), hcode _ (by omega), fun _ hm => by cases hm⟩
    · exact .char hquote hslash (by omega) h

/-- A text is written as the grammar has it. -/
theorem quoted_flatMap_escape (cs rest : List Char) :
    Quoted (cs.flatMap escape ++ '"' :: rest) rest := by
  induction cs with
  | nil => exact .close
  | cons c cs ih =>
    rw [List.flatMap_cons, List.append_assoc]
    exact quoted_escape ih c

/-! ### Values -/

/-- A value that is complete wherever it is written. -/
def Spelled (l : Layout) (v : Value) : Prop :=
  ∀ level rest, Spans .value (l.chars level v ++ rest) rest

variable {l : Layout}

theorem spans_blank {blank : List Char} (hb : ∀ c ∈ blank, isSpace c = true)
    (h : Spans .value cs rest) : Spans .value (blank ++ cs) rest :=
  h.congr (skipSpace_append_of_blank hb cs).symm

theorem spans_moreItems {items : List Value} (hi : ∀ v ∈ items, Spelled l v) (level k : Nat)
    (rest : List Char) :
    Spans (.items false) (moreItems l level items ++ (l.line k ++ ']' :: rest)) rest := by
  induction items with
  | nil => exact .listEnd (skipSpace_line k _)
  | cons item more ih =>
    rw [moreItems_cons]
    exact .nextItem rfl (spans_blank (l.line_blank level) (hi item List.mem_cons_self level _))
      (ih fun v hv => hi v (List.mem_cons_of_mem item hv))

theorem spelled_list {items : List Value} (hi : ∀ v ∈ items, Spelled l v) :
    Spelled l (.list items) := by
  intro level rest
  cases items with
  | nil => exact .list rfl (.listEnd rfl)
  | cons item more =>
    rw [chars_list_cons]
    exact .list rfl (.firstItem
      (spans_blank (l.line_blank (level + 1)) (hi item List.mem_cons_self (level + 1) _))
      (spans_moreItems (fun v hv => hi v (List.mem_cons_of_mem item hv)) (level + 1) level rest))

/-- A field that is written, after the quotation mark that opens its name. -/
theorem spans_field {field : String × Value} (hi : Spelled l field.2) (level : Nat)
    {next : List Char} (hn : Spans (.fields false) next rest) :
    ∃ name, fieldChars l level field ++ next = '"' :: name ∧ Spans .name name rest := by
  refine ⟨_, fieldChars_append level field next, ?_⟩
  exact .field (quoted_flatMap_escape _ _) rfl (spans_blank l.gap_blank (hi level next)) hn

theorem spans_moreFields {fields : List (String × Value)} (hi : ∀ p ∈ fields, Spelled l p.2)
    (level k : Nat) (rest : List Char) :
    Spans (.fields false) (moreFields l level fields ++ (l.line k ++ '\x7d' :: rest)) rest := by
  induction fields with
  | nil => exact .recordEnd (skipSpace_line k _)
  | cons field more ih =>
    obtain ⟨name, hname, hspans⟩ := spans_field (hi field List.mem_cons_self) level
      (ih fun p hp => hi p (List.mem_cons_of_mem field hp))
    rw [moreFields_cons, hname]
    exact .nextField rfl (skipSpace_line level _) hspans

/-- After its opening brace a written record goes on to its closing one. -/
theorem spans_fields {fields : List (String × Value)} (hi : ∀ p ∈ fields, Spelled l p.2)
    (level : Nat) (rest : List Char) : ∃ content,
      l.chars level (.record fields) ++ rest = '\x7b' :: content ∧
        Spans (.fields true) content rest := by
  cases fields with
  | nil => exact ⟨_, rfl, .recordEnd rfl⟩
  | cons field more =>
    obtain ⟨name, hname, hspans⟩ := spans_field (hi field List.mem_cons_self) (level + 1)
      (spans_moreFields (fun p hp => hi p (List.mem_cons_of_mem field hp)) (level + 1) level rest)
    rw [chars_record_cons, hname]
    exact ⟨_, rfl, .firstField (skipSpace_line (level + 1) _) hspans⟩

theorem spelled_record {fields : List (String × Value)} (hi : ∀ p ∈ fields, Spelled l p.2) :
    Spelled l (.record fields) := by
  intro level rest
  obtain ⟨content, hcontent, hspans⟩ := spans_fields hi level rest
  rw [hcontent]
  exact .record rfl hspans

mutual

/-- A written value is complete, whatever follows it. -/
theorem spelled (l : Layout) : (v : Value) → Spelled l v
  | .null => fun _ _ => .word "null" (by decide) rfl
  | .bool true => fun _ _ => .word "true" (by decide) rfl
  | .bool false => fun _ _ => .word "false" (by decide) rfl
  | .int i => fun _ rest => (number_int i rest).spans
  | .real x => fun level rest => by
    show Spans .value ((Value.real x).atom ++ rest) rest
    unfold Value.atom
    dsimp only
    split
    · rename_i hx
      exact (number_toText hx rest).spans
    · exact .word "null" (by decide) rfl
  | .text s => fun level rest => by
    refine .text ?_ (quoted_flatMap_escape s.toList rest)
    rw [Layout.chars, quoteChars]
    simp [skipSpace]
  | .list items => spelled_list (spelled_items l items)
  | .record fields => spelled_record (spelled_fields l fields)

theorem spelled_items (l : Layout) : (items : List Value) → ∀ v ∈ items, Spelled l v
  | [] => fun _ h => absurd h List.not_mem_nil
  | item :: more => List.forall_mem_cons.2 ⟨spelled l item, spelled_items l more⟩

theorem spelled_fields (l : Layout) : (fields : List (String × Value)) →
    ∀ p ∈ fields, Spelled l p.2
  | [] => fun _ h => absurd h List.not_mem_nil
  | (_, value) :: more => List.forall_mem_cons.2 ⟨spelled l value, spelled_fields l more⟩

end

/-- The beginning of a written record is no complete record. -/
theorem not_heads_take {level : Nat} {fields : List (String × Value)} {n : Nat}
    (h : n < (l.chars level (.record fields)).length) :
    ¬Heads ((l.chars level (.record fields)).take n) := by
  obtain ⟨content, hcontent, hspans⟩ := spans_fields (spelled_fields l fields) level []
  rw [List.append_nil] at hcontent
  have hsplit : '\x7b' :: content = (l.chars level (.record fields)).take n ++
      (l.chars level (.record fields)).drop n := by
    rw [List.take_append_drop, hcontent]
  refine not_heads_of_cut hspans hsplit ?_
  rw [Ne, List.drop_eq_nil_iff]
  omega

end Dialogue.Json

import Dialogue.Proofs.Document.Grammar
import Dialogue.Proofs.Value.Fits

/-!
# Values that are written and read

A value that is written, with or without white space, is read back as it was, when it keeps the
bounds of the reader and when its floating-point numbers survive: the text of each of them is read as
that number. What follows a list, a record or a text does not matter.

* `Json.Survives`: a number whose text is read as the number.
* `Json.readText_quoteChars`: a text between quotation marks is read back.
* `Layout`: where white space stands; `Layout.chars_compact` and `Layout.chars_pretty` say that both
  ways of writing values are layouts.
* `Json.read_pretty`: a written value is read back.
* `Json.readPart_record`: a written record is read back whatever follows it.
-/

namespace Dialogue

namespace Value

mutual

/-- The floating-point numbers in a value. -/
def reals : Value → List Binary64
  | real x => [x]
  | list items => realsOfItems items
  | record fields => realsOfFields fields
  | _ => []

/-- The floating-point numbers in a list of values. -/
def realsOfItems : List Value → List Binary64
  | [] => []
  | item :: more => item.reals ++ realsOfItems more

/-- The floating-point numbers in the values of fields. -/
def realsOfFields : List (String × Value) → List Binary64
  | [] => []
  | (_, value) :: more => value.reals ++ realsOfFields more

end

theorem realsOfItems_eq (items : List Value) : realsOfItems items = items.flatMap reals := by
  induction items with
  | nil => rfl
  | cons item more ih => rw [realsOfItems, ih, List.flatMap_cons]

theorem realsOfFields_eq (fields : List (String × Value)) :
    realsOfFields fields = fields.flatMap fun p => p.2.reals := by
  induction fields with
  | nil => rfl
  | cons p more ih => rw [realsOfFields, ih, List.flatMap_cons]

end Value

/-! ### Layouts -/

/-- Where white space stands in a written value: before each entry of a list or record and before the
bracket that closes it, depending on the level of nesting, and after the colon of a field. -/
structure Layout where
  line : Nat → List Char
  gap : List Char
  line_blank : ∀ level, ∀ c ∈ line level, Json.isSpace c = true
  gap_blank : ∀ c ∈ gap, Json.isSpace c = true

namespace Layout

open Json (quoteChars isSpace)

mutual

/-- The characters of a value; an empty list or record holds no white space. -/
def chars (l : Layout) (level : Nat) : Value → List Char
  | .text s => quoteChars s
  | .list [] => ['[', ']']
  | .list items => '[' :: (l.items (level + 1) items ++ l.line level ++ [']'])
  | .record [] => ['\x7b', '\x7d']
  | .record fields => '\x7b' :: (l.fields (level + 1) fields ++ l.line level ++ ['\x7d'])
  | other => other.atom

/-- Items with commas between them. -/
def items (l : Layout) (level : Nat) : List Value → List Char
  | [] => []
  | [item] => l.line level ++ l.chars level item
  | item :: more => l.line level ++ l.chars level item ++ ',' :: l.items level more

/-- Fields with commas between them. -/
def fields (l : Layout) (level : Nat) : List (String × Value) → List Char
  | [] => []
  | [(name, value)] => l.line level ++ quoteChars name ++ ':' :: (l.gap ++ l.chars level value)
  | (name, value) :: more =>
    l.line level ++ quoteChars name ++ ':' :: (l.gap ++ l.chars level value)
      ++ ',' :: l.fields level more

end

/-- No white space at all. -/
def compact : Layout := ⟨fun _ => [], [], nofun, nofun⟩

/-- Each entry on a line of its own, with two blanks of indentation per level. -/
def pretty : Layout where
  line := Value.newLine
  gap := [' ']
  line_blank := fun level c hc => by
    rcases List.mem_cons.1 hc with rfl | hc
    · rfl
    · rw [List.eq_of_mem_replicate hc]
      rfl
  gap_blank := fun c hc => by
    rw [List.mem_singleton.1 hc]
    rfl

mutual

theorem chars_compact (level : Nat) : (v : Value) → compact.chars level v = v.compactChars
  | .null | .bool _ | .int _ | .real _ | .text _ | .list [] | .record [] => rfl
  | .list (item :: more) => by
    rw [chars, Value.compactChars, items_compact (level + 1) (item :: more)]
    · simp [compact]
    · exact List.cons_ne_nil item more
  | .record (field :: more) => by
    rw [chars, Value.compactChars, fields_compact (level + 1) (field :: more)]
    · simp [compact]
    · exact List.cons_ne_nil field more

theorem items_compact (level : Nat) : (items : List Value) →
    compact.items level items = Value.compactItems items
  | [] => rfl
  | [item] => by
    rw [items, Value.compactItems, chars_compact level item]
    rfl
  | item :: next :: more => by
    rw [items, Value.compactItems, chars_compact level item, items_compact level (next :: more)]
    · rfl
    · exact List.cons_ne_nil next more
    · exact List.cons_ne_nil next more

theorem fields_compact (level : Nat) : (fields : List (String × Value)) →
    compact.fields level fields = Value.compactFields fields
  | [] => rfl
  | [(name, value)] => by
    rw [fields, Value.compactFields, chars_compact level value]
    rfl
  | (name, value) :: next :: more => by
    rw [fields, Value.compactFields, chars_compact level value,
      fields_compact level (next :: more)]
    · simp [compact]
    · exact List.cons_ne_nil next more
    · exact List.cons_ne_nil next more

end

mutual

theorem chars_pretty (level : Nat) : (v : Value) → pretty.chars level v = v.prettyChars level
  | .null | .bool _ | .int _ | .real _ | .text _ | .list [] | .record [] => rfl
  | .list (item :: more) => by
    rw [chars, Value.prettyChars, items_pretty (level + 1) (item :: more)]
    · rfl
    · exact List.cons_ne_nil item more
    · exact List.cons_ne_nil item more
  | .record (field :: more) => by
    rw [chars, Value.prettyChars, fields_pretty (level + 1) (field :: more)]
    · rfl
    · exact List.cons_ne_nil field more
    · exact List.cons_ne_nil field more

theorem items_pretty (level : Nat) : (items : List Value) →
    pretty.items level items = Value.prettyItems level items
  | [] => rfl
  | [item] => by
    rw [items, Value.prettyItems, chars_pretty level item]
    rfl
  | item :: next :: more => by
    rw [items, Value.prettyItems, chars_pretty level item, items_pretty level (next :: more)]
    · rfl
    · exact List.cons_ne_nil next more
    · exact List.cons_ne_nil next more

theorem fields_pretty (level : Nat) : (fields : List (String × Value)) →
    pretty.fields level fields = Value.prettyFields level fields
  | [] => rfl
  | [(name, value)] => by
    rw [fields, Value.prettyFields, chars_pretty level value]
    rfl
  | (name, value) :: next :: more => by
    rw [fields, Value.prettyFields, chars_pretty level value, fields_pretty level (next :: more)]
    · rfl
    · exact List.cons_ne_nil next more
    · exact List.cons_ne_nil next more

end

end Layout

namespace Json

open Text
open Value (Fits)
open Document (ofValue)

/-- A floating-point number survives when its text is read as the number. -/
def Survives (x : Binary64) : Prop := readPart x.toText.toList = (.real x, some [])

/-- Whether a number is what was read, with nothing after it. -/
def isWhole (x : Binary64) : Document × Option (List Char) → Bool
  | (.real y, some []) => y = x
  | _ => false

theorem isWhole_eq_true {x : Binary64} {found : Document × Option (List Char)} :
    isWhole x found = true ↔ found = (.real x, some []) := by
  unfold isWhole
  split
  · simp
  · rename_i hne
    constructor
    · rintro ⟨⟩
    · rintro rfl
      exact absurd rfl (hne x)

instance (x : Binary64) : Decidable (Survives x) :=
  decidable_of_iff (isWhole x (readPart x.toText.toList) = true) isWhole_eq_true

theorem readValue_skipSpace (fuel depth : Nat) (cs : List Char) :
    readValue fuel depth (skipSpace cs) = readValue fuel depth cs := by
  cases fuel with
  | zero => rw [readValue, readValue]
  | succ fuel => rw [readValue, readValue, skipSpace_skipSpace]

/-! ### Texts -/

theorem hexValue?_hexDigit {n : Nat} (h : n < 16) : hexValue? (hexDigit n) = some n := by
  revert n
  decide

theorem readTextFrom_unicode (fuel : Nat) (done : List Char) {c : Char} {rest more : List Char}
    (h : readUnicode rest = .ok (c, more)) :
    readTextFrom (fuel + 1) done ('\\' :: 'u' :: rest) = readTextFrom fuel (c :: done) more := by
  rw [readTextFrom.eq_def]
  dsimp only
  rw [if_neg (by decide), if_pos rfl]
  simp only [h]

/-- A character is read back from the way it is written. -/
theorem readTextFrom_escape (fuel : Nat) (done : List Char) (c : Char) (rest : List Char) :
    readTextFrom (fuel + 1) done (escape c ++ rest) = readTextFrom fuel (c :: done) rest := by
  unfold escape
  split
  · rfl
  · rfl
  · rfl
  · rfl
  · rfl
  · rfl
  · rfl
  · rename_i hquote hslash _ _ _ _ _
    split
    · -- a control character is written by its code
      rename_i hcontrol
      have hhigh : hexValue? (hexDigit (c.toNat / 16)) = some (c.toNat / 16) :=
        hexValue?_hexDigit (by omega)
      have hlow : hexValue? (hexDigit (c.toNat % 16)) = some (c.toNat % 16) :=
        hexValue?_hexDigit (by omega)
      have hcode : ((0 * 16 + 0) * 16 + c.toNat / 16) * 16 + c.toNat % 16 = c.toNat := by omega
      have hhex : readHex ('0' :: '0' :: hexDigit (c.toNat / 16) :: hexDigit (c.toNat % 16) :: rest) =
          .ok (c.toNat, rest) := by
        rw [readHex, hhigh, hlow, show hexValue? '0' = some 0 from rfl]
        dsimp only
        rw [hcode]
      have hunicode : readUnicode ('0' :: '0' :: hexDigit (c.toNat / 16) :: hexDigit (c.toNat % 16)
          :: rest) = .ok (c, rest) := by
        rw [readUnicode, hhex]
        show (if 0xDC00 ≤ c.toNat ∧ c.toNat ≤ 0xDFFF then _ else _) = _
        rw [if_neg (by omega), if_pos (by omega), Char.ofNat_toNat]
      exact readTextFrom_unicode fuel done hunicode
    · rename_i hcontrol
      rw [List.singleton_append, readTextFrom.eq_def]
      dsimp only
      rw [if_neg hquote, if_neg hslash, if_neg hcontrol]

theorem length_flatMap_escape (cs : List Char) : cs.length ≤ (cs.flatMap escape).length := by
  have hone : ∀ c, 1 ≤ (escape c).length := by
    intro c
    unfold escape
    split <;> first | decide | (split <;> simp)
  induction cs with
  | nil => exact Nat.le_refl 0
  | cons c cs ih =>
    have hc := hone c
    rw [List.flatMap_cons, List.length_cons, List.length_append]
    omega

/-- A text between quotation marks is read back. -/
theorem readText_quoteChars (s : String) (rest : List Char) :
    readText (s.toList.flatMap escape ++ '"' :: rest) = .ok (s, rest) := by
  have hall : ∀ (cs done : List Char) (fuel : Nat), cs.length < fuel →
      readTextFrom fuel done (cs.flatMap escape ++ '"' :: rest) =
        .ok (String.ofList (done.reverse ++ cs), rest) := by
    intro cs
    induction cs with
    | nil =>
      intro done fuel hf
      obtain ⟨fuel, rfl⟩ := Nat.exists_eq_succ_of_ne_zero (Nat.ne_of_gt hf)
      rw [List.append_nil]
      rfl
    | cons c cs ih =>
      intro done fuel hf
      obtain ⟨fuel, rfl⟩ := Nat.exists_eq_succ_of_ne_zero (Nat.ne_of_gt (Nat.zero_lt_of_lt hf))
      rw [List.flatMap_cons, List.append_assoc, readTextFrom_escape,
        ih _ _ (Nat.lt_of_succ_lt_succ hf)]
      simp
  have hfuel : s.toList.length < (s.toList.flatMap escape ++ '"' :: rest).length + 1 := by
    have hl := length_flatMap_escape s.toList
    rw [List.length_append]
    omega
  rw [readText, hall _ _ _ hfuel]
  simp

/-! ### Numbers -/

theorem skipSpace_append {cs rest : List Char} {c : Char} (h : skipSpace cs = c :: rest)
    (tail : List Char) : skipSpace (cs ++ tail) = c :: (rest ++ tail) := by
  unfold skipSpace at h ⊢
  rw [List.dropWhile_append, h]
  rfl

theorem readNumber_of_ofStep {positive : Bool} {cs tail : List Char} {d : Document} (ht : Ends tail)
    (h : ofStep (readNumber positive cs) = (d, some [])) :
    ofStep (readNumber positive (cs ++ tail)) = (d, some tail) := by
  cases hn : readNumber positive cs with
  | error fault =>
    rw [hn] at h
    cases congrArg Prod.snd h
  | ok found =>
    rw [hn] at h
    obtain ⟨d', rest⟩ := found
    cases h
    rw [readNumber_append ht hn]
    rfl

/-- A digit begins a number. -/
theorem readValue_digit {c : Char} (hc : isDigit c = true) (fuel depth : Nat) (rest : List Char) :
    readValue (fuel + 1) depth (c :: rest) = ofStep (readNumber true (c :: rest)) := by
  have hspace : skipSpace (c :: rest) = c :: rest := by
    refine List.dropWhile_cons_of_neg fun hs => ?_
    simp only [Bool.or_eq_true, beq_iff_eq] at hs
    rcases hs with ((rfl | rfl) | rfl) | rfl <;> cases hc
  rw [readValue, hspace]
  split
  · rename_i heq
    cases heq
  all_goals
    rename_i heq
    cases heq
  all_goals first | cases hc | rw [if_pos hc]

/-- A number that is read from a text of its own is read from that text before another. -/
theorem readValue_append {depth fuel : Nat} {cs tail : List Char} {x : Binary64}
    (ht : Ends tail) (h : readValue fuel depth cs = (.real x, some [])) (fuel' depth' : Nat) :
    readValue (fuel' + 1) depth' (cs ++ tail) = (.real x, some tail) := by
  have hword : ∀ {word rest : List Char} {d : Document}, d ≠ .real x →
      readKeyword word d rest ≠ (.real x, some []) := by
    intro word rest d hd hk
    unfold readKeyword at hk
    split at hk
    · exact hd (congrArg Prod.fst hk)
    · cases congrArg Prod.snd hk
  cases fuel with
  | zero =>
    rw [readValue] at h
    cases congrArg Prod.snd h
  | succ fuel =>
    rw [readValue] at h
    split at h
    · cases congrArg Prod.snd h
    · exact absurd h (hword (by simp))
    · exact absurd h (hword (by simp))
    · exact absurd h (hword (by simp))
    · rename_i hskip
      rw [← readValue_skipSpace, skipSpace_append hskip]
      exact readNumber_of_ofStep ht h
    · rename_i rest hskip
      cases hr : readText rest with
      | error fault =>
        rw [hr] at h
        cases congrArg Prod.snd h
      | ok found =>
        rw [hr] at h
        cases congrArg Prod.fst h
    · split at h
      · cases congrArg Prod.snd h
      · cases congrArg Prod.snd h
      · cases congrArg Prod.fst h
    · split at h
      · cases congrArg Prod.snd h
      · cases congrArg Prod.snd h
      · cases congrArg Prod.fst h
    · rename_i c rest _ _ _ _ _ _ _ hskip
      split at h
      · rename_i hd
        rw [← readValue_skipSpace, skipSpace_append hskip, readValue_digit hd]
        exact readNumber_of_ofStep ht h
      · cases congrArg Prod.snd h

theorem readValue_int {i : Int} (hl : -(twoTo 63 : Int) ≤ i) (hg : i ≤ greatestNatural)
    {tail : List Char} (ht : Ends tail) (fuel depth : Nat) :
    readValue (fuel + 1) depth ((Value.int i).atom ++ tail) = (.int i, some tail) := by
  have hn := readNumber_append ht (readNumber_int hl hg)
  rw [List.nil_append] at hn
  unfold Value.atom
  dsimp only
  by_cases hneg : i < 0
  · rw [decide_eq_true hneg, Bool.not_true] at hn
    rw [if_pos hneg]
    show ofStep (readNumber false (digitsOf i.natAbs ++ tail)) = _
    rw [hn]
    rfl
  · rw [decide_eq_false hneg, Bool.not_false] at hn
    rw [if_neg hneg, List.nil_append]
    cases hds : digitsOf i.natAbs with
    | nil => exact absurd hds (digitsOf_ne_nil _)
    | cons c ds =>
      have hc : isDigit c = true := isDigit_of_mem_digitsOf (by rw [hds]; exact List.mem_cons_self)
      rw [List.cons_append, readValue_digit hc, ← List.cons_append, ← hds, hn]
      rfl

theorem readValue_real {x : Binary64} (hs : Survives x) {tail : List Char} (ht : Ends tail)
    (fuel depth : Nat) :
    readValue (fuel + 1) depth ((Value.real x).atom ++ tail) = (.real x, some tail) := by
  have hfinite : x.isFinite = true := by
    cases x with
    | nan => exact absurd hs (by decide)
    | infinite negative => cases negative <;> exact absurd hs (by decide)
    | finite => rfl
  unfold Value.atom
  dsimp only
  rw [if_pos hfinite]
  exact readValue_append ht hs fuel depth

/-! ### Lists -/

/-- What is read as the document of a value begins, after white space, with something else than a
closing bracket. -/
theorem head_of_readValue {fuel depth : Nat} {cs tail : List Char} {d : Document}
    (h : readValue fuel depth cs = (d, some tail)) :
    ∃ c rest, skipSpace cs = c :: rest ∧ c ≠ ']' := by
  cases fuel with
  | zero =>
    rw [readValue] at h
    cases congrArg Prod.snd h
  | succ fuel =>
    rw [readValue] at h
    cases hs : skipSpace cs with
    | nil =>
      rw [hs] at h
      cases congrArg Prod.snd h
    | cons c rest =>
      refine ⟨c, rest, rfl, ?_⟩
      rintro rfl
      rw [hs] at h
      cases congrArg Prod.snd h

theorem readValue_bracket (fuel depth : Nat) (cs : List Char) :
    readValue (fuel + 1) (depth + 2) ('[' :: cs) =
      (.list (readItems fuel (depth + 1) true cs).1 (readItems fuel (depth + 1) true cs).2.1,
        (readItems fuel (depth + 1) true cs).2.2) := rfl

theorem readItems_first (fuel depth : Nat) {cs rest : List Char} {c : Char}
    (h : skipSpace cs = c :: rest) (hc : c ≠ ']') :
    readItems (fuel + 1) depth true cs = readItem fuel depth (c :: rest) := by
  rw [readItems_succ, h]
  split
  · rename_i heq
    cases heq
  · rename_i heq
    exact absurd (List.cons.inj heq).1 hc
  · rename_i heq
    cases heq
    rfl

theorem readItems_comma (fuel depth : Nat) {cs rest : List Char} {c : Char}
    (h : skipSpace cs = c :: rest) (hc : c ≠ ']') :
    readItems (fuel + 1) depth false (',' :: cs) = readItem fuel depth (c :: rest) := by
  have hcomma : skipSpace (',' :: cs) = ',' :: cs := rfl
  rw [readItems_succ, hcomma]
  refine (if_neg Bool.false_ne_true).trans ((if_pos rfl).trans ?_)
  rw [h]
  split
  · rename_i heq
    exact absurd (List.cons.inj heq).1 hc
  · rename_i heq
    cases heq
  · rfl

section Written

variable {l : Layout}

theorem skipSpace_append_of_blank {blank : List Char} (hb : ∀ c ∈ blank, isSpace c = true)
    (cs : List Char) : skipSpace (blank ++ cs) = skipSpace cs :=
  List.dropWhile_append_of_pos hb

theorem skipSpace_line (level : Nat) (cs : List Char) :
    skipSpace (l.line level ++ cs) = skipSpace cs :=
  skipSpace_append_of_blank (l.line_blank level) cs

/-- No number goes on with white space. -/
theorem ends_line {rest : List Char} (h : Ends rest) (level : Nat) : Ends (l.line level ++ rest) := by
  have hblank := l.line_blank level
  cases hl : l.line level with
  | nil => exact h
  | cons c cs =>
    rw [hl] at hblank
    have hc : isSpace c = true := hblank c List.mem_cons_self
    simp only [isSpace, Bool.or_eq_true, beq_iff_eq] at hc
    refine ends_cons ?_ _
    rcases hc with ((rfl | rfl) | rfl) | rfl <;> decide

/-- A value that is read back wherever it is written. -/
def ReadsBack (l : Layout) (n : Nat) (v : Value) : Prop :=
  ∀ level fuel tail, Ends tail → (l.chars level v).length < fuel →
    readValue fuel (n + 1) (l.chars level v ++ tail) = (ofValue v, some tail)

/-- A value that is read back is written with one character at least. -/
theorem ReadsBack.ne_nil {n : Nat} {v : Value} (h : ReadsBack l n v) (level : Nat) :
    l.chars level v ≠ [] := by
  obtain ⟨c, rest, hskip, -⟩ := head_of_readValue (h level _ [] ends_nil (Nat.lt_succ_self _))
  intro hnil
  rw [hnil] at hskip
  cases hskip

/-- The items after one that is written, each after a comma. -/
def moreItems (l : Layout) (level : Nat) (items : List Value) : List Char :=
  if items = [] then [] else ',' :: l.items level items

theorem items_cons (level : Nat) (item : Value) (more : List Value) :
    l.items level (item :: more) =
      l.line level ++ (l.chars level item ++ moreItems l level more) := by
  cases more with
  | nil => rw [moreItems, if_pos rfl, List.append_nil, Layout.items]
  | cons next more =>
    rw [moreItems, if_neg (List.cons_ne_nil next more), Layout.items]
    · simp
    · exact List.cons_ne_nil next more

theorem moreItems_cons (level : Nat) (item : Value) (more : List Value) (rest : List Char) :
    moreItems l level (item :: more) ++ rest =
      ',' :: (l.line level ++ (l.chars level item ++ (moreItems l level more ++ rest))) := by
  rw [moreItems, if_neg (List.cons_ne_nil item more), items_cons]
  simp

theorem chars_list_cons (level : Nat) (item : Value) (more : List Value) (rest : List Char) :
    l.chars level (.list (item :: more)) ++ rest =
      '[' :: (l.line (level + 1) ++ (l.chars (level + 1) item ++
        (moreItems l (level + 1) more ++ (l.line level ++ ']' :: rest)))) := by
  rw [Layout.chars, items_cons]
  · simp
  · exact List.cons_ne_nil item more

theorem ends_moreItems {rest : List Char} (h : Ends rest) (level k : Nat) (items : List Value) :
    Ends (moreItems l level items ++ (l.line k ++ rest)) := by
  unfold moreItems
  split
  · exact ends_line h k
  · exact ends_cons (by decide) _

theorem readItem_chars {n fuel : Nat} {item : Value} {rest : List Char}
    {found : List Document × Option TextFault × Option (List Char)} (hi : ReadsBack l n item)
    (level : Nat) (ht : Ends rest) (hf : (l.chars level item).length < fuel)
    (hmore : readItems fuel (n + 1) false rest = found) :
    readItem fuel (n + 1) (skipSpace (l.line level ++ (l.chars level item ++ rest))) =
      (ofValue item :: found.1, found.2.1, found.2.2) := by
  rw [readItem, skipSpace_line, readValue_skipSpace, hi level fuel rest ht hf]
  dsimp only
  rw [hmore]

/-- Items that are written are read back up to the bracket. -/
theorem readItems_chars {n level k : Nat} {items : List Value} (hi : ∀ v ∈ items, ReadsBack l n v)
    (tail : List Char) {fuel : Nat}
    (hf : (moreItems l level items ++ (l.line k ++ [']'])).length < fuel) :
    readItems fuel (n + 1) false (moreItems l level items ++ (l.line k ++ ']' :: tail)) =
      (items.map ofValue, none, some tail) := by
  induction items generalizing fuel with
  | nil =>
    obtain ⟨fuel, rfl⟩ := Nat.exists_eq_succ_of_ne_zero (Nat.ne_of_gt (Nat.zero_lt_of_lt hf))
    rw [moreItems, if_pos rfl, List.nil_append, readItems_succ, skipSpace_line]
    rfl
  | cons item more ih =>
    obtain ⟨fuel, rfl⟩ := Nat.exists_eq_succ_of_ne_zero (Nat.ne_of_gt (Nat.zero_lt_of_lt hf))
    rw [moreItems_cons] at hf ⊢
    simp only [List.length_append, List.length_cons] at hf
    have hlen : (moreItems l level more ++ (l.line k ++ [']'])).length < fuel := by
      simp only [List.length_append, List.length_cons]
      omega
    have hends : Ends (moreItems l level more ++ (l.line k ++ ']' :: tail)) :=
      ends_moreItems (ends_cons (by decide) tail) level k more
    have hmore := ih (fun v hv => hi v (List.mem_cons_of_mem item hv)) hlen
    have hitem := readItem_chars (hi item List.mem_cons_self) level hends (by omega) hmore
    obtain ⟨c, rest, hskip, hc⟩ := head_of_readValue
      (hi item List.mem_cons_self level fuel _ hends (by omega))
    rw [← skipSpace_line level] at hskip
    rw [hskip] at hitem
    rw [readItems_comma _ _ hskip hc]
    exact hitem

/-- A list that is written is read back, whatever follows it. -/
theorem readValue_list {n : Nat} {items : List Value} (hi : ∀ v ∈ items, ReadsBack l n v)
    (level : Nat) {fuel : Nat} (tail : List Char)
    (hf : (l.chars level (.list items)).length < fuel) :
    readValue fuel (n + 2) (l.chars level (.list items) ++ tail) =
      (ofValue (.list items), some tail) := by
  obtain ⟨fuel, rfl⟩ := Nat.exists_eq_succ_of_ne_zero (Nat.ne_of_gt (Nat.zero_lt_of_lt hf))
  rw [Document.ofValue_list]
  cases items with
  | nil =>
    obtain ⟨fuel, rfl⟩ := Nat.exists_eq_succ_of_ne_zero
      (Nat.ne_of_gt (Nat.zero_lt_of_lt (Nat.lt_of_succ_lt_succ hf)))
    rfl
  | cons item more =>
    have hsome : 0 < (l.chars (level + 1) item).length :=
      List.length_pos_iff.2 ((hi item List.mem_cons_self).ne_nil (level + 1))
    rw [← List.append_nil (l.chars level (.list (item :: more))), chars_list_cons] at hf
    simp only [List.length_append, List.length_cons, List.length_nil] at hf
    obtain ⟨fuel, rfl⟩ : ∃ fuel', fuel = fuel' + 1 := ⟨fuel - 1, by omega⟩
    have hlen : (moreItems l (level + 1) more ++ (l.line level ++ [']'])).length < fuel := by
      simp only [List.length_append, List.length_cons, List.length_nil]
      omega
    have hends : Ends (moreItems l (level + 1) more ++ (l.line level ++ ']' :: tail)) :=
      ends_moreItems (ends_cons (by decide) tail) (level + 1) level more
    have hmore := readItems_chars (fun v hv => hi v (List.mem_cons_of_mem item hv)) tail hlen
    have hitem := readItem_chars (hi item List.mem_cons_self) (level + 1) hends (by omega) hmore
    obtain ⟨c, rest, hskip, hc⟩ := head_of_readValue
      (hi item List.mem_cons_self (level + 1) fuel _ hends (by omega))
    rw [← skipSpace_line (level + 1)] at hskip
    rw [hskip] at hitem
    have hfirst := readItems_first fuel (n + 1) hskip hc
    rw [hitem] at hfirst
    rw [chars_list_cons, readValue_bracket, hfirst, List.map_cons]

/-! ### Records -/

/-- A field as it is written, its name first. -/
def fieldChars (l : Layout) (level : Nat) (field : String × Value) : List Char :=
  quoteChars field.1 ++ ':' :: (l.gap ++ l.chars level field.2)

/-- The fields after one that is written, each after a comma. -/
def moreFields (l : Layout) (level : Nat) (fields : List (String × Value)) : List Char :=
  if fields = [] then [] else ',' :: l.fields level fields

theorem fields_cons (level : Nat) (field : String × Value) (more : List (String × Value)) :
    l.fields level (field :: more) =
      l.line level ++ (fieldChars l level field ++ moreFields l level more) := by
  cases more with
  | nil =>
    rw [moreFields, if_pos rfl, Layout.fields, fieldChars]
    simp
  | cons next more =>
    rw [moreFields, if_neg (List.cons_ne_nil next more), Layout.fields, fieldChars]
    · simp
    · exact List.cons_ne_nil next more

theorem moreFields_cons (level : Nat) (field : String × Value) (more : List (String × Value))
    (rest : List Char) : moreFields l level (field :: more) ++ rest =
      ',' :: (l.line level ++ (fieldChars l level field ++ (moreFields l level more ++ rest))) := by
  rw [moreFields, if_neg (List.cons_ne_nil field more), fields_cons]
  simp

theorem chars_record_cons (level : Nat) (field : String × Value) (more : List (String × Value))
    (rest : List Char) : l.chars level (.record (field :: more)) ++ rest =
      '\x7b' :: (l.line (level + 1) ++ (fieldChars l (level + 1) field ++
        (moreFields l (level + 1) more ++ (l.line level ++ '\x7d' :: rest)))) := by
  rw [Layout.chars, fields_cons]
  · simp
  · exact List.cons_ne_nil field more

theorem ends_moreFields {rest : List Char} (h : Ends rest) (level k : Nat)
    (fields : List (String × Value)) : Ends (moreFields l level fields ++ (l.line k ++ rest)) := by
  unfold moreFields
  split
  · exact ends_line h k
  · exact ends_cons (by decide) _

/-- The text after the quotation mark that opens a field. -/
theorem fieldChars_append (level : Nat) (field : String × Value) (rest : List Char) :
    fieldChars l level field ++ rest = '"' :: (field.1.toList.flatMap escape ++
      '"' :: ':' :: (l.gap ++ (l.chars level field.2 ++ rest))) := by
  rw [fieldChars, quoteChars]
  simp

theorem readField_chars {n fuel : Nat} {field : String × Value} {rest : List Char}
    {found : List (String × Document) × Option TextFault × Option (List Char)}
    (hi : ReadsBack l n field.2) (level : Nat) (ht : Ends rest)
    (hf : (l.chars level field.2).length < fuel)
    (hmore : readFields fuel (n + 1) false rest = found) :
    readField (fuel + 1) (n + 1) (field.1.toList.flatMap escape ++
        '"' :: ':' :: (l.gap ++ (l.chars level field.2 ++ rest))) =
      ((field.1, ofValue field.2) :: found.1, found.2.1, found.2.2) := by
  have hvalue : readValue fuel (n + 1) (l.gap ++ (l.chars level field.2 ++ rest)) =
      (ofValue field.2, some rest) := by
    rw [← readValue_skipSpace, skipSpace_append_of_blank l.gap_blank, readValue_skipSpace,
      hi level fuel rest ht hf]
  rw [readField_succ, readText_quoteChars]
  show readContent fuel (n + 1) field.1 (l.gap ++ (l.chars level field.2 ++ rest)) = _
  rw [readContent, hvalue]
  dsimp only
  rw [hmore]

theorem readValue_brace (fuel depth : Nat) (cs : List Char) :
    readValue (fuel + 1) (depth + 2) ('\x7b' :: cs) =
      (.record (readFields fuel (depth + 1) true cs).1 (readFields fuel (depth + 1) true cs).2.1,
        (readFields fuel (depth + 1) true cs).2.2) := rfl

theorem readFields_first (fuel depth level : Nat) (field : String × Value) (rest : List Char) :
    readFields (fuel + 1) depth true (l.line level ++ (fieldChars l level field ++ rest)) =
      readField fuel depth (field.1.toList.flatMap escape ++
        '"' :: ':' :: (l.gap ++ (l.chars level field.2 ++ rest))) := by
  rw [readFields, skipSpace_line, fieldChars_append]
  rfl

theorem readFields_comma (fuel depth level : Nat) (field : String × Value) (rest : List Char) :
    readFields (fuel + 1) depth false (',' :: (l.line level ++ (fieldChars l level field ++ rest))) =
      readField fuel depth (field.1.toList.flatMap escape ++
        '"' :: ':' :: (l.gap ++ (l.chars level field.2 ++ rest))) := by
  have hcomma : skipSpace (',' :: (l.line level ++ (fieldChars l level field ++ rest))) =
    ',' :: (l.line level ++ (fieldChars l level field ++ rest)) := rfl
  rw [readFields, hcomma]
  refine (if_neg Bool.false_ne_true).trans ((if_pos rfl).trans ?_)
  rw [skipSpace_line, fieldChars_append]
  rfl

/-- Fields that are written are read back up to the brace. -/
theorem readFields_chars {n level k : Nat} {fields : List (String × Value)}
    (hi : ∀ p ∈ fields, ReadsBack l n p.2) (tail : List Char) {fuel : Nat}
    (hf : (moreFields l level fields ++ (l.line k ++ ['\x7d'])).length < fuel) :
    readFields fuel (n + 1) false (moreFields l level fields ++ (l.line k ++ '\x7d' :: tail)) =
      (fields.map fun p => (p.1, ofValue p.2), none, some tail) := by
  induction fields generalizing fuel with
  | nil =>
    obtain ⟨fuel, rfl⟩ := Nat.exists_eq_succ_of_ne_zero (Nat.ne_of_gt (Nat.zero_lt_of_lt hf))
    rw [moreFields, if_pos rfl, List.nil_append, readFields, skipSpace_line]
    rfl
  | cons field more ih =>
    rw [moreFields_cons] at hf ⊢
    simp only [List.length_append, List.length_cons, fieldChars] at hf
    obtain ⟨fuel, rfl⟩ : ∃ fuel', fuel = fuel' + 2 := ⟨fuel - 2, by omega⟩
    have hlen : (moreFields l level more ++ (l.line k ++ ['\x7d'])).length < fuel := by
      simp only [List.length_append, List.length_cons]
      omega
    have hmore := ih (fun p hp => hi p (List.mem_cons_of_mem field hp)) hlen
    have hfield := readField_chars (hi field List.mem_cons_self) level
      (ends_moreFields (ends_cons (by decide) tail) level k more) (by omega) hmore
    rw [readFields_comma]
    exact hfield

/-- A record that is written is read back, whatever follows it. -/
theorem readValue_record {n : Nat} {fields : List (String × Value)}
    (hi : ∀ p ∈ fields, ReadsBack l n p.2) (level : Nat) {fuel : Nat} (tail : List Char)
    (hf : (l.chars level (.record fields)).length < fuel) :
    readValue fuel (n + 2) (l.chars level (.record fields) ++ tail) =
      (ofValue (.record fields), some tail) := by
  obtain ⟨fuel, rfl⟩ := Nat.exists_eq_succ_of_ne_zero (Nat.ne_of_gt (Nat.zero_lt_of_lt hf))
  rw [Document.ofValue_record]
  cases fields with
  | nil =>
    obtain ⟨fuel, rfl⟩ := Nat.exists_eq_succ_of_ne_zero
      (Nat.ne_of_gt (Nat.zero_lt_of_lt (Nat.lt_of_succ_lt_succ hf)))
    rfl
  | cons field more =>
    rw [← List.append_nil (l.chars level (.record (field :: more))), chars_record_cons] at hf
    simp only [List.length_append, List.length_cons, List.length_nil, fieldChars, quoteChars] at hf
    obtain ⟨fuel, rfl⟩ : ∃ fuel', fuel = fuel' + 2 := ⟨fuel - 2, by omega⟩
    have hlen : (moreFields l (level + 1) more ++ (l.line level ++ ['\x7d'])).length < fuel := by
      simp only [List.length_append, List.length_cons, List.length_nil]
      omega
    have hmore := readFields_chars (fun p hp => hi p (List.mem_cons_of_mem field hp)) tail hlen
    have hfield := readField_chars (hi field List.mem_cons_self) (level + 1)
      (ends_moreFields (ends_cons (by decide) tail) (level + 1) level more) (by omega) hmore
    rw [← readFields_first] at hfield
    rw [chars_record_cons, readValue_brace, hfield, List.map_cons]

/-! ### Values -/

/-- A value within the bounds of the reader is read back wherever it is written. -/
theorem readsBack {n : Nat} {v : Value} (h : Fits n v) (hs : ∀ x ∈ v.reals, Survives x) :
    ReadsBack l n v := by
  induction h with
  | null n =>
    intro level fuel tail _ hf
    obtain ⟨fuel, rfl⟩ := Nat.exists_eq_succ_of_ne_zero (Nat.ne_of_gt (Nat.zero_lt_of_lt hf))
    rfl
  | bool n b =>
    intro level fuel tail _ hf
    obtain ⟨fuel, rfl⟩ := Nat.exists_eq_succ_of_ne_zero (Nat.ne_of_gt (Nat.zero_lt_of_lt hf))
    cases b <;> rfl
  | int n hl hg =>
    intro level fuel tail ht hf
    obtain ⟨fuel, rfl⟩ := Nat.exists_eq_succ_of_ne_zero (Nat.ne_of_gt (Nat.zero_lt_of_lt hf))
    exact readValue_int hl hg ht fuel (n + 1)
  | real n x =>
    intro level fuel tail ht hf
    obtain ⟨fuel, rfl⟩ := Nat.exists_eq_succ_of_ne_zero (Nat.ne_of_gt (Nat.zero_lt_of_lt hf))
    exact readValue_real (hs x List.mem_cons_self) ht fuel (n + 1)
  | text n s =>
    intro level fuel tail _ hf
    obtain ⟨fuel, rfl⟩ := Nat.exists_eq_succ_of_ne_zero (Nat.ne_of_gt (Nat.zero_lt_of_lt hf))
    have htext : l.chars level (.text s) ++ tail =
        '"' :: (s.toList.flatMap escape ++ '"' :: tail) := by
      rw [Layout.chars, quoteChars]
      simp
    rw [htext]
    show ofStep ((readText _).map _) = _
    rw [readText_quoteChars]
    rfl
  | @list n items _ ih =>
    have hi : ∀ v ∈ items, ReadsBack l n v := fun v hv => ih v hv fun x hx => hs x <| by
      rw [Value.reals, Value.realsOfItems_eq]
      exact List.mem_flatMap.2 ⟨v, hv, hx⟩
    exact fun level _ tail _ hf => readValue_list hi level tail hf
  | @record n fields _ ih =>
    have hi : ∀ p ∈ fields, ReadsBack l n p.2 := fun p hp => ih p hp fun x hx => hs x <| by
      rw [Value.reals, Value.realsOfFields_eq]
      exact List.mem_flatMap.2 ⟨p, hp, hx⟩
    exact fun level _ tail _ hf => readValue_record hi level tail hf

/-- A record within the bounds of the reader is read back from the front of a text, whatever follows
it. -/
theorem readPart_record {fields : List (String × Value)} (h : Fits 127 (.record fields))
    (hs : ∀ x ∈ (Value.record fields).reals, Survives x) (level : Nat) (tail : List Char) :
    readPart (l.chars level (.record fields) ++ tail) = (ofValue (.record fields), some tail) := by
  have hi : ∀ p ∈ fields, ReadsBack l 126 p.2 := fun p hp => readsBack (h.field hp) fun x hx =>
    hs x <| by
      rw [Value.reals, Value.realsOfFields_eq]
      exact List.mem_flatMap.2 ⟨p, hp, hx⟩
  exact readValue_record hi level tail (by rw [List.length_append]; omega)

end Written

/-- A value that nests at most 127 levels deep is read back from its text. -/
theorem read_pretty {v : Value} (h : Fits 127 v) (hs : ∀ x ∈ v.reals, Survives x) :
    read v.pretty = (ofValue v, none) := by
  have hvalue := readsBack (l := .pretty) h hs 0 (2 * (v.prettyChars 0).length + 2) [] ends_nil
    (by rw [Layout.chars_pretty]; omega)
  rw [List.append_nil, Layout.chars_pretty] at hvalue
  unfold read readPart depthLimit Value.pretty
  rw [String.toList_ofList, hvalue]
  rfl

end Json

end Dialogue

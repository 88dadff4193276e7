import Dialogue.Proofs.Document.Grammar
import Dialogue.Proofs.Value.Fits

/-!
# What the reader accepts

Where the reader of JSON finds a value, a complete value stands in the text, and the reader goes on
behind it. Content that is only passed over gives no value, so it does not count.

* `Json.numeral_readNumber`: a number that is read is one of the grammar.
* `Json.spans_readPart`: a value that is read is one of the grammar, with what follows it.
-/

namespace Dialogue.Json

open Text (isDigit hexValue?)

variable {positive : Bool} {n : Nat} {exponent : Int} {cs rest next : List Char} {x : Binary64}
  {d : Document}

/-! ### Numbers -/

theorem Digits.trans (h : Digits cs next) (hn : Digits next rest) : Digits cs rest := by
  induction h with
  | last hc => exact .more hc hn
  | more hc _ ih => exact .more hc (ih hn)

theorem digits_dropWhile (h : (cs.head?.map isDigit).getD false = true) :
    Digits cs (cs.dropWhile isDigit) := by
  induction cs with
  | nil => cases h
  | cons c cs ih =>
    have hc : isDigit c = true := h
    rw [List.dropWhile_cons_of_pos hc]
    by_cases hmore : (cs.head?.map isDigit).getD false = true
    · exact .more hc (ih hmore)
    · have hstop : cs.dropWhile isDigit = cs := by
        cases cs with
        | nil => rfl
        | cons d ds => exact List.dropWhile_cons_of_neg hmore
      rw [hstop]
      exact .last hc

/-- Digits that are taken are digits, unless there are none. -/
theorem digits_takeDigits (n count : Nat) (cs : List Char) :
    ((takeDigits n count cs).2.1 = count ∧ (takeDigits n count cs).2.2 = cs) ∨
      Digits cs (takeDigits n count cs).2.2 := by
  induction cs generalizing n count with
  | nil => exact .inl ⟨rfl, rfl⟩
  | cons c cs ih =>
    rw [takeDigits]
    dsimp only
    split
    · rename_i hc
      split
      · exact .inl ⟨rfl, rfl⟩
      · rcases ih (n * 10 + (c.toNat - '0'.toNat)) (count + 1) with ⟨-, hrest⟩ | hmore
        · rw [hrest]
          exact .inr (.last hc)
        · exact .inr (.more hc hmore)
    · exact .inl ⟨rfl, rfl⟩

/-- One digit fits 64 bits. -/
theorem takeDigits_cons {c : Char} (hc : isDigit c = true) (cs : List Char) :
    takeDigits 0 0 (c :: cs) = takeDigits (c.toNat - '0'.toNat) 1 cs := by
  have hle : c.toNat ≤ '9'.toNat := by
    simp only [isDigit, Bool.and_eq_true, decide_eq_true_eq, Char.le_def,
      UInt32.le_iff_toNat_le] at hc
    exact hc.2
  have hfits : '9'.toNat ≤ greatestNatural := by decide
  rw [takeDigits, if_pos hc]
  dsimp only
  rw [if_neg (by omega), Nat.zero_mul, Nat.zero_add]

theorem digits_exponentAfter {up : Bool}
    (h : exponentAfter positive n exponent up cs = .ok (x, rest)) : Digits cs rest := by
  unfold exponentAfter at h
  cases cs with
  | nil => cases h
  | cons c cs =>
    dsimp only at h
    split at h
    · rename_i hc
      have hd : Digits (c :: cs) ((c :: cs).dropWhile isDigit) := digits_dropWhile hc
      split at h
      · split at h
        · cases h
        · cases h
          exact hd
      · obtain ⟨y, -, heq⟩ := of_bind_ok h
        cases heq
        exact hd
    · cases h

theorem exponent_readExponent {mark : Char} (hm : mark = 'e' ∨ mark = 'E')
    (h : readExponent positive n exponent cs = .ok (x, rest)) : Exponent (mark :: cs) rest := by
  rw [readExponent_eq] at h
  have hd := digits_exponentAfter h
  unfold exponentSign at hd
  split at hd
  · exact .signed hm (.inl rfl) hd
  · exact .signed hm (.inr rfl) hd
  · exact .bare hm hd

theorem exponent_readScaled (h : readScaled positive n exponent cs = .ok (x, rest)) :
    Exponent cs rest := by
  unfold readScaled at h
  split at h
  · exact exponent_readExponent (.inl rfl) h
  · exact exponent_readExponent (.inr rfl) h
  · obtain ⟨y, -, heq⟩ := of_bind_ok h
    cases heq
    exact .absent

/-- Digits and an exponent follow the point. -/
theorem digits_readFraction (h : readFraction positive n exponent cs = .ok (x, rest)) :
    ∃ next, Digits cs next ∧ Exponent next rest := by
  have htaken := digits_takeDigits n 0 cs
  unfold readFraction at h
  generalize takeDigits n 0 cs = taken at h htaken
  obtain ⟨m, count, more⟩ := taken
  dsimp only at h htaken
  have hsome : count ≠ 0 → Digits cs more := fun hc => htaken.resolve_left fun hn => hc hn.1
  cases more with
  | nil =>
    dsimp only at h
    split at h
    · cases h
    · rename_i hc
      exact ⟨[], hsome hc, exponent_readScaled h⟩
  | cons c more =>
    dsimp only at h
    split at h
    · rename_i hc
      have hdrop : Digits (c :: more) ((c :: more).dropWhile isDigit) := digits_dropWhile hc
      refine ⟨_, ?_, exponent_readScaled h⟩
      rcases htaken with ⟨-, rfl⟩ | hd
      · exact hdrop
      · exact hd.trans hdrop
    · split at h
      · cases h
      · rename_i hc
        exact ⟨_, hsome hc, exponent_readScaled h⟩

/-- A fraction and an exponent, each of them or none, follow the digits of a number. -/
def Scaled (cs rest : List Char) : Prop := ∃ next, Fraction cs next ∧ Exponent next rest

theorem scaled_point {e : Except TextFault (Binary64 × List Char)}
    (he : ∀ y more, e = .ok (y, more) → ∃ next, Digits cs next ∧ Exponent next more)
    (h : e.map (fun (x, rest) => (Document.real x, rest)) = .ok (d, rest)) :
    Scaled ('.' :: cs) rest := by
  obtain ⟨⟨y, more⟩, hy, heq⟩ := of_map_ok h
  cases heq
  obtain ⟨next, hd, hexp⟩ := he y rest hy
  exact ⟨next, .digits hd, hexp⟩

theorem scaled_exponent {e : Except TextFault (Binary64 × List Char)}
    (he : ∀ y more, e = .ok (y, more) → Exponent cs more)
    (h : e.map (fun (x, rest) => (Document.real x, rest)) = .ok (d, rest)) : Scaled cs rest := by
  obtain ⟨⟨y, more⟩, hy, heq⟩ := of_map_ok h
  cases heq
  exact ⟨cs, .absent, he y rest hy⟩

theorem scaled_readRest (h : readRest positive n cs = .ok (d, rest)) : Scaled cs rest := by
  unfold readRest at h
  split at h
  · exact scaled_point (fun _ _ => digits_readFraction) h
  · exact scaled_exponent (fun _ _ => exponent_readExponent (.inl rfl)) h
  · exact scaled_exponent (fun _ _ => exponent_readExponent (.inr rfl)) h
  · have hnone : rest = cs := by
      split at h
      · cases h
        rfl
      · split at h <;> cases h <;> rfl
    rw [hnone]
    exact ⟨cs, .absent, .absent⟩

theorem scaled_readLong {digits : Nat} (h : readLong positive n digits cs = .ok (d, rest)) :
    Scaled cs rest := by
  unfold readLong at h
  split at h
  · exact scaled_point (fun _ _ => digits_readFraction) h
  · exact scaled_exponent (fun _ _ => exponent_readScaled) h

/-- What follows the digits that fit 64 bits: further digits, unless they are a mistake, and then a
fraction and an exponent. -/
theorem scaled_readOn {fault : Option TextFault} (h : readOn positive n fault cs = .ok (d, rest)) :
    ∃ next, (next = cs ∨ fault = none ∧ Digits cs next) ∧ Scaled next rest := by
  unfold readOn at h
  split at h
  · rename_i hc
    cases fault with
    | some fault => cases h
    | none => exact ⟨_, .inr ⟨rfl, digits_dropWhile hc⟩, scaled_readLong h⟩
  · exact ⟨cs, .inl rfl, scaled_readRest h⟩

/-- A number that is read is one of the grammar. -/
theorem numeral_readNumber (h : readNumber positive cs = .ok (d, rest)) : Numeral cs rest := by
  rcases readNumber_cases h with ⟨more, rfl, hon⟩ | ⟨c, more, rfl, h0, hc, hon⟩
  · obtain ⟨next, hnext, after, hf, he⟩ := scaled_readOn hon
    obtain rfl : next = more := hnext.resolve_right fun hn => by cases hn.1
    exact ⟨next, after, .zero, hf, he⟩
  · obtain ⟨next, hnext, after, hf, he⟩ := scaled_readOn hon
    rw [takeDigits_cons hc] at hnext
    rcases digits_takeDigits (c.toNat - '0'.toNat) 1 more with ⟨-, hnone⟩ | htaken
    · rw [hnone] at hnext
      rcases hnext with rfl | ⟨-, hmore⟩
      · exact ⟨_, after, .digit h0 hc, hf, he⟩
      · exact ⟨_, after, .digits h0 hc hmore, hf, he⟩
    · rcases hnext with rfl | ⟨-, hmore⟩
      · exact ⟨_, after, .digits h0 hc htaken, hf, he⟩
      · exact ⟨_, after, .digits h0 hc (htaken.trans hmore), hf, he⟩

/-! ### Texts -/

theorem readHex_eq_ok {code : Nat} (h : readHex cs = .ok (code, rest)) :
    ∃ c₁ c₂ c₃ c₄, cs = c₁ :: c₂ :: c₃ :: c₄ :: rest ∧
      ∀ c ∈ [c₁, c₂, c₃, c₄], (hexValue? c).isSome := by
  unfold readHex at h
  split at h
  · split at h
    · rename_i h₁ h₂ h₃ h₄
      cases h
      exact ⟨_, _, _, _, rfl, by simp [h₁, h₂, h₃, h₄]⟩
    · cases h
  · cases h

/-- One escape is read, or two that make up a character together. -/
theorem quoted_readUnicode {c : Char} (h : readUnicode cs = .ok (c, next)) (hq : Quoted next rest) :
    Quoted ('\\' :: 'u' :: cs) rest := by
  obtain ⟨⟨high, more⟩, hhigh, hmore⟩ := of_bind_ok h
  obtain ⟨c₁, c₂, c₃, c₄, rfl, hhex⟩ := readHex_eq_ok hhigh
  refine .code hhex ?_
  dsimp only at hmore
  split at hmore
  · cases hmore
  split at hmore
  · cases hmore
    exact hq
  split at hmore
  · cases hmore
  · cases hmore
  · obtain ⟨⟨low, last⟩, hlow, hlast⟩ := of_bind_ok hmore
    obtain ⟨d₁, d₂, d₃, d₄, rfl, hhex⟩ := readHex_eq_ok hlow
    dsimp only at hlast
    split at hlast
    · cases hlast
    · obtain ⟨-, rfl⟩ := Prod.mk.inj (Except.ok.inj hlast)
      exact .code hhex hq
  · cases hmore

theorem quoted_readTextFrom {fuel : Nat} {done : List Char} {s : String}
    (h : readTextFrom fuel done cs = .ok (s, rest)) : Quoted cs rest := by
  induction fuel generalizing done cs with
  | zero => rw [readTextFrom] at h; cases h
  | succ fuel ih =>
    cases cs with
    | nil => rw [readTextFrom] at h; cases h
    | cons c cs =>
      rw [readTextFrom.eq_def] at h
      dsimp only at h
      split at h
      · rename_i hq
        cases h
        exact hq ▸ .close
      split at h
      · rename_i hs
        subst hs
        split at h
        · cases h
        all_goals first
          | exact .escape (by decide) (ih h)
          | skip
        · split at h
          · rename_i hu
            exact quoted_readUnicode hu (ih h)
          · cases h
        · cases h
      split at h
      · cases h
      · rename_i hq hs hc
        exact .char hq hs (by omega) (ih h)

/-- A text that is read is one of the grammar. -/
theorem quoted_readText {s : String} (h : readText cs = .ok (s, rest)) : Quoted cs rest :=
  quoted_readTextFrom h

/-! ### Values -/

open Document (itemValues fieldValues)

theorem readWord_eq_ok {word : List Char} (h : readWord word cs = .ok rest) :
    cs = word ++ rest := by
  induction word generalizing cs with
  | nil =>
    rw [readWord] at h
    exact Except.ok.inj h
  | cons w word ih =>
    cases cs with
    | nil => cases h
    | cons c cs =>
      rw [readWord] at h
      split at h
      · rename_i heq
        rw [heq, ih h, List.cons_append]
      · cases h

/-- A part stands at the front of a text, and the reader has gone on behind it. -/
def Accepted (p : Part) (cs : List Char) (next : Option (List Char)) : Prop :=
  ∃ rest, next = some rest ∧ Spans p cs rest

theorem accepted_readKeyword (word : String) {c : Char} {letters more : List Char} {v : Value}
    (hw : word ∈ keywords) (hl : word.toList = c :: letters)
    (hs : skipSpace cs = c :: more) (h : (readKeyword letters d more).1.toValue = .ok v) :
    Accepted .value cs (readKeyword letters d more).2 := by
  unfold readKeyword at h ⊢
  cases hr : readWord letters more with
  | error fault =>
    rw [hr] at h
    cases h
  | ok rest =>
    refine ⟨rest, rfl, .word word hw ?_⟩
    rw [hs, hl, readWord_eq_ok hr, List.cons_append]

theorem accepted_ofStep {p : Part} {step : Except TextFault (Document × List Char)} {v : Value}
    (hstep : ∀ d rest, step = .ok (d, rest) → Spans p cs rest)
    (h : (ofStep step).1.toValue = .ok v) : Accepted p cs (ofStep step).2 := by
  cases step with
  | error fault => cases h
  | ok found => exact ⟨found.2, rfl, hstep found.1 found.2 rfl⟩

/-- Items that were found have values, and their list is closed. -/
def ItemsRead (found : List Document × Option TextFault × Option (List Char)) : Prop :=
  found.2.1 = none ∧ ∃ values, itemValues found.1 = .ok values

/-- Fields that were found have values, and their record is closed. -/
def FieldsRead (found : List (String × Document) × Option TextFault × Option (List Char)) : Prop :=
  found.2.1 = none ∧ ∃ pairs, fieldValues found.1 = .ok pairs

section Parts

variable {v : Value} {fault : Option TextFault} {after : Option (List Char)}

theorem itemsRead_of_toValue {items : List Document}
    (h : (Document.list items fault).toValue = .ok v) : ItemsRead (items, fault, after) := by
  rw [Document.toValue] at h
  obtain ⟨values, hvalues, h⟩ := of_bind_ok h
  cases fault with
  | some fault => cases h
  | none => exact ⟨rfl, values, hvalues⟩

theorem fieldsRead_of_toValue {fields : List (String × Document)}
    (h : (Document.record fields fault).toValue = .ok v) : FieldsRead (fields, fault, after) := by
  rw [Document.toValue] at h
  obtain ⟨pairs, hpairs, h⟩ := of_bind_ok h
  cases fault with
  | some fault => cases h
  | none => exact ⟨rfl, pairs, hpairs⟩

theorem ItemsRead.of_cons {item : Document} {more : List Document}
    (h : ItemsRead (item :: more, fault, after)) :
    (∃ v, item.toValue = .ok v) ∧ ItemsRead (more, fault, after) := by
  obtain ⟨hclosed, values, hvalues⟩ := h
  rw [itemValues] at hvalues
  obtain ⟨v, hv, hvalues⟩ := of_bind_ok hvalues
  obtain ⟨rest, hrest, -⟩ := of_bind_ok hvalues
  exact ⟨⟨v, hv⟩, hclosed, rest, hrest⟩

theorem FieldsRead.of_cons {name : String} {item : Document} {more : List (String × Document)}
    (h : FieldsRead ((name, item) :: more, fault, after)) :
    (∃ v, item.toValue = .ok v) ∧ FieldsRead (more, fault, after) := by
  obtain ⟨hclosed, pairs, hpairs⟩ := h
  rw [fieldValues] at hpairs
  obtain ⟨v, hv, hpairs⟩ := of_bind_ok hpairs
  obtain ⟨rest, hrest, -⟩ := of_bind_ok hpairs
  exact ⟨⟨v, hv⟩, hclosed, rest, hrest⟩

end Parts

/-- With so much fuel, what is read and has a value is complete in the text. -/
structure SoundAt (fuel : Nat) : Prop where
  value : ∀ depth cs v, (readValue fuel depth cs).1.toValue = .ok v →
    Accepted .value cs (readValue fuel depth cs).2
  items : ∀ depth first cs, ItemsRead (readItems fuel depth first cs) →
    Accepted (.items first) cs (readItems fuel depth first cs).2.2
  fields : ∀ depth first cs, FieldsRead (readFields fuel depth first cs) →
    Accepted (.fields first) cs (readFields fuel depth first cs).2.2
  field : ∀ depth cs, FieldsRead (readField fuel depth cs) →
    Accepted .name cs (readField fuel depth cs).2.2

namespace SoundAt

variable {fuel depth : Nat} {first : Bool}

theorem zero : SoundAt 0 where
  value := fun _ _ _ h => by rw [readValue] at h; cases h
  items := fun _ _ _ h => by rw [readItems] at h; cases h.1
  fields := fun _ _ _ h => by rw [readFields] at h; cases h.1
  field := fun _ _ h => by rw [readField] at h; cases h.1

/-- An item and the items after it. -/
theorem item (hs : SoundAt fuel) (h : ItemsRead (readItem fuel depth cs)) :
    ∃ next, Spans .value cs next ∧ Accepted (.items false) next (readItem fuel depth cs).2.2 := by
  have hv := hs.value depth cs
  unfold readItem at h ⊢
  generalize readValue fuel depth cs = found at hv h ⊢
  obtain ⟨item, after⟩ := found
  cases after with
  | none =>
    obtain ⟨v, hitem⟩ := h.of_cons.1
    obtain ⟨rest, hnone, -⟩ := hv v hitem
    cases hnone
  | some rest =>
    obtain ⟨⟨v, hitem⟩, hmore⟩ := h.of_cons
    obtain ⟨next, hnext, hspans⟩ := hv v hitem
    cases hnext
    exact ⟨rest, hspans, hs.items depth false rest hmore⟩

/-- The content of a field and the fields after it. -/
theorem content (hs : SoundAt fuel) {name : String}
    (h : FieldsRead (readContent fuel depth name cs)) :
    ∃ next, Spans .value cs next ∧
      Accepted (.fields false) next (readContent fuel depth name cs).2.2 := by
  have hv := hs.value depth cs
  unfold readContent at h ⊢
  generalize readValue fuel depth cs = found at hv h ⊢
  obtain ⟨value, after⟩ := found
  cases after with
  | none =>
    -- the mistake at which the reading stopped leaves the field without a value
    have hstopped : ∃ v, value.toValue = .ok v := by
      dsimp only at h
      split at h <;> exact h.of_cons.1
    obtain ⟨v, hcontent⟩ := hstopped
    obtain ⟨rest, hnone, -⟩ := hv v hcontent
    cases hnone
  | some rest =>
    obtain ⟨⟨v, hcontent⟩, hmore⟩ := h.of_cons
    obtain ⟨next, hnext, hspans⟩ := hv v hcontent
    cases hnext
    exact ⟨rest, hspans, hs.fields depth false rest hmore⟩

/-- A value, by its first character. -/
theorem value_succ (hs : SoundAt fuel) {v : Value}
    (h : (readValue (fuel + 1) depth cs).1.toValue = .ok v) :
    Accepted .value cs (readValue (fuel + 1) depth cs).2 := by
  rw [readValue] at h ⊢
  split at h
  · cases h
  · rename_i hc
    exact accepted_readKeyword "null" (by decide) rfl hc h
  · rename_i hc
    exact accepted_readKeyword "true" (by decide) rfl hc h
  · rename_i hc
    exact accepted_readKeyword "false" (by decide) rfl hc h
  · rename_i hc
    exact accepted_ofStep (fun _ _ hn => .negative hc (numeral_readNumber hn)) h
  · rename_i hc
    refine accepted_ofStep (fun d rest hstep => ?_) h
    obtain ⟨⟨s, more⟩, hq, heq⟩ := of_map_ok hstep
    cases heq
    exact .text hc (quoted_readText hq)
  · -- a list, within the depth that is read
    rename_i more hc
    split at h
    · cases h
    · cases h
    · obtain ⟨rest, hrest, hspans⟩ := hs.items _ true more (itemsRead_of_toValue h)
      exact ⟨rest, hrest, .list hc hspans⟩
  · -- a record, likewise
    rename_i more hc
    split at h
    · cases h
    · cases h
    · obtain ⟨rest, hrest, hspans⟩ := hs.fields _ true more (fieldsRead_of_toValue h)
      exact ⟨rest, hrest, .record hc hspans⟩
  · rename_i hc
    split at h
    · rename_i hd
      rw [if_pos hd]
      exact accepted_ofStep (fun _ _ hn => .number (hc ▸ numeral_readNumber hn)) h
    · cases h

theorem items_succ (hs : SoundAt fuel) (h : ItemsRead (readItems (fuel + 1) depth first cs)) :
    Accepted (.items first) cs (readItems (fuel + 1) depth first cs).2.2 := by
  rw [readItems_succ] at h ⊢
  split at h
  · cases h.1
  · rename_i rest hc
    exact ⟨rest, rfl, .listEnd hc⟩
  rename_i c more _ hc
  split at h
  · -- the first item follows the bracket
    rename_i hfirst
    rw [if_pos hfirst]
    obtain ⟨next, hv, rest, hrest, hm⟩ := hs.item h
    exact ⟨rest, hrest, hfirst ▸ .firstItem (.congr (skipSpace_skipSpace cs) (hc ▸ hv)) hm⟩
  · -- any other follows a comma
    rename_i hfirst
    rw [if_neg hfirst]
    split at h
    · rename_i hcomma
      rw [if_pos hcomma]
      split at h
      · cases h.1
      · cases h.1
      · obtain ⟨next, hv, rest, hrest, hm⟩ := hs.item h
        obtain rfl : first = false := by simpa using hfirst
        exact ⟨rest, hrest, .nextItem (hcomma ▸ hc) (hv.congr (skipSpace_skipSpace more)) hm⟩
    · cases h.1

theorem fields_succ (hs : SoundAt fuel) (h : FieldsRead (readFields (fuel + 1) depth first cs)) :
    Accepted (.fields first) cs (readFields (fuel + 1) depth first cs).2.2 := by
  rw [readFields] at h ⊢
  split at h
  · cases h.1
  · rename_i rest hc
    exact ⟨rest, rfl, .recordEnd hc⟩
  rename_i c more _ hc
  split at h
  · rename_i hfirst
    rw [if_pos hfirst]
    split at h
    · rename_i hquote
      rw [if_pos hquote]
      obtain ⟨rest, hrest, hn⟩ := hs.field depth more h
      exact ⟨rest, hrest, hfirst ▸ .firstField (hquote ▸ hc) hn⟩
    · cases h.1
  · rename_i hfirst
    rw [if_neg hfirst]
    split at h
    · rename_i hcomma
      rw [if_pos hcomma]
      split at h
      · rename_i name hq
        obtain ⟨rest, hrest, hn⟩ := hs.field depth name h
        obtain rfl : first = false := by simpa using hfirst
        exact ⟨rest, hrest, .nextField (hcomma ▸ hc) hq hn⟩
      · cases h.1
      · cases h.1
      · cases h.1
    · cases h.1

theorem field_succ (hs : SoundAt fuel) (h : FieldsRead (readField (fuel + 1) depth cs)) :
    Accepted .name cs (readField (fuel + 1) depth cs).2.2 := by
  rw [readField_succ] at h ⊢
  split at h
  · cases h.1
  · rename_i hq
    split at h
    · obtain ⟨v, hv⟩ := h.of_cons.1
      cases hv
    · rename_i hc
      obtain ⟨next, hv, rest, hrest, hm⟩ := hs.content h
      exact ⟨rest, hrest, .field (quoted_readText hq) hc hv hm⟩
    · obtain ⟨v, hv⟩ := h.of_cons.1
      cases hv

end SoundAt

/-- What is read and has a value is complete in the text. -/
theorem soundAt (fuel : Nat) : SoundAt fuel := by
  induction fuel with
  | zero => exact .zero
  | succ fuel ih =>
    exact ⟨fun _ _ _ => ih.value_succ, fun _ _ _ => ih.items_succ, fun _ _ _ => ih.fields_succ,
      fun _ _ => ih.field_succ⟩

/-- A text whose first value is read begins with a complete value. -/
theorem spans_readPart {v : Value} (h : (readPart cs).1.toValue = .ok v) :
    Accepted .value cs (readPart cs).2 :=
  (soundAt _).value depthLimit cs v h

end Dialogue.Json

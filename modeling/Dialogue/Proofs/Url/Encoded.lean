import Dialogue.Url.Percent
import Dialogue.Proofs.Text.Margins

/-!
# Encoded segments

A value is written into an address as a segment: letters, digits and four marks stand for themselves,
all other bytes for their numbers. No mark that divides an address, and none that begins or ends a
placeholder, is among the characters of a segment, and the value can be read back.

* `mem_segment`: the characters of a segment.
* `decode_segment`: a segment stands for the bytes of its text.
* `segment_eq_replaceAll`: a segment is a field of a form with `%20` for every plus sign.
-/

namespace Dialogue.Percent

open Text

/-! ### Bytes -/

theorem hexValue?_digit {n : Nat} (h : n < 16) : hexValue? (digit n) = some n := by
  have hall : ∀ n < 16, hexValue? (digit n) = some n := by decide
  exact hall n h

theorem isFormChar_digit {n : Nat} (h : n < 16) : isFormChar (digit n) = true := by
  have hall : ∀ n < 16, isFormChar (digit n) = true := by decide
  exact hall n h

theorem digits_lt (b : UInt8) : b.toNat / 16 < 16 ∧ b.toNat % 16 < 16 := by
  have := b.toNat_lt
  omega

/-- A byte is written with a percent sign and characters that stand for themselves. -/
theorem mem_byte {b : UInt8} {d : Char} (h : d ∈ byte b) : d = '%' ∨ isFormChar d = true := by
  obtain ⟨hhigh, hlow⟩ := digits_lt b
  simp only [byte, List.mem_cons, List.not_mem_nil, or_false] at h
  rcases h with rfl | rfl | rfl
  · exact .inl rfl
  · exact .inr (isFormChar_digit hhigh)
  · exact .inr (isFormChar_digit hlow)

theorem decode_byte (b : UInt8) (rest : List Char) : decode (byte b ++ rest) = b :: decode rest := by
  obtain ⟨hhigh, hlow⟩ := digits_lt b
  have hb : b.toNat / 16 * 16 + b.toNat % 16 = b.toNat := by omega
  simp only [byte, List.cons_append, List.nil_append, decode]
  rw [hexValue?_digit hhigh, hexValue?_digit hlow]
  dsimp only
  rw [hb, UInt8.ofNat_toNat]

theorem decode_bytes (bytes : List UInt8) (rest : List Char) :
    decode (bytes.flatMap byte ++ rest) = bytes ++ decode rest := by
  induction bytes with
  | nil => rfl
  | cons b bytes ih => rw [List.flatMap_cons, List.append_assoc, decode_byte, ih, List.cons_append]

theorem decode_cons_of_ne {c : Char} (h : c ≠ '%') (rest : List Char) :
    decode (c :: rest) = utf8 [c] ++ decode rest := by
  rw [decode.eq_def]
  split
  · rename_i he
    cases he
  · rename_i he
    exact absurd (List.cons.inj he).1 h
  · rename_i he
    obtain ⟨rfl, rfl⟩ := List.cons.inj he
    rfl

/-! ### Texts -/

theorem mem_encodeChar {c d : Char} (h : d ∈ encodeChar isFormChar c) :
    d = '%' ∨ isFormChar d = true := by
  unfold encodeChar at h
  split at h
  · rename_i hc
    rw [List.mem_singleton.1 h]
    exact .inr hc
  · obtain ⟨b, -, hb⟩ := List.mem_flatMap.1 h
    exact mem_byte hb

/-- A segment is written with percent signs and characters that stand for themselves. -/
theorem mem_segment {text : List Char} {d : Char} (h : d ∈ segment text) :
    d = '%' ∨ isFormChar d = true := by
  obtain ⟨c, -, hc⟩ := List.mem_flatMap.1 h
  exact mem_encodeChar hc

theorem decode_encodeChar (c : Char) (rest : List Char) :
    decode (encodeChar isFormChar c ++ rest) = utf8 [c] ++ decode rest := by
  unfold encodeChar
  split
  · rename_i hc
    refine decode_cons_of_ne ?_ rest
    rintro rfl
    exact absurd hc (by decide)
  · exact decode_bytes _ rest

/-- A segment stands for the bytes of its text. -/
theorem decode_segment (text : List Char) : decode (segment text) = utf8 text := by
  induction text with
  | nil => rfl
  | cons c text ih =>
    rw [segment, encode, List.flatMap_cons, decode_encodeChar, ← encode, ← segment, ih]
    simp [utf8]

/-! ### Plus signs -/

theorem replaceAll_singleton (m : Char) (new text : List Char) :
    replaceAll [m] new text = text.flatMap fun c => if c = m then new else [c] := by
  induction text with
  | nil => rfl
  | cons c text ih =>
    rw [replaceAll] at ih
    rw [replaceAll, replaceFrom, List.flatMap_cons, begins, after?, List.length_singleton,
      Nat.sub_self, ih]
    by_cases h : m = c
    · simp [h]
    · simp [h, Ne.symm h]

theorem replaceAll_append (m : Char) (new text rest : List Char) :
    replaceAll [m] new (text ++ rest) = replaceAll [m] new text ++ replaceAll [m] new rest := by
  simp only [replaceAll_singleton, List.flatMap_append]

/-- A segment is a field of a form with `%20` for every plus sign, which stands for a blank there. -/
theorem segment_eq_replaceAll (text : List Char) :
    segment text = replaceAll ['+'] ['%', '2', '0'] (formField text) := by
  induction text with
  | nil => rfl
  | cons c text ih =>
    have hseg : segment (c :: text) = encodeChar isFormChar c ++ segment text := List.flatMap_cons
    have hfield : formField (c :: text) =
        (if c = ' ' then ['+'] else encodeChar isFormChar c) ++ formField text := List.flatMap_cons
    rw [hseg, hfield, replaceAll_append, ih]
    split
    · rename_i hc
      rw [hc]
      rfl
    · have hplus : '+' ∉ encodeChar isFormChar c := fun hm => absurd (mem_encodeChar hm) (by decide)
      rw [replaceAll_of_not_mem hplus]

end Dialogue.Percent

import Mathlib.Data.Nat.Bitwise
import Dialogue.Text.Words

/-!
# What lower case leaves

The runs of a case table are many, and that none of them leads to a character of another one cannot be
read off them. Here code points are the bits of a number, so that two collections of them are told
apart by a single operation on numbers.

* `disjoint_of_and_eq_zero`: collections without a common bit have no code point in common.
* `CodesApart`: the collections of code points that have none in common.
* `lowerChar_cases`: what becomes of a character in lower case.
* `lowerChar_of_mem`: what lower case has made of a character it leaves as it is.
* `lowerChar_of_isPlain`, `isPlain_of_mem_lowerChar`: white space and marks are left as they are, and
  nothing else becomes one.
-/

namespace Dialogue.Text

/-! ### Code points as bits -/

/-- The number with these bits. -/
def bits (codes : List Nat) : Nat := codes.foldr (fun n set => 2 ^ n ||| set) 0

/-- The number with the bits of several lists. -/
def blockBits (blocks : List (List Nat)) : Nat :=
  blocks.foldr (fun codes set => bits codes ||| set) 0

theorem testBit_bits {codes : List Nat} {n : Nat} : (bits codes).testBit n = true ↔ n ∈ codes := by
  induction codes with
  | nil => simp [bits]
  | cons m codes ih =>
    rw [bits, List.foldr_cons, ← bits, Nat.testBit_or, Nat.testBit_two_pow, Bool.or_eq_true, ih,
      decide_eq_true_eq, List.mem_cons, eq_comm]

theorem testBit_blockBits {blocks : List (List Nat)} {n : Nat} :
    (blockBits blocks).testBit n = true ↔ n ∈ blocks.flatten := by
  induction blocks with
  | nil => simp [blockBits]
  | cons codes blocks ih =>
    rw [blockBits, List.foldr_cons, ← blockBits, Nat.testBit_or, Bool.or_eq_true, testBit_bits, ih,
      List.flatten_cons, List.mem_append]

/-- Collections without a common bit have no code point in common. -/
theorem disjoint_of_and_eq_zero {blocks others : List (List Nat)}
    (h : blockBits blocks &&& blockBits others = 0) {n : Nat} (hn : n ∈ blocks.flatten) :
    n ∉ others.flatten := by
  intro ho
  have hbit : (blockBits blocks &&& blockBits others).testBit n = true := by
    rw [Nat.testBit_and, testBit_blockBits.2 hn, testBit_blockBits.2 ho]
    rfl
  rw [h, Nat.zero_testBit] at hbit
  cases hbit

/-! ### The code points of a case table -/

/-- The code points that a run maps. -/
def runCodes : Nat × Nat × Nat × Int → List Nat
  | (first, last, step, _) => (List.range ((last - first) / step + 1)).map (first + step * ·)

/-- The code points that a run leads to. -/
def runImages (run : Nat × Nat × Nat × Int) : List Nat :=
  (runCodes run).map fun n : Nat => ((n : Int) + run.2.2.2).toNat

theorem mem_runCodes {first last step n : Nat} {offset : Int} (hf : first ≤ n) (hl : n ≤ last)
    (hs : (n - first) % step = 0) : n ∈ runCodes (first, last, step, offset) := by
  refine List.mem_map.2 ⟨(n - first) / step, List.mem_range.2 ?_, ?_⟩
  · have hle : (n - first) / step ≤ (last - first) / step := Nat.div_le_div_right (by omega)
    omega
  · have hdiv := Nat.div_add_mod (n - first) step
    rw [hs] at hdiv
    omega

/-- What the search for a run finds is a run of the table around the code point. -/
theorem findRun_sound {table : Array (Nat × Nat × Nat × Int)} {n fuel low high first last step : Nat}
    {offset : Int} (h : findRun table n fuel low high = some (first, last, step, offset)) :
    (first, last, step, offset) ∈ table.toList ∧ first ≤ n ∧ n ≤ last := by
  induction fuel generalizing low high with
  | zero => cases h
  | succ fuel ih =>
    rw [findRun] at h
    dsimp only at h
    split at h
    · cases h
    · split at h
      · cases h
      · rename_i hm
        split at h
        · exact ih h
        · split at h
          · exact ih h
          · cases h
            exact ⟨(Array.mem_of_getElem? hm).val, by omega, by omega⟩

/-- What a table maps a character to is the character itself or the image of a run. -/
theorem mapRun_cases (table : Array (Nat × Nat × Nat × Int)) (c : Char) :
    mapRun table c = c ∨ ∃ run ∈ table.toList, c.toNat ∈ runCodes run ∧
      mapRun table c = Char.ofNat ((c.toNat : Int) + run.2.2.2).toNat := by
  unfold mapRun
  split
  · rename_i first last step offset hr
    split
    · rename_i hs
      obtain ⟨hm, hf, hl⟩ := findRun_sound hr
      exact .inr ⟨_, hm, mem_runCodes hf hl hs, rfl⟩
    · exact .inl rfl
  · exact .inl rfl

/-- The code points that lower case changes. -/
def mapped : List (List Nat) := [304] :: CaseTable.lowerRuns.toList.map runCodes

/-- The code points that lower case leads to; zero stands for what is no character. -/
def images : List (List Nat) := [0, 105, 775] :: CaseTable.lowerRuns.toList.map runImages

/-- The code points of white space and of the marks. -/
def plainCodes : List (List Nat) :=
  [List.range' 9 5, List.range' 32 16, List.range' 58 7, List.range' 91 6, List.range' 123 4,
    [133, 160, 161, 191, 5760], List.range' 8192 11, [8232, 8233, 8239, 8287, 12288]]

/-- What lower case changes, what it leads to, and white space with the marks have no code point in
common. -/
structure CodesApart : Prop where
  images_mapped : blockBits images &&& blockBits mapped = 0
  plain_mapped : blockBits plainCodes &&& blockBits mapped = 0
  plain_images : blockBits plainCodes &&& blockBits images = 0

theorem codesApart : CodesApart where
  images_mapped := by decide +kernel
  plain_mapped := by decide +kernel
  plain_images := by decide +kernel

theorem mem_mapped {run : Nat × Nat × Nat × Int} (hr : run ∈ CaseTable.lowerRuns.toList) {n : Nat}
    (hn : n ∈ runCodes run) : n ∈ mapped.flatten :=
  List.mem_flatten.2 ⟨_, List.mem_cons_of_mem _ (List.mem_map.2 ⟨run, hr, rfl⟩), hn⟩

/-- The character with a code point, or the one with the code point zero. -/
theorem toNat_ofNat (n : Nat) : (Char.ofNat n).toNat = n ∨ (Char.ofNat n).toNat = 0 := by
  by_cases h : n.isValidChar
  · exact .inl (by rw [Char.ofNat, dif_pos h]; rfl)
  · exact .inr (by rw [Char.ofNat, dif_neg h]; rfl)

theorem mem_images {run : Nat × Nat × Nat × Int} (hr : run ∈ CaseTable.lowerRuns.toList) {n : Nat}
    (hn : n ∈ runCodes run) :
    (Char.ofNat ((n : Int) + run.2.2.2).toNat).toNat ∈ images.flatten := by
  rcases toNat_ofNat ((n : Int) + run.2.2.2).toNat with h | h
  · rw [h]
    refine List.mem_flatten.2 ⟨_, List.mem_cons_of_mem _ (List.mem_map.2 ⟨run, hr, rfl⟩), ?_⟩
    exact List.mem_map.2 ⟨n, hn, rfl⟩
  · rw [h]
    exact List.mem_flatten.2 ⟨_, List.mem_cons_self, List.mem_cons_self⟩

/-! ### Single characters -/

/-- The run of the capital letters of the ASCII range. -/
def asciiRun : Nat × Nat × Nat × Int := (65, 90, 1, 32)

theorem asciiRun_mem : asciiRun ∈ CaseTable.lowerRuns.toList := by decide

/-- In the ASCII range the capital letters are mapped, and nothing else. -/
theorem toLower_ascii {c : Char} (h : c.toNat < 128) :
    c.toNat ∉ runCodes asciiRun ∧ c.toLower = c ∨
      c.toNat ∈ runCodes asciiRun ∧ c.toLower = Char.ofNat ((c.toNat : Int) + 32).toNat := by
  have hall : ∀ n < 128, n ∉ runCodes asciiRun ∧ (Char.ofNat n).toLower = Char.ofNat n ∨
      n ∈ runCodes asciiRun ∧ (Char.ofNat n).toLower = Char.ofNat ((n : Int) + 32).toNat := by
    decide
  simpa only [Char.ofNat_toNat] using hall c.toNat h

theorem special?_lower (c : Char) :
    special? CaseTable.lowerSpecial c =
      if c.toNat = 304 then some [Char.ofNat 105, Char.ofNat 775] else none := by
  by_cases h : c.toNat = 304
  · simp [special?, CaseTable.lowerSpecial, h]
  · simp [special?, CaseTable.lowerSpecial, h, Ne.symm h]

/-- In lower case a character is left as it is, or it is the dotted capital one and gets a dot of its
own, or it becomes what a run leads to. -/
theorem lowerChar_cases (c : Char) :
    lowerChar c = [c] ∨ c.toNat = 304 ∧ lowerChar c = ['i', Char.ofNat 775] ∨
      ∃ run ∈ CaseTable.lowerRuns.toList, c.toNat ∈ runCodes run ∧
        lowerChar c = [Char.ofNat ((c.toNat : Int) + run.2.2.2).toNat] := by
  unfold lowerChar
  split
  · rename_i hc
    rcases toLower_ascii hc with ⟨-, hl⟩ | ⟨hm, hl⟩
    · exact .inl (by rw [hl])
    · exact .inr (.inr ⟨_, asciiRun_mem, hm, by rw [hl]; rfl⟩)
  · rw [special?_lower]
    split
    · rename_i h304
      exact .inr (.inl ⟨h304, rfl⟩)
    · rw [Option.getD_none]
      rcases mapRun_cases CaseTable.lowerRuns c with hl | ⟨run, hr, hn, hl⟩
      · exact .inl (by rw [hl])
      · exact .inr (.inr ⟨run, hr, hn, by rw [hl]⟩)

/-- A character that no run maps is left as it is. -/
theorem lowerChar_of_not_mapped {c : Char} (h : c.toNat ∉ mapped.flatten) : lowerChar c = [c] := by
  rcases lowerChar_cases c with hc | ⟨hn, -⟩ | ⟨run, hr, hn, -⟩
  · exact hc
  · exact absurd (List.mem_flatten.2 ⟨_, List.mem_cons_self, by simp [hn]⟩) h
  · exact absurd (mem_mapped hr hn) h

/-- A character is left as it is, or becomes characters of the images. -/
theorem lowerChar_eq_or_mem_images (c : Char) :
    lowerChar c = [c] ∨ ∀ d ∈ lowerChar c, d.toNat ∈ images.flatten := by
  rcases lowerChar_cases c with hc | ⟨-, hc⟩ | ⟨run, hr, hn, hc⟩
  · exact .inl hc
  · refine .inr fun d hd => List.mem_flatten.2 ⟨_, List.mem_cons_self, ?_⟩
    rw [hc] at hd
    rcases List.mem_cons.1 hd with rfl | hd
    · simp
    · rw [List.mem_singleton.1 hd]
      simp
  · refine .inr fun d hd => ?_
    rw [hc] at hd
    rw [List.mem_singleton.1 hd]
    exact mem_images hr hn

theorem lowerChar_ne_nil (c : Char) : lowerChar c ≠ [] := by
  rcases lowerChar_cases c with hc | ⟨-, hc⟩ | ⟨run, -, -, hc⟩ <;> rw [hc] <;>
    exact List.cons_ne_nil _ _

/-- What lower case has made of a character it leaves as it is. -/
theorem lowerChar_of_mem {c d : Char} (h : d ∈ lowerChar c) : lowerChar d = [d] := by
  rcases lowerChar_eq_or_mem_images c with hc | hc
  · rw [hc] at h
    rw [List.mem_singleton.1 h, hc]
  · exact lowerChar_of_not_mapped (disjoint_of_and_eq_zero codesApart.images_mapped (hc d h))

/-! ### White space and marks -/

/-- Whether a character is white space or a mark that normal forms are freed of. -/
def isPlain (c : Char) : Bool := isBlank c || isOpeningMark c || isAsciiMark c

theorem mem_plainCodes {c : Char} (h : isPlain c = true) : c.toNat ∈ plainCodes.flatten := by
  by_cases hc : c.toNat < 128
  · have hall : ∀ n < 128, isPlain (Char.ofNat n) = true → n ∈ plainCodes.flatten := by
      decide
    exact hall c.toNat hc (by rwa [Char.ofNat_toNat])
  · have hmark : isAsciiMark c = false := by
      have hle : ¬c ≤ '~' := fun hle => hc (Nat.lt_of_le_of_lt hle (by decide))
      simp [isAsciiMark, hle]
    rw [isPlain, hmark, Bool.or_false, Bool.or_eq_true] at h
    rcases h with h | h
    · simp only [isBlank, Bool.or_eq_true, Bool.and_eq_true, decide_eq_true_eq, beq_iff_eq] at h
      simp only [plainCodes, List.flatten_cons, List.flatten_nil, List.mem_append, List.mem_range'_1,
        List.mem_cons, List.not_mem_nil, or_false]
      omega
    · simp only [isOpeningMark, Bool.or_eq_true, beq_iff_eq] at h
      rcases h with rfl | rfl <;> decide

/-- White space and marks are left as they are. -/
theorem lowerChar_of_isPlain {c : Char} (h : isPlain c = true) : lowerChar c = [c] :=
  lowerChar_of_not_mapped (disjoint_of_and_eq_zero codesApart.plain_mapped (mem_plainCodes h))

/-- Nothing else becomes white space or a mark. -/
theorem isPlain_of_mem_lowerChar {c d : Char} (h : isPlain c = false) (hd : d ∈ lowerChar c) :
    isPlain d = false := by
  rcases lowerChar_eq_or_mem_images c with hc | hc
  · rw [hc] at hd
    rwa [List.mem_singleton.1 hd]
  · rw [← Bool.not_eq_true]
    intro hp
    exact disjoint_of_and_eq_zero codesApart.plain_images (mem_plainCodes hp) (hc d hd)

end Dialogue.Text

import Mathlib.Data.List.Chain
import Dialogue.Proofs.Text.Lowered

/-!
# Letters and numbers

A class of characters is a table of boundaries that is searched by halving. Here the search is shown to
count the boundaries up to a code point, so that a class is the bits of a number as well, and what
holds of all its code points is read off a single operation on numbers.

* `countUpTo_eq`, `inClass_eq`: the search counts, and an odd count makes a member.
* `testBit_classBits`: a class as the bits of a number.
* `exists_isAlphanumeric_fold`: a letter or number is still there in lower case without its accent.
* `AlphabeticTable`: what is checked of the table of letters.
* `inClass_eq_false`: a class that has no bits in common with other code points has none of them.
* `isAlphanumeric_of_isPlain`: white space and marks are neither letters nor numbers.
* `isCaseIgnorable_of_isBlank`: white space hides cased letters from each other.
-/

namespace Dialogue.Text

/-! ### Searching a table -/

/-- Of ascending entries the ones up to `n` are the first ones. -/
theorem getElem_le_iff {entries : List Nat} (h : entries.Pairwise (· < ·)) {n i : Nat}
    (hi : i < entries.length) : entries[i] ≤ n ↔ i < entries.countP (· ≤ n) := by
  induction entries generalizing i with
  | nil => exact absurd hi (Nat.not_lt_zero i)
  | cons entry entries ih =>
    obtain ⟨hle, hs⟩ := List.pairwise_cons.1 h
    by_cases he : entry ≤ n
    · rw [List.countP_cons_of_pos (by simpa using he)]
      cases i with
      | zero => exact iff_of_true he (Nat.succ_pos _)
      | succ i =>
        rw [List.getElem_cons_succ, ih hs (by simpa using hi)]
        omega
    · -- the first entry is above `n`, and so are all others
      have hnone : entries.countP (· ≤ n) = 0 := by
        rw [List.countP_eq_zero]
        intro other ho
        have := hle other ho
        simp only [decide_eq_true_eq]
        omega
      rw [List.countP_cons_of_neg (by simpa using he), hnone]
      refine iff_of_false (fun hn => he ?_) (Nat.not_lt_zero i)
      cases i with
      | zero => exact hn
      | succ i => exact Nat.le_trans (Nat.le_of_lt (hle _ (List.getElem_mem _))) hn

section Search

variable {table : Array Nat} {n fuel low high : Nat}

/-- The search counts the entries up to `n`, when their number lies in the part searched. -/
theorem countUpTo_eq (h : table.toList.Pairwise (· < ·)) (hlow : low ≤ table.toList.countP (· ≤ n))
    (hhigh : table.toList.countP (· ≤ n) ≤ high) (hsize : high ≤ table.size)
    (hfuel : high - low < 2 ^ fuel) :
    countUpTo table n fuel low high = table.toList.countP (· ≤ n) := by
  induction fuel generalizing low high with
  | zero =>
    rw [countUpTo]
    omega
  | succ fuel ih =>
    rw [countUpTo]
    split
    · omega
    · rename_i hlt
      have hm : (low + high) / 2 < table.toList.length := by
        rw [Array.length_toList]
        omega
      have hentry : table.getD ((low + high) / 2) 0 = table.toList[(low + high) / 2] := by
        rw [Array.getD_eq_getD_getElem?, ← Array.getElem?_toList, List.getElem?_eq_getElem hm]
        rfl
      have hcount := getElem_le_iff h hm (n := n)
      dsimp only
      rw [hentry]
      split
      · rename_i hle
        have := hcount.1 hle
        exact ih (by omega) hhigh hsize (by omega)
      · rename_i hgt
        have := mt hcount.2 hgt
        exact ih hlow (by omega) (by omega) (by omega)

/-- A table can be searched when its boundaries ascend and there are not too many of them. -/
structure Searchable (table : Array Nat) : Prop where
  sorted : table.toList.Pairwise (· < ·)
  size_lt : table.size < 2 ^ 32

/-- A code point belongs to a class when an odd number of boundaries are at most it. -/
theorem inClass_eq (h : Searchable table) (n : Nat) :
    inClass table n = (table.toList.countP (· ≤ n) % 2 == 1) := by
  rw [inClass, countUpTo_eq h.sorted (Nat.zero_le _) ?_ le_rfl h.size_lt]
  rw [← Array.length_toList]
  exact List.countP_le_length

end Search

/-! ### A class as bits -/

/-- The number whose bits below `limit` are the code points of a class. -/
def classBits (limit : Nat) (table : List Nat) : Nat :=
  table.foldr (fun boundary set => (2 ^ limit - 2 ^ boundary) ^^^ set) 0

theorem testBit_pow_sub_pow (limit boundary n : Nat) :
    (2 ^ limit - 2 ^ boundary).testBit n = (decide (n < limit) && decide (boundary ≤ n)) := by
  rcases Nat.le_total boundary limit with hle | hge
  · have hpos := Nat.two_pow_pos boundary
    have hpow : 2 ^ boundary ≤ 2 ^ limit := Nat.pow_le_pow_right (by omega) hle
    have hsub := Nat.testBit_two_pow_sub_succ (x := 2 ^ boundary - 1) (n := limit) (by omega) n
    rw [Nat.sub_add_cancel hpos, Nat.testBit_two_pow_sub_one] at hsub
    rw [hsub]
    grind
  · have hpow : 2 ^ limit ≤ 2 ^ boundary := Nat.pow_le_pow_right (by omega) hge
    rw [Nat.sub_eq_zero_of_le hpow, Nat.zero_testBit]
    grind

theorem testBit_classBits (limit : Nat) (table : List Nat) (n : Nat) :
    (classBits limit table).testBit n =
      (decide (n < limit) && table.countP (· ≤ n) % 2 == 1) := by
  induction table with
  | nil => simp [classBits]
  | cons boundary table ih =>
    rw [classBits, List.foldr_cons, ← classBits, Nat.testBit_xor, ih, testBit_pow_sub_pow,
      List.countP_cons]
    grind

/-- A class has no code points in common with blocks when their bits have none. -/
theorem inClass_eq_false {table : Array Nat} (h : Searchable table) {limit : Nat}
    {blocks : List (List Nat)} (hb : blockBits blocks &&& classBits limit table.toList = 0) {n : Nat}
    (hl : n < limit) (hn : n ∈ blocks.flatten) : inClass table n = false := by
  have hbit : (blockBits blocks &&& classBits limit table.toList).testBit n = false := by
    rw [hb, Nat.zero_testBit]
  rw [Nat.testBit_and, testBit_blockBits.2 hn, testBit_classBits, decide_eq_true hl] at hbit
  rw [inClass_eq h]
  exact hbit

/-! ### Letters in lower case -/

/-- The code points that the runs of lower case lead to, run by run. -/
def runLetters : List (List Nat) := CaseTable.lowerRuns.toList.map runImages

/-- What is used of the table of letters: it can be searched; what the runs of lower case lead to are
characters and letters; below 128 there are only the letters of ASCII; and the two forms of small
sigma are letters. -/
structure AlphabeticTable : Prop extends Searchable ClassTable.alphabetic where
  valid : ∀ n ∈ runLetters.flatten, n.isValidChar
  letters : blockBits runLetters &&& classBits (2 ^ 17) ClassTable.alphabetic.toList =
    blockBits runLetters
  ascii : ∀ n < 128, inClass ClassTable.alphabetic n = true → isAsciiLetter (Char.ofNat n) = true
  sigmas : isAlphabetic 'σ' = true ∧ isAlphabetic 'ς' = true

theorem alphabeticTable : AlphabeticTable where
  sorted := List.isChain_iff_pairwise.1 (by decide +kernel)
  size_lt := by decide +kernel
  valid := by decide +kernel
  letters := by decide +kernel
  ascii := by decide +kernel
  sigmas := by decide +kernel

/-- Both small forms of the letter that has two are letters. -/
theorem isAlphanumeric_sigmas : isAlphanumeric 'σ' = true ∧ isAlphanumeric 'ς' = true := by
  rw [isAlphanumeric, isAlphanumeric, alphabeticTable.sigmas.1, alphabeticTable.sigmas.2]
  exact ⟨rfl, rfl⟩

/-- What a run leads to is a letter. -/
theorem isAlphabetic_of_mem_runLetters {n : Nat} (h : n ∈ runLetters.flatten) :
    isAlphabetic (Char.ofNat n) = true := by
  have hclass : inClass ClassTable.alphabetic n = true := by
    have hbit := testBit_blockBits.2 h
    rw [← alphabeticTable.letters, Nat.testBit_and, testBit_classBits, Bool.and_eq_true,
      Bool.and_eq_true] at hbit
    rw [inClass_eq alphabeticTable.toSearchable]
    exact hbit.2.2
  have hn : (Char.ofNat n).toNat = n := by
    rw [Char.ofNat, dif_pos (alphabeticTable.valid n h)]
    rfl
  rw [isAlphabetic, hn]
  split
  · rename_i hlt
    exact alphabeticTable.ascii n hlt hclass
  · exact hclass

/-- A character is left as it is, or becomes a letter, and the dotted capital one a letter with a dot
of its own. -/
theorem lowerChar_eq (c : Char) :
    lowerChar c = [c] ∨ lowerChar c = ['i', Char.ofNat 775] ∨
      ∃ n ∈ runLetters.flatten, lowerChar c = [Char.ofNat n] := by
  rcases lowerChar_cases c with hc | ⟨-, hc⟩ | ⟨run, hr, hn, hc⟩
  · exact .inl hc
  · exact .inr (.inl hc)
  · exact .inr (.inr ⟨_, List.mem_flatten.2 ⟨_, List.mem_map.2 ⟨run, hr, rfl⟩,
      List.mem_map.2 ⟨_, hn, rfl⟩⟩, hc⟩)

theorem isAlphanumeric_foldAccent {c : Char} (h : isAlphanumeric c = true) :
    isAlphanumeric (foldAccent c) = true := by
  unfold foldAccent
  split <;> first | decide | exact h

/-- A letter or number is still there in lower case, without its accent. -/
theorem exists_isAlphanumeric_fold {c : Char} (h : isAlphanumeric c = true) :
    ∃ d ∈ (lowerChar c).map foldAccent, isAlphanumeric d = true := by
  obtain ⟨d, hd, ha⟩ : ∃ d ∈ lowerChar c, isAlphanumeric d = true := by
    rcases lowerChar_eq c with hc | hc | ⟨n, hn, hc⟩
    · exact ⟨c, by rw [hc]; exact List.mem_cons_self, h⟩
    · exact ⟨'i', by rw [hc]; exact List.mem_cons_self, by decide⟩
    · refine ⟨Char.ofNat n, by rw [hc]; exact List.mem_cons_self, ?_⟩
      rw [isAlphanumeric, isAlphabetic_of_mem_runLetters hn]
      rfl
  exact ⟨foldAccent d, List.mem_map_of_mem hd, isAlphanumeric_foldAccent ha⟩

/-! ### White space and marks -/

/-- The code points of white space. -/
def blankCodes : List (List Nat) := plainCodes.map (·.filter fun n => isBlank (Char.ofNat n))

/-- What is used of the tables for white space and marks: the other ones can be searched as well;
white space and marks are below 2 ^ 14, and neither letters nor numbers nor cased; and white space is
not passed over. -/
structure PlainTables : Prop where
  numeric : Searchable ClassTable.numeric
  cased : Searchable ClassTable.cased
  ignorable : Searchable ClassTable.caseIgnorable
  ascii : ∀ n ∈ plainCodes.flatten, n < 2 ^ 14 ∧ isAsciiLetter (Char.ofNat n) = false ∧
    isDigit (Char.ofNat n) = false
  plain_alphabetic : blockBits plainCodes &&& classBits (2 ^ 14) ClassTable.alphabetic.toList = 0
  plain_numeric : blockBits plainCodes &&& classBits (2 ^ 14) ClassTable.numeric.toList = 0
  plain_cased : blockBits plainCodes &&& classBits (2 ^ 14) ClassTable.cased.toList = 0
  blank_ignorable : blockBits blankCodes &&& classBits (2 ^ 14) ClassTable.caseIgnorable.toList = 0

theorem plainTables : PlainTables where
  numeric := ⟨List.isChain_iff_pairwise.1 (by decide +kernel), by decide +kernel⟩
  cased := ⟨List.isChain_iff_pairwise.1 (by decide +kernel), by decide +kernel⟩
  ignorable := ⟨List.isChain_iff_pairwise.1 (by decide +kernel), by decide +kernel⟩
  ascii := by decide +kernel
  plain_alphabetic := by decide +kernel
  plain_numeric := by decide +kernel
  plain_cased := by decide +kernel
  blank_ignorable := by decide +kernel

/-- White space and marks are neither letters nor numbers. -/
theorem isAlphanumeric_of_isPlain {c : Char} (h : isPlain c = true) : isAlphanumeric c = false := by
  have hn := mem_plainCodes h
  obtain ⟨hlt, hletter, hdigit⟩ := plainTables.ascii c.toNat hn
  rw [Char.ofNat_toNat] at hletter hdigit
  have ha := inClass_eq_false alphabeticTable.toSearchable plainTables.plain_alphabetic hlt hn
  have hnum := inClass_eq_false plainTables.numeric plainTables.plain_numeric hlt hn
  rw [isAlphanumeric, isAlphabetic, isNumeric, hletter, hdigit, ha, hnum]
  split <;> rfl

/-- White space and marks have no case. -/
theorem isCased_of_isPlain {c : Char} (h : isPlain c = true) : isCased c = false := by
  have hn := mem_plainCodes h
  exact inClass_eq_false plainTables.cased plainTables.plain_cased
    (plainTables.ascii c.toNat hn).1 hn

/-- White space is not passed over in the search for a cased letter. -/
theorem isCaseIgnorable_of_isBlank {c : Char} (h : isBlank c = true) :
    isCaseIgnorable c = false := by
  have hn : c.toNat ∈ plainCodes.flatten := mem_plainCodes (by rw [isPlain, h]; rfl)
  have hblank : c.toNat ∈ blankCodes.flatten := by
    obtain ⟨codes, hcodes, hc⟩ := List.mem_flatten.1 hn
    exact List.mem_flatten.2 ⟨_, List.mem_map_of_mem hcodes,
      List.mem_filter.2 ⟨hc, by rwa [Char.ofNat_toNat]⟩⟩
  exact inClass_eq_false plainTables.ignorable plainTables.blank_ignorable
    (plainTables.ascii c.toNat hn).1 hblank

end Dialogue.Text

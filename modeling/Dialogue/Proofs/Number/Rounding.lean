import Mathlib.Algebra.Order.Field.Power
import Mathlib.Data.Int.Log
import Mathlib.Data.Rat.Floor
import Mathlib.Tactic.FieldSimp
import Mathlib.Tactic.Positivity
import Mathlib.Tactic.Ring
import Dialogue.Number.Binary

/-!
# Rounding to a format

The exponent that rounding chooses is the logarithm of the quotient, less the bits of the mantissa and
not below the least exponent. From this follow what rounding produces and that it changes nothing in
what it has produced.

* `Precision.holds_of_round`: a rounded number is one of the format.
* `Precision.round_of_holds`: a number of the format is rounded to itself.
* `Binary64.toSingle_toSingle`: rounding to single precision twice is rounding once.
-/

namespace Dialogue

namespace Precision

variable {p : Precision} {num den m : Nat} {e : Int}

/-! ### The exponent -/

theorem shiftLeft_cast (n k : Nat) : ((n <<< k : Nat) : ℚ) = n * 2 ^ (k : Int) := by
  rw [Nat.shiftLeft_eq]
  push_cast
  rw [zpow_natCast]

theorem scaled_pos (hd : 0 < den) (num : Nat) (e : Int) : 0 < (scaled num den e).2 := by
  unfold scaled
  split
  · exact Nat.lt_of_lt_of_le hd (Nat.shiftLeft_eq .. ▸ Nat.le_mul_of_pos_right den (by positivity))
  · exact hd

/-- Scaling divides by a power of two. -/
theorem scaled_eq (num den : Nat) (e : Int) :
    ((scaled num den e).1 : ℚ) / (scaled num den e).2 = num / den / 2 ^ e := by
  unfold scaled
  split
  · rename_i he
    rw [shiftLeft_cast, Int.toNat_of_nonneg he, div_div]
  · rename_i he
    rw [shiftLeft_cast, Int.toNat_of_nonneg (by omega), zpow_neg, ← div_eq_mul_inv, div_right_comm]

/-- A quotient lies between the powers of two that its numerator and denominator suggest. -/
theorem log_quotient (hn : 0 < num) (hd : 0 < den) :
    Int.log 2 ((num : ℚ) / den) = num.log2 - den.log2 ∨
      Int.log 2 ((num : ℚ) / den) = num.log2 - den.log2 - 1 := by
  have hnum : (2 : ℚ) ^ (num.log2 : Int) ≤ num ∧ (num : ℚ) < 2 ^ ((num.log2 : Int) + 1) :=
    ⟨mod_cast Nat.log2_self_le hn.ne', mod_cast Nat.lt_log2_self⟩
  have hden : (2 : ℚ) ^ (den.log2 : Int) ≤ den ∧ (den : ℚ) < 2 ^ ((den.log2 : Int) + 1) :=
    ⟨mod_cast Nat.log2_self_le hd.ne', mod_cast Nat.lt_log2_self⟩
  have hdpos : (0 : ℚ) < den := mod_cast hd
  have hq : (0 : ℚ) < num / den := div_pos (mod_cast hn) hdpos
  have hlow : (2 : ℚ) ^ ((num.log2 : Int) - den.log2 - 1) ≤ num / den := by
    rw [le_div_iff₀ hdpos]
    calc (2 : ℚ) ^ ((num.log2 : Int) - den.log2 - 1) * den
        ≤ 2 ^ ((num.log2 : Int) - den.log2 - 1) * 2 ^ ((den.log2 : Int) + 1) := by
          gcongr
          exact hden.2.le
      _ = 2 ^ (num.log2 : Int) := by
          rw [← zpow_add₀ two_ne_zero]
          congr 1
          ring
      _ ≤ num := hnum.1
  have hhigh : (num : ℚ) / den < 2 ^ ((num.log2 : Int) - den.log2 + 1) := by
    rw [div_lt_iff₀ hdpos]
    calc (num : ℚ) < 2 ^ ((num.log2 : Int) + 1) := hnum.2
      _ = 2 ^ ((num.log2 : Int) - den.log2 + 1) * 2 ^ (den.log2 : Int) := by
          rw [← zpow_add₀ two_ne_zero]
          congr 1
          ring
      _ ≤ 2 ^ ((num.log2 : Int) - den.log2 + 1) * den := by
          gcongr
          exact hden.1
  have hge := (Int.zpow_le_iff_le_log (b := 2) (by decide) hq).1 hlow
  have hlt := (Int.lt_zpow_iff_log_lt (b := 2) (by decide) hq).1 hhigh
  omega

/-- The exponent that rounding chooses. -/
theorem exponentFor_eq (p : Precision) (hn : 0 < num) (hd : 0 < den) :
    p.exponentFor num den = max (Int.log 2 ((num : ℚ) / den) + 1 - p.bits) p.leastExponent := by
  have hq : (0 : ℚ) < num / den := div_pos (mod_cast hn) (mod_cast hd)
  have hlog := log_quotient hn hd
  -- the comparison decides between the two candidates for the logarithm
  have htest : (scaled num den (num.log2 - den.log2 - p.bits)).1 <
      (scaled num den (num.log2 - den.log2 - p.bits)).2 <<< p.bits ↔
        Int.log 2 ((num : ℚ) / den) < num.log2 - den.log2 := by
    have hpos := scaled_pos hd num (num.log2 - den.log2 - p.bits)
    have hscaled := scaled_eq num den (num.log2 - den.log2 - p.bits)
    rw [← Int.lt_zpow_iff_log_lt (b := 2) (by decide) hq, ← Nat.cast_lt (α := ℚ), shiftLeft_cast,
      mul_comm, ← div_lt_iff₀ (mod_cast hpos), hscaled, div_lt_iff₀ (by positivity),
      ← zpow_add₀ two_ne_zero]
    norm_num
  unfold exponentFor
  dsimp only
  split
  · rename_i h
    rw [htest] at h
    congr 1
    omega
  · rename_i h
    rw [htest] at h
    congr 1
    omega

/-! ### The mantissa -/

theorem roundDiv_mul (hd : 0 < den) (m : Nat) : roundDiv (m * den) den = m := by
  unfold roundDiv
  dsimp only
  rw [Nat.mul_mod_left, Nat.mul_div_cancel m hd, if_pos (by omega)]

theorem roundDiv_le {bound : Nat} (h : num < bound * den) : roundDiv num den ≤ bound := by
  have hq : num / den < bound := Nat.div_lt_of_lt_mul (by rwa [Nat.mul_comm] at h)
  unfold roundDiv
  dsimp only
  split
  · omega
  · split
    · omega
    · split <;> omega

theorem le_roundDiv (hd : 0 < den) {bound : Nat} (h : bound * den ≤ num) :
    bound ≤ roundDiv num den := by
  have hq : bound ≤ num / den := (Nat.le_div_iff_mul_le hd).2 h
  unfold roundDiv
  dsimp only
  split
  · omega
  · split
    · omega
    · split <;> omega

/-- The mantissa for the exponent that rounding chooses has at most one bit too many. -/
theorem mantissa_le (p : Precision) (hn : 0 < num) (hd : 0 < den) :
    roundDiv (scaled num den (p.exponentFor num den)).1
      (scaled num den (p.exponentFor num den)).2 ≤ 2 ^ p.bits := by
  have hq : (0 : ℚ) < num / den := div_pos (mod_cast hn) (mod_cast hd)
  have hexp := exponentFor_eq p hn hd
  have hpos := scaled_pos hd num (p.exponentFor num den)
  have hlt : (num : ℚ) / den < 2 ^ ((p.bits : Int) + p.exponentFor num den) :=
    (Int.lt_zpow_iff_log_lt (b := 2) (by decide) hq).2 (by omega)
  refine roundDiv_le ?_
  rw [zpow_add₀ two_ne_zero, ← div_lt_iff₀ (by positivity), ← scaled_eq,
    div_lt_iff₀ (mod_cast hpos), zpow_natCast] at hlt
  exact_mod_cast hlt

/-- The mantissa for the exponent that rounding chooses is full, but for the least exponent. -/
theorem le_mantissa (p : Precision) (hb : 0 < p.bits) (hn : 0 < num) (hd : 0 < den)
    (hne : p.exponentFor num den ≠ p.leastExponent) :
    2 ^ (p.bits - 1) ≤ roundDiv (scaled num den (p.exponentFor num den)).1
      (scaled num den (p.exponentFor num den)).2 := by
  have hq : (0 : ℚ) < num / den := div_pos (mod_cast hn) (mod_cast hd)
  have hexp := exponentFor_eq p hn hd
  have hpos := scaled_pos hd num (p.exponentFor num den)
  have hle : (2 : ℚ) ^ (((p.bits - 1 : Nat) : Int) + p.exponentFor num den) ≤ num / den :=
    (Int.zpow_le_iff_le_log (b := 2) (by decide) hq).2 (by omega)
  refine le_roundDiv hpos ?_
  rw [zpow_add₀ two_ne_zero, ← le_div_iff₀ (by positivity), ← scaled_eq,
    le_div_iff₀ (mod_cast hpos), zpow_natCast] at hle
  exact_mod_cast hle

/-! ### Numbers of a format -/

/-- A mantissa and a power of two as a format has them: the mantissa is full unless the power is the
least one. -/
structure Holds (p : Precision) (m : Nat) (e : Int) : Prop where
  lt : m < 2 ^ p.bits
  least : p.leastExponent ≤ e
  most : e ≤ p.greatestExponent
  full : 2 ^ (p.bits - 1) ≤ m ∨ e = p.leastExponent

/-- A rounded number is one of the format. -/
theorem holds_of_round (hb : 0 < p.bits) (hp : p.leastExponent ≤ p.greatestExponent) (hd : 0 < den)
    {s t : Bool} (h : p.round s num den = .finite t m e) : t = s ∧ p.Holds m e := by
  rcases Nat.eq_zero_or_pos num with rfl | hn
  · rw [round_zero] at h
    cases h
    exact ⟨rfl, ⟨by positivity, Int.le_refl _, hp, .inr rfl⟩⟩
  · have hleast : p.leastExponent ≤ p.exponentFor num den := by
      rw [exponentFor_eq p hn hd]
      exact le_max_right _ _
    have hupper := mantissa_le p hn hd
    have hlower := or_iff_not_imp_left.2 (le_mantissa p hb hn hd)
    unfold round at h
    rw [if_neg hn.ne'] at h
    dsimp only at h
    generalize roundDiv (scaled num den (p.exponentFor num den)).1
      (scaled num den (p.exponentFor num den)).2 = r at h hupper hlower
    generalize p.exponentFor num den = k at h hleast hlower
    have hhalf : 2 ^ p.bits = 2 * 2 ^ (p.bits - 1) := by
      rw [← Nat.pow_succ', Nat.succ_eq_add_one, Nat.sub_add_cancel hb]
    have hhalfpos : 0 < 2 ^ (p.bits - 1) := by positivity
    rw [Nat.shiftLeft_eq, Nat.one_mul] at h
    by_cases hcarry : r = 2 ^ p.bits
    · -- the bit too many is taken up by the next exponent
      rw [if_pos hcarry] at h
      dsimp only at h
      split at h
      · cases h
      · cases h
        have hm : r >>> 1 = 2 ^ (p.bits - 1) := by
          rw [Nat.shiftRight_succ, Nat.shiftRight_zero, hcarry, hhalf]
          omega
        rw [hm]
        exact ⟨rfl, ⟨by omega, by omega, by omega, .inl (Nat.le_refl _)⟩⟩
    · rw [if_neg hcarry] at h
      dsimp only at h
      split at h
      · cases h
      · cases h
        exact ⟨rfl, ⟨by omega, hleast, by omega, hlower.symm⟩⟩

/-- A number of the format is rounded to itself. -/
theorem round_of_holds (hb : 0 < p.bits) (h : p.Holds m e) (hd : 0 < den)
    (hq : (num : ℚ) / den = m * 2 ^ e) (s : Bool) : p.round s num den = .finite s m e := by
  rcases Nat.eq_zero_or_pos num with rfl | hn
  · have hm : m = 0 := by
      rw [Nat.cast_zero, zero_div, eq_comm, mul_eq_zero, Nat.cast_eq_zero] at hq
      exact hq.resolve_right (zpow_ne_zero e two_ne_zero)
    subst hm
    rw [round_zero, h.full.resolve_left (by simp)]
  · have hqpos : (0 : ℚ) < num / den := div_pos (mod_cast hn) (mod_cast hd)
    have hhigh : Int.log 2 ((num : ℚ) / den) < p.bits + e := by
      refine (Int.lt_zpow_iff_log_lt (b := 2) (by decide) hqpos).1 ?_
      rw [hq, Nat.cast_ofNat, zpow_add₀ two_ne_zero, zpow_natCast]
      gcongr
      exact_mod_cast h.lt
    have hexp : p.exponentFor num den = e := by
      rw [exponentFor_eq p hn hd]
      rcases h.full with hfull | hleast
      · have hlow : ((p.bits - 1 : Nat) : Int) + e ≤ Int.log 2 ((num : ℚ) / den) := by
          refine (Int.zpow_le_iff_le_log (b := 2) (by decide) hqpos).1 ?_
          rw [hq, Nat.cast_ofNat, zpow_add₀ two_ne_zero, zpow_natCast]
          gcongr
          exact_mod_cast hfull
        have hle := h.least
        omega
      · omega
    have hpos := scaled_pos hd num e
    have hscaled := scaled_eq num den e
    have hmul : (scaled num den e).1 = m * (scaled num den e).2 := by
      rw [hq, mul_div_assoc, div_self (zpow_ne_zero e two_ne_zero), mul_one,
        div_eq_iff (mod_cast hpos.ne')] at hscaled
      exact_mod_cast hscaled
    have hlt := h.lt
    have hmost := h.most
    unfold round
    rw [if_neg hn.ne', hexp]
    dsimp only
    rw [hmul, roundDiv_mul hpos, Nat.shiftLeft_eq, Nat.one_mul, if_neg hlt.ne]
    exact if_neg (by omega)

end Precision

namespace Binary64

open Precision (Holds holds_of_round round_of_holds shiftLeft_cast)

variable {m : Nat} {e : Int}

theorem quotient_pos (m : Nat) (e : Int) : 0 < (quotient m e).2 := by
  unfold quotient
  split
  · exact Nat.one_pos
  · rw [Nat.shiftLeft_eq, Nat.one_mul]
    positivity

/-- The quotient of a number is its magnitude. -/
theorem quotient_eq (m : Nat) (e : Int) :
    ((quotient m e).1 : ℚ) / (quotient m e).2 = m * 2 ^ e := by
  unfold quotient
  split
  · rename_i he
    rw [shiftLeft_cast, Int.toNat_of_nonneg he, Nat.cast_one, div_one]
  · rename_i he
    rw [shiftLeft_cast, Int.toNat_of_nonneg (by omega), Nat.cast_one, one_mul, zpow_neg, div_inv_eq_mul]

/-- A number of single precision is one of double precision. -/
theorem exists_double (h : Precision.single.Holds m e) :
    ∃ n f, Precision.double.Holds n f ∧ (n : ℚ) * 2 ^ f = m * 2 ^ e := by
  have hlt : m < 2 ^ 24 := h.lt
  have hleast : -149 ≤ e := h.least
  have hmost : e ≤ 104 := h.most
  rcases Nat.eq_zero_or_pos m with rfl | hm
  · exact ⟨0, -1074, ⟨by decide, by decide, by decide, .inr rfl⟩, by simp⟩
  · have hlog : m.log2 < 24 := (Nat.log2_lt hm.ne').2 hlt
    obtain ⟨k, hk⟩ : ∃ k, m.log2 + k = 52 := ⟨52 - m.log2, by omega⟩
    have hfull : 2 ^ 52 ≤ m * 2 ^ k := by
      rw [← hk, Nat.pow_add]
      exact Nat.mul_le_mul_right _ (Nat.log2_self_le hm.ne')
    have hbound : m * 2 ^ k < 2 ^ 53 := by
      have hpow : 2 ^ 53 = 2 ^ (m.log2 + 1) * 2 ^ k := by
        rw [← Nat.pow_add]
        congr 1
        omega
      rw [hpow]
      exact Nat.mul_lt_mul_of_pos_right Nat.lt_log2_self (by positivity)
    refine ⟨m * 2 ^ k, e - k, ⟨hbound, ?_, ?_, .inl hfull⟩, ?_⟩
    · show -1074 ≤ e - k
      omega
    · show e - k ≤ 971
      omega
    · push_cast
      rw [zpow_sub₀ two_ne_zero, zpow_natCast]
      field_simp

/-- What is rounded to single precision is a number of single precision. -/
theorem toSingle_singleOfQuotient (s : Bool) (num : Nat) {den : Nat} (hd : 0 < den) :
    (singleOfQuotient s num den).toSingle = singleOfQuotient s num den := by
  unfold singleOfQuotient
  cases hr : Precision.single.round s num den with
  | nan => rfl
  | infinite t => rfl
  | finite t m e =>
    obtain ⟨rfl, hh⟩ := holds_of_round (by decide) (by decide) hd hr
    obtain ⟨n, f, hdouble, heq⟩ := exists_double hh
    have hwide : ofQuotient t (quotient m e).1 (quotient m e).2 = .finite t n f :=
      round_of_holds (by decide) hdouble (quotient_pos m e) (by rw [quotient_eq, heq]) t
    have hback : Precision.single.round t (quotient n f).1 (quotient n f).2 = .finite t m e :=
      round_of_holds (by decide) hh (quotient_pos n f) (by rw [quotient_eq, heq]) t
    dsimp only
    rw [hwide]
    unfold toSingle singleOfQuotient
    dsimp only
    rw [hback]
    exact hwide

/-- Rounding to single precision twice is rounding once. -/
@[simp] theorem toSingle_toSingle (x : Binary64) : x.toSingle.toSingle = x.toSingle := by
  cases x with
  | nan => rfl
  | infinite s => rfl
  | finite s m e => exact toSingle_singleOfQuotient s _ (quotient_pos m e)

end Binary64

end Dialogue

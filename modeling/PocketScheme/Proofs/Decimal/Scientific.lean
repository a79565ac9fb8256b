import PocketScheme.Decimal.Scientific
import Mathlib

/-!
The leading digits of a finite double.

* `Decimal.ten_zpow_le_two_zpow`: what the estimate of a decimal exponent is good for;
* `Decimal.decimalExponent_spec`: the exponent belongs to the leading digit;
* `Decimal.ofRatio_digits`, `Decimal.ofBits_digits`: there are as many digits as asked for, and the
  first of them is not zero.
-/

namespace PocketScheme.Decimal

/-! ### Powers of two and of ten -/

/-- The decimal logarithm of two is close enough to `0.30103` for the binary lengths of doubles. -/
lemma ten_zpow_le_two_zpow {a b : ℤ} (h : 100000 * b + 69897 ≤ 30103 * a) (hlo : -15000 ≤ a)
    (hhi : a ≤ 15000) : (10 : ℚ) ^ b ≤ 2 ^ a := by
  -- the fraction `59 / 196` is just below the logarithm, and `28 / 93` just above it
  rcases le_total 0 a with ha | ha
  · refine le_of_pow_le_pow_left₀ (n := 196) (by norm_num) (by positivity) ?_
    calc ((10 : ℚ) ^ b) ^ 196
        = 10 ^ (b * 196) := by rw [zpow_mul]; norm_cast
      _ ≤ 10 ^ (59 * a) := zpow_le_zpow_right₀ (by norm_num) (by omega)
      _ = (10 ^ 59) ^ a := by rw [zpow_mul]; norm_cast
      _ ≤ (2 ^ 196) ^ a := zpow_le_zpow_left₀ ha (by norm_num) (by norm_num)
      _ = (2 ^ a) ^ 196 := by rw [← zpow_natCast, ← zpow_natCast, ← zpow_mul, ← zpow_mul, mul_comm]
  · refine le_of_pow_le_pow_left₀ (n := 93) (by norm_num) (by positivity) ?_
    calc ((10 : ℚ) ^ b) ^ 93
        = 10 ^ (b * 93) := by rw [zpow_mul]; norm_cast
      _ ≤ 10 ^ (28 * a) := zpow_le_zpow_right₀ (by norm_num) (by omega)
      _ = (10 ^ 28) ^ a := by rw [zpow_mul]; norm_cast
      _ ≤ (2 ^ 93) ^ a := by
          rw [← inv_le_inv₀ (by positivity) (by positivity), ← zpow_neg, ← zpow_neg]
          exact zpow_le_zpow_left₀ (by omega) (by norm_num) (by norm_num)
      _ = (2 ^ a) ^ 93 := by rw [← zpow_natCast, ← zpow_natCast, ← zpow_mul, ← zpow_mul, mul_comm]

/-- The difference of the binary lengths of numerator and denominator. -/
def binaryExponent (num den : Nat) : ℤ :=
  (num.log2 : ℤ) - den.log2

lemma two_zpow_lt_ratio {num den : Nat} (hnum : num ≠ 0) (hden : den ≠ 0) :
    (2 : ℚ) ^ (binaryExponent num den - 1) < num / den := by
  have hnum' : (2 : ℚ) ^ num.log2 ≤ num := by exact_mod_cast Nat.log2_self_le hnum
  have hden' : (den : ℚ) < 2 ^ (den.log2 + 1) := by exact_mod_cast Nat.lt_log2_self
  calc (2 : ℚ) ^ (binaryExponent num den - 1)
      = 2 ^ num.log2 / 2 ^ (den.log2 + 1) := by
        rw [← zpow_natCast, ← zpow_natCast, ← zpow_sub₀ (by norm_num), binaryExponent]
        congr 1
        push_cast
        ring
    _ < 2 ^ num.log2 / den := div_lt_div_of_pos_left (by positivity) (by positivity) hden'
    _ ≤ num / den := div_le_div_of_nonneg_right hnum' (by positivity)

lemma ratio_lt_two_zpow (num : Nat) {den : Nat} (hden : den ≠ 0) :
    (num : ℚ) / den < 2 ^ (binaryExponent num den + 1) := by
  have hnum' : (num : ℚ) < 2 ^ (num.log2 + 1) := by exact_mod_cast Nat.lt_log2_self
  have hden' : (2 : ℚ) ^ den.log2 ≤ den := by exact_mod_cast Nat.log2_self_le hden
  calc (num : ℚ) / den
      ≤ num / 2 ^ den.log2 := div_le_div_of_nonneg_left (by positivity) (by positivity) hden'
    _ < 2 ^ (num.log2 + 1) / 2 ^ den.log2 := div_lt_div_of_pos_right hnum' (by positivity)
    _ = 2 ^ (binaryExponent num den + 1) := by
        rw [← zpow_natCast, ← zpow_natCast, ← zpow_sub₀ (by norm_num), binaryExponent]
        congr 1
        push_cast
        ring

/-! ### The exponent of the leading digit -/

section Ratio

variable {base num den : Nat}

lemma scale_pos (hbase : 0 < base) (num : Nat) (hden : 0 < den) (e : ℤ) :
    0 < (scale base num den e).2 := by
  rw [scale]
  split
  · exact Nat.mul_pos hden (Nat.pow_pos hbase)
  · exact hden

lemma scale_ratio (hbase : 0 < base) (num den : Nat) (e : ℤ) :
    ((scale base num den e).1 : ℚ) / (scale base num den e).2 = num / den / base ^ e := by
  have hbase' : (base : ℚ) ≠ 0 := by positivity
  rw [scale]
  split
  · rename_i he
    rw [Nat.pow_eq, Nat.cast_mul, Nat.cast_pow, ← zpow_natCast, Int.toNat_of_nonneg he, div_div]
  · rename_i he
    rw [Nat.pow_eq, Nat.cast_mul, Nat.cast_pow, ← zpow_natCast, Int.toNat_of_nonneg (by omega),
      zpow_neg]
    field_simp

/-- Numerator and denominator compare as the ratio does with the power. -/
lemma scale_lt_iff (hbase : 0 < base) (num : Nat) (hden : 0 < den) (e : ℤ) :
    (scale base num den e).1 < (scale base num den e).2 ↔ (num : ℚ) / den < base ^ e := by
  have hpos : (0 : ℚ) < (scale base num den e).2 := by exact_mod_cast scale_pos hbase num hden e
  rw [← @Nat.cast_lt ℚ, ← div_lt_one hpos, scale_ratio hbase num den, div_lt_one (by positivity)]

/-- The exponent belongs to the leading digit, unless the ratio is far beyond all doubles. -/
lemma decimalExponent_spec (hnum : 0 < num) (hden : 0 < den) (hlo : -14000 ≤ binaryExponent num den)
    (hhi : binaryExponent num den ≤ 14000) :
    (10 : ℚ) ^ decimalExponent num den ≤ num / den ∧
      (num : ℚ) / den < 10 ^ (decimalExponent num den + 1) := by
  have hbelow := two_zpow_lt_ratio hnum.ne' hden.ne'
  have habove := ratio_lt_two_zpow num hden.ne'
  have hlt := scale_lt_iff (show 0 < 10 by omega) num hden
  rw [decimalExponent]
  simp only [decide_eq_true_eq, hlt, Nat.cast_ofNat]
  rw [← binaryExponent]
  generalize binaryExponent num den = a at hlo hhi hbelow habove
  generalize hguess : a * 30103 / 100000 = guess
  split
  · rename_i h
    refine ⟨(ten_zpow_le_two_zpow ?_ ?_ ?_).trans hbelow.le, by simpa using h⟩ <;> omega
  · rename_i h
    split
    · rename_i h'
      exact ⟨not_lt.mp h, h'⟩
    · rename_i h'
      -- the other bound is that of the inverses
      have hinv : (10 : ℚ) ^ (-(guess + 2)) ≤ 2 ^ (-(a + 1)) := by
        refine ten_zpow_le_two_zpow ?_ ?_ ?_ <;> omega
      rw [zpow_neg, zpow_neg, inv_le_inv₀ (by positivity) (by positivity)] at hinv
      exact ⟨not_lt.mp h', habove.trans_le (by simpa [add_assoc] using hinv)⟩

/-! ### Digits -/

lemma le_roundDiv (num den : Nat) : num / den ≤ roundDiv num den := by
  rw [roundDiv]
  split <;> omega

lemma roundDiv_le (num den : Nat) : roundDiv num den ≤ num / den + 1 := by
  rw [roundDiv]
  split <;> omega

/-- The ratio shifted so that its whole part has as many digits as asked for. -/
lemma scale_digits {x : ℤ} (hden : 0 < den) (hle : (10 : ℚ) ^ x ≤ num / den)
    (hlt : (num : ℚ) / den < 10 ^ (x + 1)) (count : Nat) :
    10 ^ count ≤ (scale 10 num den (x - count)).1 / (scale 10 num den (x - count)).2 ∧
      (scale 10 num den (x - count)).1 / (scale 10 num den (x - count)).2 < 10 ^ (count + 1) := by
  have hpos := scale_pos (show 0 < 10 by omega) num hden (x - count)
  have hpos' : (0 : ℚ) < (scale 10 num den (x - count)).2 := by exact_mod_cast hpos
  have hratio := scale_ratio (show 0 < 10 by omega) num den (x - count)
  rw [Nat.cast_ofNat] at hratio
  have hshift : ∀ k : Nat, (10 : ℚ) ^ k * 10 ^ (x - count) = 10 ^ (x + (k - count)) := fun k => by
    rw [← zpow_natCast, ← zpow_add₀ (by norm_num)]
    congr 1
    ring
  rw [Nat.le_div_iff_mul_le hpos, Nat.div_lt_iff_lt_mul hpos]
  constructor
  · have h : (10 : ℚ) ^ count ≤ num / den / 10 ^ (x - count) := by
      rw [le_div_iff₀ (by positivity), hshift]
      simpa using hle
    rw [← hratio, le_div_iff₀ hpos'] at h
    exact_mod_cast h
  · have h : (num : ℚ) / den / 10 ^ (x - count) < 10 ^ (count + 1) := by
      rw [div_lt_iff₀ (by positivity), hshift]
      simpa using hlt
    rw [← hratio, div_lt_iff₀ hpos'] at h
    exact_mod_cast h

/-- There are as many digits as asked for, and the first one is not zero. -/
lemma ofRatio_digits (hnum : 0 < num) (hden : 0 < den) (hlo : -14000 ≤ binaryExponent num den)
    (hhi : binaryExponent num den ≤ 14000) (count : Nat) :
    10 ^ count ≤ (Scientific.ofRatio count num den).digits ∧
      (Scientific.ofRatio count num den).digits < 10 ^ (count + 1) := by
  obtain ⟨hle, hlt⟩ := decimalExponent_spec hnum hden hlo hhi
  rw [Scientific.ofRatio, if_neg (by simpa using hnum.ne')]
  obtain ⟨hfew, hmany⟩ := scale_digits hden hle hlt count
  have hdown := le_roundDiv (scale 10 num den (decimalExponent num den - count)).1
    (scale 10 num den (decimalExponent num den - count)).2
  have hup := roundDiv_le (scale 10 num den (decimalExponent num den - count)).1
    (scale 10 num den (decimalExponent num den - count)).2
  dsimp only
  split
  · exact ⟨le_rfl, Nat.pow_lt_pow_right (by omega) (by omega)⟩
  · rename_i hcarry
    rw [Nat.pow_eq, beq_iff_eq] at hcarry
    dsimp only
    omega

end Ratio

/-- A finite double other than zero is a natural of at most 53 bits times a power of two. -/
lemma significand_bounds {bits : Nat} (hpos : 0 < bits) (hfinite : bits < infinityBits) :
    0 < (significand bits).1 ∧ (significand bits).1 < 2 ^ 53 ∧
      -1074 ≤ (significand bits).2 ∧ (significand bits).2 ≤ 971 := by
  rw [infinityBits, Nat.pow_eq] at hfinite
  rw [significand, Nat.pow_eq, leastExponent]
  split
  · rename_i h
    rw [beq_iff_eq] at h
    refine ⟨?_, ?_, ?_, ?_⟩ <;> dsimp only <;> omega
  · rename_i h
    rw [beq_iff_eq] at h
    refine ⟨?_, ?_, ?_, ?_⟩ <;> dsimp only <;> omega

/-- Such a number is within the range in which the leading digit is found. -/
lemma binaryExponent_scale {m : Nat} {e : ℤ} (hm : 0 < m) (hsize : m < 2 ^ 53) (hleast : -1074 ≤ e)
    (hmost : e ≤ 971) :
    0 < (scale 2 m 1 (-e)).1 ∧ -14000 ≤ binaryExponent (scale 2 m 1 (-e)).1 (scale 2 m 1 (-e)).2 ∧
      binaryExponent (scale 2 m 1 (-e)).1 (scale 2 m 1 (-e)).2 ≤ 14000 := by
  rw [scale]
  split <;> dsimp only
  · have hlog : m.log2 < 53 := (Nat.log2_lt hm.ne').mpr hsize
    rw [binaryExponent, Nat.pow_eq, Nat.one_mul, Nat.log2_two_pow]
    refine ⟨hm, ?_, ?_⟩ <;> omega
  · have hpower : m * 2 ^ e.toNat < 2 ^ (53 + e.toNat) := by
      rw [Nat.pow_add]
      exact Nat.mul_lt_mul_of_pos_right hsize (by positivity)
    have hpos : 0 < m * 2 ^ e.toNat := by positivity
    have hlog := (Nat.log2_lt hpos.ne').mpr hpower
    rw [binaryExponent, neg_neg, Nat.pow_eq, show Nat.log2 1 = 0 by decide]
    refine ⟨hpos, ?_, ?_⟩ <;> omega

lemma ofBits_digits {bits : Nat} (hpos : 0 < bits) (hfinite : bits < infinityBits) (count : Nat) :
    10 ^ count ≤ (Scientific.ofBits count bits).digits ∧
      (Scientific.ofBits count bits).digits < 10 ^ (count + 1) := by
  obtain ⟨hm, hsize, hleast, hmost⟩ := significand_bounds hpos hfinite
  rw [Scientific.ofBits]
  generalize significand bits = me at hm hsize hleast hmost
  obtain ⟨m, e⟩ := me
  dsimp only at hm hsize hleast hmost ⊢
  obtain ⟨hnum, hlo, hhi⟩ := binaryExponent_scale hm hsize hleast hmost
  exact ofRatio_digits hnum (scale_pos (by omega) _ (by omega) _) hlo hhi count

end PocketScheme.Decimal

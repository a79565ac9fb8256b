import PocketScheme.Proofs.Decimal.Scientific

/-!
Which double a decimal is read as.

* `Decimal.value`: the value of the bits of a magnitude;
* `Decimal.IsNearest`: a rational is rounded to a double, ties to even;
* `Decimal.value_strictMono`: bits compare as the values do;
* `Decimal.isNearest_nearestBits`, `Decimal.decimalBits_isNearest`: rationals and decimals are
  rounded to the nearest double.
-/

namespace PocketScheme.Decimal

/-- The value of the bits of a magnitude. Those of infinity stand for the power of two that follows
the finite doubles. -/
def value (bits : Nat) : ℚ :=
  (significand bits).1 * 2 ^ (significand bits).2

/-- The rational is rounded to the double: none is closer to it, and if another one is as close, it
is the even one of the two. -/
structure IsNearest (bits : Nat) (x : ℚ) : Prop where
  le_infinity : bits ≤ infinityBits
  closest : ∀ c ≤ infinityBits, |x - value bits| ≤ |x - value c|
  even : ∀ c ≤ infinityBits, c ≠ bits → |x - value c| = |x - value bits| → bits % 2 = 0

/-! ### Values -/

/-- Bits as a multiple of the last bit: its exponent counts from the least one, and the multiple
has 53 bits, unless the exponent is the least one. -/
structure Splits (bits k r : Nat) : Prop where
  eq : bits = k * 2 ^ 52 + r
  le : r ≤ 2 ^ 53
  full : k = 0 ∨ 2 ^ 52 ≤ r

lemma significand_of_lt {bits : Nat} (h : bits < 2 ^ 52) :
    significand bits = (bits, leastExponent) := by
  rw [significand, Nat.pow_eq, Nat.div_eq_of_lt h, Nat.mod_eq_of_lt h]
  rfl

lemma significand_of_le {bits : Nat} (h : 2 ^ 52 ≤ bits) :
    significand bits =
      (bits % 2 ^ 52 + 2 ^ 52, leastExponent + ((bits / 2 ^ 52 : Nat) - 1)) := by
  have hpos : 0 < bits / 2 ^ 52 := Nat.div_pos h (by positivity)
  rw [significand, Nat.pow_eq, if_neg (by simpa using hpos.ne')]

lemma Splits.value_eq {bits k r : Nat} (h : Splits bits k r) :
    value bits = r * 2 ^ (leastExponent + k) := by
  obtain ⟨rfl, hle, hfull⟩ := h
  rcases Nat.lt_or_ge r (2 ^ 52) with hr | hr
  · -- a double without all its bits, at the least exponent
    obtain rfl : k = 0 := hfull.resolve_right (by omega)
    rw [Nat.zero_mul, Nat.zero_add, value, significand_of_lt hr]
    simp
  · rw [value, significand_of_le (by omega)]
    rcases Nat.lt_or_ge r (2 ^ 53) with hr' | hr'
    · have hdiv : (k * 2 ^ 52 + r) / 2 ^ 52 = k + 1 := by omega
      have hmod : (k * 2 ^ 52 + r) % 2 ^ 52 + 2 ^ 52 = r := by omega
      rw [hdiv, hmod]
      simp
    · -- the multiple is the next power of two
      obtain rfl : r = 2 ^ 53 := by omega
      have hdiv : (k * 2 ^ 52 + 2 ^ 53) / 2 ^ 52 = k + 2 := by omega
      have hmod : (k * 2 ^ 52 + 2 ^ 53) % 2 ^ 52 + 2 ^ 52 = 2 ^ 52 := by omega
      have hnext : leastExponent + (((k + 2 : Nat) : ℤ) - 1) = leastExponent + k + 1 := by
        push_cast
        ring
      rw [hdiv, hmod, hnext, zpow_add_one₀ (by norm_num)]
      push_cast
      ring

/-- Every magnitude is such a multiple. -/
lemma exists_splits (bits : Nat) : ∃ k r, Splits bits k r ∧ r < 2 ^ 53 := by
  rcases Nat.lt_or_ge bits (2 ^ 52) with h | h
  · exact ⟨0, bits, ⟨by simp, by omega, .inl rfl⟩, by omega⟩
  · exact ⟨bits / 2 ^ 52 - 1, bits % 2 ^ 52 + 2 ^ 52, ⟨by omega, by omega, .inr (by omega)⟩,
      by omega⟩

/-- Bits compare as the values do. -/
lemma value_strictMono : StrictMono value := by
  refine strictMono_nat_of_lt_succ fun bits => ?_
  obtain ⟨k, r, h, hr⟩ := exists_splits bits
  have hnext : Splits (bits + 1) k (r + 1) :=
    ⟨by rw [h.eq, Nat.add_assoc], hr, h.full.imp_right fun hfull => by omega⟩
  rw [h.value_eq, hnext.value_eq]
  have hpos : (0 : ℚ) < 2 ^ (leastExponent + k) := by positivity
  push_cast
  linarith

/-! ### Rounding a quotient -/

/-- A quotient is rounded by a half at most, and by a half only to an even number. -/
lemma roundDiv_error (num : Nat) {den : Nat} (hden : 0 < den) :
    |(num : ℚ) / den - roundDiv num den| ≤ 1 / 2 ∧
      (|(num : ℚ) / den - roundDiv num den| = 1 / 2 → roundDiv num den % 2 = 0) := by
  have hpos : (0 : ℚ) < den := by exact_mod_cast hden
  have hsum : (num : ℚ) = den * (num / den : Nat) + (num % den : Nat) := by
    exact_mod_cast (Nat.div_add_mod num den).symm
  have hratio : (num : ℚ) / den = (num / den : Nat) + (num % den : Nat) / den := by
    rw [div_eq_iff hpos.ne', add_mul, div_mul_cancel₀ _ hpos.ne', mul_comm]
    exact hsum
  have hrest : (0 : ℚ) ≤ (num % den : Nat) / den ∧ ((num % den : Nat) : ℚ) / den < 1 :=
    ⟨by positivity, by rw [div_lt_one hpos]; exact_mod_cast Nat.mod_lt num hden⟩
  have hhalf : (((num % den : Nat) : ℚ) / den < 1 / 2 ↔ 2 * (num % den) < den) ∧
      (((num % den : Nat) : ℚ) / den = 1 / 2 ↔ 2 * (num % den) = den) := by
    rw [div_lt_iff₀ hpos, div_eq_iff hpos.ne', ← @Nat.cast_lt ℚ, ← @Nat.cast_inj ℚ]
    push_cast
    constructor <;> constructor <;> intro h <;> linarith
  rw [hratio, roundDiv]
  generalize ((num % den : Nat) : ℚ) / den = t at hrest hhalf
  split
  · -- up
    rename_i hup
    rw [Bool.or_eq_true, Bool.and_eq_true, decide_eq_true_eq, beq_iff_eq, beq_iff_eq] at hup
    have hle : 1 / 2 ≤ t := not_lt.mp fun hlt => by
      have := hhalf.1.mp hlt
      omega
    have herror : |(num / den : Nat) + t - ((num / den + 1 : Nat) : ℚ)| = 1 - t := by
      rw [abs_of_nonpos (by push_cast; linarith [hrest.2])]
      push_cast
      ring
    rw [herror]
    refine ⟨by linarith, fun htie => ?_⟩
    have := hhalf.2.mp (by linarith)
    omega
  · -- down
    rename_i hup
    rw [Bool.or_eq_true, Bool.and_eq_true, decide_eq_true_eq, beq_iff_eq, beq_iff_eq] at hup
    have hle : t ≤ 1 / 2 := by
      rcases lt_trichotomy t (1 / 2) with h | h | h
      · exact h.le
      · exact h.le
      · have hlt := mt hhalf.1.mpr h.not_gt
        have hne := mt hhalf.2.mpr h.ne'
        omega
    have herror : |(num / den : Nat) + t - ((num / den : Nat) : ℚ)| = t := by
      rw [abs_of_nonneg (by linarith [hrest.1])]
      ring
    rw [herror]
    refine ⟨hle, fun htie => ?_⟩
    have := hhalf.2.mp htie
    omega

/-- A rational is at least a half away from one of two naturals. -/
lemma half_le_of_ne {y : ℚ} {q r : Nat} (hne : q ≠ r) (hr : |y - r| ≤ 1 / 2) : 1 / 2 ≤ |y - q| := by
  have hdist : (1 : ℚ) ≤ |(q : ℚ) - r| := by
    have hint : (1 : ℤ) ≤ |(q : ℤ) - r| := Int.one_le_abs (by omega)
    exact_mod_cast hint
  have htriangle := abs_sub_le (q : ℚ) y r
  rw [abs_sub_comm (q : ℚ) y] at htriangle
  linarith

/-! ### The nearest double -/

variable {num den : Nat}

/-- The whole part of a scaled ratio is below a natural iff the ratio is. -/
lemma scale_div_lt_iff (num : Nat) (hden : 0 < den) (e : ℤ) (n : Nat) :
    (scale 2 num den e).1 / (scale 2 num den e).2 < n ↔ (num : ℚ) / den / 2 ^ e < n := by
  have hpos := scale_pos (show 0 < 2 by omega) num hden e
  have hpos' : (0 : ℚ) < (scale 2 num den e).2 := by exact_mod_cast hpos
  have hratio := scale_ratio (show 0 < 2 by omega) num den e
  rw [Nat.cast_ofNat] at hratio
  rw [Nat.div_lt_iff_lt_mul hpos, ← hratio, div_lt_iff₀ hpos', ← @Nat.cast_lt ℚ]
  push_cast
  rfl

/-- The exponent at which the whole part has 53 bits. -/
lemma exists_exponent_53 (hnum : 0 < num) (hden : 0 < den) :
    ∃ e : ℤ, lastBitExponent num den = max leastExponent e ∧
      2 ^ 52 ≤ (num : ℚ) / den / 2 ^ e ∧ (num : ℚ) / den / 2 ^ e < 2 ^ 53 := by
  have hbelow := two_zpow_lt_ratio hnum.ne' hden.ne'
  have habove := ratio_lt_two_zpow num hden.ne'
  have hlt := scale_div_lt_iff num hden (binaryExponent num den - 52) (2 ^ 52)
  have hscaled (e : ℤ) (k : Nat) : (2 : ℚ) ^ k * 2 ^ e = 2 ^ (e + k) := by
    rw [← zpow_natCast, ← zpow_add₀ (by norm_num), add_comm]
  rw [lastBitExponent, ← binaryExponent, Nat.pow_eq]
  generalize binaryExponent num den = b at hbelow habove hlt
  dsimp only
  split
  · -- the whole part has one bit less
    rename_i h
    have hupper := hlt.mp h
    refine ⟨b - 52 - 1, rfl, ?_, ?_⟩
    · rw [le_div_iff₀ (by positivity), hscaled]
      exact le_of_eq_of_le (by congr 1; push_cast; ring) hbelow.le
    · rw [div_lt_iff₀ (by positivity)] at hupper ⊢
      refine lt_of_lt_of_eq hupper ?_
      rw [Nat.cast_pow, Nat.cast_ofNat, hscaled, hscaled]
      congr 1
      push_cast
      ring
  · rename_i h
    have hlower := not_lt.mp (mt hlt.mpr h)
    push_cast at hlower
    refine ⟨b - 52, rfl, hlower, ?_⟩
    rw [div_lt_iff₀ (by positivity), hscaled]
    exact lt_of_lt_of_eq habove (by congr 1; push_cast; ring)

/-- A rational measured in the last bit of the doubles around it. -/
structure Measured (x : ℚ) (k : Nat) (y : ℚ) : Prop where
  eq : x = y * 2 ^ (leastExponent + k)
  lt : y < 2 ^ 53
  full : k = 0 ∨ 2 ^ 52 ≤ y

lemma exists_measured (hnum : 0 < num) (hden : 0 < den) :
    ∃ k : Nat, lastBitExponent num den = leastExponent + k ∧
      Measured (num / den) k (num / den / 2 ^ lastBitExponent num den) := by
  obtain ⟨e, he, hlower, hupper⟩ := exists_exponent_53 hnum hden
  obtain ⟨k, hk⟩ : ∃ k : Nat, lastBitExponent num den = leastExponent + k :=
    ⟨(lastBitExponent num den - leastExponent).toNat, by omega⟩
  refine ⟨k, hk, ?_, ?_, ?_⟩
  · rw [← hk, div_mul_cancel₀ _ (by positivity)]
  · refine lt_of_le_of_lt ?_ hupper
    have hle : (2 : ℚ) ^ e ≤ 2 ^ lastBitExponent num den :=
      zpow_le_zpow_right₀ (by norm_num) (by omega)
    exact div_le_div_of_nonneg_left (by positivity) (by positivity) hle
  · rcases le_total leastExponent e with hle | hle
    · rw [max_eq_right hle] at he
      rw [he]
      exact .inr hlower
    · rw [max_eq_left hle] at he
      exact .inl (by omega)

/-- No bits are closer to a rational than those of the nearest multiple of its last bit. -/
lemma Measured.closest {x y : ℚ} {k r bits : Nat} (h : Measured x k y) (hbits : Splits bits k r)
    (hr : |y - r| ≤ 1 / 2) (heven : |y - r| = 1 / 2 → r % 2 = 0) (c : Nat) :
    |x - value bits| ≤ |x - value c| ∧
      (c ≠ bits → |x - value c| = |x - value bits| → bits % 2 = 0) := by
  have hpos : (0 : ℚ) < 2 ^ (leastExponent + k) := by positivity
  have hmeasure (z : ℚ) :
      |x - z * 2 ^ (leastExponent + k)| = |y - z| * 2 ^ (leastExponent + k) := by
    rw [h.eq, ← sub_mul, abs_mul, abs_of_pos hpos]
  have hclose : |x - value bits| = |y - r| * 2 ^ (leastExponent + k) := by
    rw [hbits.value_eq, hmeasure]
  obtain ⟨k', r', hc, hr'⟩ := exists_splits c
  rcases Nat.lt_or_ge k' k with hk | hk
  · -- a multiple of a smaller bit: it lies below all multiples of the last bit that have 53 bits
    have hfull : 2 ^ 52 ≤ y := h.full.resolve_left (by omega)
    have hbelow : value c < 2 ^ 52 * 2 ^ (leastExponent + k) := by
      have hr'' : (r' : ℚ) < 2 ^ 53 := by exact_mod_cast hr'
      have hstep : (2 : ℚ) ^ (leastExponent + k' + 1) ≤ 2 ^ (leastExponent + k) :=
        zpow_le_zpow_right₀ (by norm_num) (by omega)
      rw [zpow_add_one₀ (by norm_num)] at hstep
      rw [hc.value_eq]
      calc (r' : ℚ) * 2 ^ (leastExponent + k')
          < 2 ^ 53 * 2 ^ (leastExponent + k') := mul_lt_mul_of_pos_right hr'' (by positivity)
        _ = 2 ^ 52 * (2 ^ (leastExponent + k') * 2) := by ring
        _ ≤ 2 ^ 52 * 2 ^ (leastExponent + k) := mul_le_mul_of_nonneg_left hstep (by positivity)
    have hbound : |x - 2 ^ 52 * 2 ^ (leastExponent + k)| < |x - value c| := by
      have hx : 2 ^ 52 * 2 ^ (leastExponent + k) ≤ x := by
        rw [h.eq]
        exact mul_le_mul_of_nonneg_right hfull hpos.le
      rw [abs_of_nonneg (by linarith), abs_of_nonneg (by linarith)]
      linarith
    have hround : |y - r| ≤ |y - 2 ^ 52| := by
      by_cases hq : 2 ^ 52 = r
      · rw [← hq]
        push_cast
        exact le_rfl
      · have hhalf := half_le_of_ne hq hr
        push_cast at hhalf
        exact hr.trans hhalf
    have hlt : |x - value bits| < |x - value c| := by
      refine lt_of_le_of_lt ?_ hbound
      rw [hclose, hmeasure]
      exact mul_le_mul_of_nonneg_right hround hpos.le
    exact ⟨hlt.le, fun _ htie => absurd htie hlt.ne'⟩
  · -- another multiple of the last bit
    obtain ⟨j, rfl⟩ := Nat.exists_eq_add_of_le hk
    have hvalue : value c = (r' * 2 ^ j : Nat) * 2 ^ (leastExponent + k) := by
      rw [hc.value_eq]
      push_cast
      rw [← add_assoc, zpow_add₀ (by norm_num), zpow_natCast]
      ring
    have hfar : |x - value c| = |y - (r' * 2 ^ j : Nat)| * 2 ^ (leastExponent + k) := by
      rw [hvalue, hmeasure]
    rw [hclose, hfar]
    by_cases hq : r' * 2 ^ j = r
    · rw [hq]
      refine ⟨le_rfl, fun hne => absurd ?_ hne⟩
      exact value_strictMono.injective (by rw [hvalue, hbits.value_eq, hq])
    · have hhalf := half_le_of_ne hq hr
      refine ⟨mul_le_mul_of_nonneg_right (hr.trans hhalf) hpos.le, fun _ htie => ?_⟩
      have htie := mul_right_cancel₀ hpos.ne' htie
      have := heven (le_antisymm hr (htie ▸ hhalf))
      rw [hbits.eq]
      omega

/-- What lies beyond all finite doubles is rounded to infinity. -/
lemma isNearest_infinityBits {x : ℚ} (hx : value infinityBits ≤ x) : IsNearest infinityBits x := by
  refine ⟨le_rfl, fun c hc => ?_, fun c hc hne htie => absurd htie ?_⟩
  · have hmono := value_strictMono.monotone hc
    rw [abs_of_nonneg (by linarith), abs_of_nonneg (by linarith)]
    linarith
  · have hlt := value_strictMono (lt_of_le_of_ne hc hne)
    rw [abs_of_nonneg (by linarith), abs_of_nonneg (by linarith)]
    linarith

lemma value_zero : value 0 = 0 := by
  rw [value, significand_of_lt (by norm_num), Nat.cast_zero, zero_mul]

lemma value_infinityBits : value infinityBits = 2 ^ 1024 := by
  have h : Splits infinityBits 2046 (2 ^ 52) :=
    ⟨by norm_num [infinityBits], by norm_num, .inr le_rfl⟩
  rw [h.value_eq, leastExponent, Nat.cast_pow, Nat.cast_ofNat, ← zpow_natCast, ← zpow_natCast,
    ← zpow_add₀ (by norm_num)]
  norm_num

lemma value_one : value 1 = 2 ^ leastExponent := by
  rw [value, significand_of_lt (by norm_num), Nat.cast_one, one_mul]

/-- What is less than half of the least double is rounded to zero. -/
lemma isNearest_zero {x : ℚ} (hx : 0 ≤ x) (hsmall : 2 * x < value 1) : IsNearest 0 x := by
  refine ⟨Nat.zero_le _, fun c _ => ?_, fun _ _ _ _ => rfl⟩
  rw [value_zero, sub_zero, abs_of_nonneg hx]
  rcases Nat.eq_zero_or_pos c with rfl | hc
  · rw [value_zero, sub_zero]
    exact le_abs_self x
  · have hmono := value_strictMono.monotone hc
    rw [abs_of_nonpos (by linarith)]
    linarith

/-- Bits beyond infinity are cut down to it. -/
lemma isNearest_min {x : ℚ} {bits : Nat}
    (h : ∀ c, |x - value bits| ≤ |x - value c| ∧
      (c ≠ bits → |x - value c| = |x - value bits| → bits % 2 = 0)) :
    IsNearest (min infinityBits bits) x := by
  rcases Nat.lt_or_ge infinityBits bits with hlt | hle
  · rw [Nat.min_eq_left hlt.le]
    refine isNearest_infinityBits (not_lt.mp fun hx => ?_)
    have hmono := value_strictMono hlt
    have hclose := (h infinityBits).1
    rw [abs_of_neg (by linarith), abs_of_neg (by linarith)] at hclose
    linarith
  · rw [Nat.min_eq_right hle]
    exact ⟨hle, fun c _ => (h c).1, fun c _ => (h c).2⟩

/-- A rational is rounded to the nearest double. -/
lemma isNearest_nearestBits (num : Nat) (hden : 0 < den) :
    IsNearest (nearestBits num den) (num / den) := by
  rcases Nat.eq_zero_or_pos num with rfl | hnum
  · rw [Nat.cast_zero, zero_div]
    exact isNearest_zero le_rfl (by rw [value_one, mul_zero]; positivity)
  obtain ⟨k, hk, hmeasured⟩ := exists_measured hnum hden
  have hratio := scale_ratio (show 0 < 2 by omega) num den (lastBitExponent num den)
  rw [Nat.cast_ofNat] at hratio
  have hpos := scale_pos (show 0 < 2 by omega) num hden (lastBitExponent num den)
  have hlt := scale_div_lt_iff num hden (lastBitExponent num den)
  have hexp : (lastBitExponent num den - leastExponent).toNat = k := by omega
  rw [nearestBits, if_neg (by simpa using hnum.ne')]
  dsimp only
  rw [hexp]
  obtain ⟨herror, heven⟩ := roundDiv_error (scale 2 num den (lastBitExponent num den)).1 hpos
  have hdown := le_roundDiv (scale 2 num den (lastBitExponent num den)).1
    (scale 2 num den (lastBitExponent num den)).2
  have hup := roundDiv_le (scale 2 num den (lastBitExponent num den)).1
    (scale 2 num den (lastBitExponent num den)).2
  rw [hratio] at herror heven
  refine isNearest_min (hmeasured.closest ⟨by rw [Nat.pow_eq], ?_, ?_⟩ herror heven)
  · have := (hlt (2 ^ 53)).mpr (by exact_mod_cast hmeasured.lt)
    omega
  · refine hmeasured.full.imp_right fun hfull => ?_
    have := mt (hlt (2 ^ 52)).mp (not_lt.mpr (by exact_mod_cast hfull))
    omega

/-! ### Decimals -/

lemma lt_pow_digitCount (n : Nat) : n < 10 ^ digitCount n :=
  (Nat.length_toDigits_le_iff (by omega) Nat.length_toDigits_pos).mp le_rfl

lemma pow_digitCount_le {n : Nat} (hn : 0 < n) : 10 ^ (digitCount n - 1) ≤ n := by
  rcases Nat.eq_zero_or_pos (digitCount n - 1) with h | h
  · rw [h]
    exact hn
  · refine not_lt.mp fun hlt => ?_
    have hle : digitCount n ≤ digitCount n - 1 :=
      (Nat.length_toDigits_le_iff (by omega) h).mpr hlt
    omega

/-- **A decimal is read as the nearest double**: none is closer to it, of two that are as close it
is the even one, and only from half a unit beyond the finite ones on it is infinity. -/
theorem decimalBits_isNearest (mantissa : Nat) (exponent : ℤ) :
    IsNearest (decimalBits mantissa exponent) (mantissa * 10 ^ exponent) := by
  rcases Nat.eq_zero_or_pos mantissa with rfl | hpos
  · rw [Nat.cast_zero, zero_mul]
    exact isNearest_zero le_rfl (by rw [value_one, mul_zero]; positivity)
  have hdigits : 0 < digitCount mantissa := Nat.length_toDigits_pos
  have hupper : (mantissa : ℚ) < 10 ^ digitCount mantissa := by
    exact_mod_cast lt_pow_digitCount mantissa
  have hlower : (10 : ℚ) ^ (digitCount mantissa - 1) ≤ mantissa := by
    exact_mod_cast pow_digitCount_le hpos
  rw [decimalBits, if_neg (by simpa using hpos.ne')]
  dsimp only
  split
  · -- beyond all doubles
    rename_i hsize
    refine isNearest_infinityBits ?_
    have hinverse := ten_zpow_le_two_zpow (a := -1024) (b := -400) (by norm_num) (by norm_num)
      (by norm_num)
    rw [zpow_neg, zpow_neg, inv_le_inv₀ (by positivity) (by positivity)] at hinverse
    rw [value_infinityBits]
    calc (2 : ℚ) ^ 1024
        ≤ 10 ^ (400 : ℤ) := hinverse
      _ ≤ 10 ^ (((digitCount mantissa - 1 : Nat) : ℤ) + exponent) :=
          zpow_le_zpow_right₀ (by norm_num) (by omega)
      _ = 10 ^ (digitCount mantissa - 1) * 10 ^ exponent := by
          rw [zpow_add₀ (by norm_num), zpow_natCast]
      _ ≤ mantissa * 10 ^ exponent := mul_le_mul_of_nonneg_right hlower (by positivity)
  · rename_i hbig
    split
    · -- closer to zero than to any other double
      rename_i hsize
      refine isNearest_zero (by positivity) ?_
      rw [value_one, leastExponent]
      calc 2 * ((mantissa : ℚ) * 10 ^ exponent)
          < 2 * (10 ^ digitCount mantissa * 10 ^ exponent) := by
            refine mul_lt_mul_of_pos_left ?_ (by norm_num)
            exact mul_lt_mul_of_pos_right hupper (by positivity)
        _ = 2 * 10 ^ ((digitCount mantissa : ℤ) + exponent) := by
            rw [zpow_add₀ (by norm_num), zpow_natCast]
        _ ≤ 2 * 10 ^ (-400 : ℤ) := by
            refine mul_le_mul_of_nonneg_left ?_ (by norm_num)
            exact zpow_le_zpow_right₀ (by norm_num) (by omega)
        _ ≤ 2 * 2 ^ (-1075 : ℤ) := by
            refine mul_le_mul_of_nonneg_left (ten_zpow_le_two_zpow ?_ ?_ ?_) (by norm_num) <;>
              norm_num
        _ = 2 ^ (-1074 : ℤ) := by rw [mul_comm, ← zpow_add_one₀ (by norm_num)]; rfl
    · have hratio := scale_ratio (show 0 < 10 by omega) mantissa 1 (-exponent)
      have hnear := isNearest_nearestBits (scale 10 mantissa 1 (-exponent)).1
        (scale_pos (show 0 < 10 by omega) mantissa (show 0 < 1 by omega) (-exponent))
      rw [hratio] at hnear
      simpa [zpow_neg] using hnear

end PocketScheme.Decimal

import LedgerTags.Proofs.ContextRounding
import Mathlib.Tactic.Linarith

/-!
# Results that are too large

A value with its leading digit at the highest place has a result unless rounding carries it over
that place. This happens from the middle between the largest result and the next power of ten on,
since the last digit of the largest result is odd and the middle is rounded up
(`exists_finish_iff`). So a number has an absolute value exactly if its size lies below that middle
(`exists_abs_iff`).
-/

namespace LedgerTags.Decimal

/-! ### Rounding up -/

section Natural

variable {c k m : ℕ}

private theorem le_roundShift (c k : ℕ) : c / 10 ^ k ≤ roundShift c k := by
  rw [roundShift, Nat.pow_eq]
  split_ifs <;> omega

/-- The leading digit stays unless all digits are dropped. -/
theorem pow_le_roundShift (hc : c ≠ 0) (hk : k < digitCount c) :
    10 ^ (digitCount c - 1 - k) ≤ roundShift c k := by
  refine le_trans ?_ (le_roundShift c k)
  have hexp : digitCount c - 1 - k + k = digitCount c - 1 := by omega
  rw [Nat.le_div_iff_mul_le (Nat.pow_pos (by decide)), ← pow_add, hexp]
  exact pow_digitCount_le hc

/-- From an odd number on the middle is rounded up. -/
theorem roundShift_eq_div_iff (hodd : c / 10 ^ k % 2 = 1) :
    roundShift c k = c / 10 ^ k ↔ 2 * (c % 10 ^ k) < 10 ^ k := by
  -- Nothing is rounded if no digit is dropped.
  have hnone : k = 0 → 2 * (c % 10 ^ k) < 10 ^ k := by
    rintro rfl
    rw [pow_zero, Nat.mod_one]
    exact Nat.one_pos
  rw [roundShift, Nat.pow_eq]
  split_ifs with hbelow habove hzero heven
  · exact iff_of_true rfl hbelow
  · exact iff_of_false (by omega) (by omega)
  · exact iff_of_true rfl (hnone hzero)
  · omega
  · exact iff_of_false (by omega) hbelow

/-- What is rounded to at most an odd number lies below the middle after it. -/
theorem roundShift_le_iff (hm : m % 2 = 1) :
    roundShift c k ≤ m ↔ 2 * c < (2 * m + 1) * 10 ^ k := by
  have hpos : 0 < 10 ^ k := Nat.pow_pos (by decide)
  have hdiv : 10 ^ k * (c / 10 ^ k) + c % 10 ^ k = c := Nat.div_add_mod c _
  have hmod : c % 10 ^ k < 10 ^ k := Nat.mod_lt c hpos
  have hle := le_roundShift c k
  have hge := roundShift_le c k
  rcases lt_trichotomy (c / 10 ^ k) m with hlt | heq | hgt
  · refine iff_of_true (by omega) ?_
    have hnext : 10 ^ k * (c / 10 ^ k + 1) ≤ 10 ^ k * m := Nat.mul_le_mul_left _ hlt
    calc 2 * c < 2 * (10 ^ k * (c / 10 ^ k + 1)) := by rw [mul_add, mul_one]; omega
      _ ≤ 2 * (10 ^ k * m) := Nat.mul_le_mul_left 2 hnext
      _ ≤ (2 * m + 1) * 10 ^ k := by rw [add_mul, one_mul, mul_comm (10 ^ k), mul_assoc]; omega
  · have hround : roundShift c k ≤ m ↔ roundShift c k = c / 10 ^ k := by omega
    have hproduct : (2 * m + 1) * 10 ^ k = 2 * (10 ^ k * (c / 10 ^ k)) + 10 ^ k := by
      rw [heq, add_mul, one_mul, mul_comm (10 ^ k), mul_assoc]
    rw [hround, roundShift_eq_div_iff (heq ▸ hm), hproduct]
    omega
  · refine iff_of_false (by omega) (not_lt.2 ?_)
    have hnext : 10 ^ k * (m + 1) ≤ 10 ^ k * (c / 10 ^ k) := Nat.mul_le_mul_left _ hgt
    have hproduct : (2 * m + 1) * 10 ^ k + 10 ^ k = 2 * (10 ^ k * (m + 1)) := by ring
    omega

end Natural

/-! ### Values at the highest place -/

/-- A size below the middle between the largest result and the next power of ten. -/
def IsBelowOverflow (q : ℚ) : Prop :=
  2 * q < (2 * 10 ^ precision - 1) * 10 ^ (maxExponent + 1 - precision)

/-- The middle, counted from the next power of ten. -/
theorem isBelowOverflow_iff {q : ℚ} : IsBelowOverflow q ↔
    2 * q < 2 * 10 ^ (maxExponent + 1) - 10 ^ (maxExponent + 1 - precision) := by
  have hnext : (10 : ℚ) ^ (maxExponent + 1) =
      10 ^ precision * 10 ^ (maxExponent + 1 - precision) := by
    rw [← zpow_natCast, ← zpow_add₀ (by norm_num)]
    congr 1
  rw [IsBelowOverflow, sub_mul, one_mul, mul_assoc, ← hnext]

/-- The last digit of the largest result is far below its leading digit. -/
theorem zpow_lastDigit_le : (10 : ℚ) ^ (maxExponent + 1 - precision) ≤ 10 ^ maxExponent :=
  zpow_le_zpow_right₀ (by norm_num) (by decide)

/-- Magnitudes below the highest place do not overflow. -/
theorem isBelowOverflow_of_lt {q : ℚ} (h : q < 10 ^ maxExponent) : IsBelowOverflow q := by
  have hstep : (10 : ℚ) ^ (maxExponent + 1) = 10 ^ maxExponent * 10 :=
    zpow_add_one₀ (by norm_num) _
  have hpos : (0 : ℚ) < 10 ^ maxExponent := zpow_pos (by norm_num) _
  have hunit := zpow_lastDigit_le
  rw [isBelowOverflow_iff]
  linarith

private theorem not_isBelowOverflow_of_le {q : ℚ} (h : 10 ^ (maxExponent + 1) ≤ q) :
    ¬IsBelowOverflow q := by
  have hunit : (0 : ℚ) < 10 ^ (maxExponent + 1 - precision) := zpow_pos (by norm_num) _
  rw [isBelowOverflow_iff, not_lt]
  linarith

private theorem exists_settle_iff {s : Bool} {q : ℕ} {f : ℤ} (hq : q ≠ 0) :
    (∃ y, settle s q f = .ok y) ↔ adjusted q f ≤ maxExponent := by
  rw [settle, if_neg hq]
  split_ifs with h
  · refine iff_of_false ?_ (not_le.2 h)
    rintro ⟨y, hy⟩
    cases hy
  · exact iff_of_true ⟨_, rfl⟩ (not_lt.1 h)

section Values

variable {s : Bool} {c : ℕ} {e : ℤ}

/-- Far above the least exponent, digits are dropped for the precision alone. -/
theorem dropped_of_le_adjusted (h : maxExponent ≤ adjusted c e) :
    dropped c e = digitCount c - precision ∧ ¬dropped c e < (tinyExponent - e).toNat := by
  have hcount := digitCount_pos c
  have hmax : maxExponent = 999999 := rfl
  have htiny : tinyExponent = -1000026 := rfl
  have hprecision : precision = 28 := rfl
  have hdropped : dropped c e =
      min (max (digitCount c - precision) (tinyExponent - e).toNat) (digitCount c + 1) := rfl
  rw [adjusted] at h
  omega

/-- The number of digits that are kept, if rounding does not add one. -/
theorem digitCount_roundShift (hc : c ≠ 0)
    (h : digitCount (roundShift c (digitCount c - precision)) ≤ precision) :
    digitCount (roundShift c (digitCount c - precision)) =
      digitCount c - (digitCount c - precision) := by
  have hcount := digitCount_pos c
  have hprecision : 0 < precision := by decide
  rcases Nat.lt_or_ge precision (digitCount c) with hlt | hle
  · have hlow := pow_le_roundShift hc (k := digitCount c - precision) (by omega)
    have hgrowth := (Nat.pow_lt_pow_iff_right (by decide)).1
      (hlow.trans_lt (lt_pow_digitCount (roundShift c (digitCount c - precision))))
    omega
  · have hzero : digitCount c - precision = 0 := by omega
    rw [hzero, roundShift_of_dvd (by rw [pow_zero]; exact one_dvd c), pow_zero, Nat.div_one,
      Nat.sub_zero]

/-- A value with its leading digit at the highest place or above has a result exactly if it is at
the highest place and stays there. -/
theorem exists_finish_iff_roundShift (hc : c ≠ 0) (h : maxExponent ≤ adjusted c e) :
    (∃ y, finish s c e = .ok y) ↔ adjusted c e = maxExponent ∧
      roundShift c (digitCount c - precision) ≤ 10 ^ precision - 1 := by
  obtain ⟨hdropped, hkept⟩ := dropped_of_le_adjusted h
  have hcount := digitCount_pos c
  have hprecision : 0 < precision := by decide
  have hpos : 0 < 10 ^ precision := Nat.pow_pos (by decide)
  have hadjusted : adjusted c e = e + (digitCount c - 1 : ℕ) := rfl
  rw [finish_of_ne_zero s hc, if_neg hkept, hdropped, dropDigits]
  split_ifs with hlong
  · -- One digit more is dropped, and the leading digit is one place higher.
    have hlarge : 10 ^ precision ≤ roundShift c (digitCount c - precision) := by
      have hnonzero : roundShift c (digitCount c - precision) ≠ 0 := by
        intro hzero
        rw [hzero] at hlong
        exact absurd hlong (by decide)
      exact (Nat.pow_le_pow_right (by decide) (by omega)).trans (pow_digitCount_le hnonzero)
    have hshorter : digitCount (roundShift c (digitCount c - precision)) =
        digitCount (roundShift c (digitCount c - precision) / 10) + 1 := by
      refine digitCount_of_le (le_trans ?_ hlarge)
      decide
    have hquotient : roundShift c (digitCount c - precision) / 10 ≠ 0 := by
      intro hzero
      rw [hzero] at hshorter
      rw [hshorter] at hlong
      exact absurd hlong (by decide)
    refine iff_of_false ?_ (by omega)
    rw [exists_settle_iff hquotient, adjusted]
    dsimp only
    omega
  · have hdigits := digitCount_roundShift hc (not_lt.1 hlong)
    have hsmall : roundShift c (digitCount c - precision) < 10 ^ precision :=
      (lt_pow_digitCount _).trans_le (Nat.pow_le_pow_right (by decide) (not_lt.1 hlong))
    have hnonzero : roundShift c (digitCount c - precision) ≠ 0 :=
      ((Nat.pow_pos (by decide)).trans_le (pow_le_roundShift hc (by omega))).ne'
    rw [exists_settle_iff hnonzero, adjusted, hdigits]
    dsimp only
    omega

/-- At the highest place the value alone says whether rounding carries it over that place. -/
theorem isBelowOverflow_iff_roundShift (h : adjusted c e = maxExponent) :
    IsBelowOverflow (c * 10 ^ e) ↔
      roundShift c (digitCount c - precision) ≤ 10 ^ precision - 1 := by
  have hcount := digitCount_pos c
  have hodd : (10 ^ precision - 1) % 2 = 1 := by decide
  have hpos : 1 ≤ 10 ^ precision := Nat.pow_pos (by decide)
  have hpow : (0 : ℚ) < 10 ^ e := zpow_pos (by norm_num) e
  have hcast : ((2 * (10 ^ precision - 1) + 1 : ℕ) : ℚ) = 2 * 10 ^ precision - 1 := by
    push_cast [Nat.cast_sub hpos]
    ring
  rw [roundShift_le_iff hodd, IsBelowOverflow, ← hcast]
  rw [adjusted] at h
  rcases Nat.lt_or_ge (digitCount c) precision with hlt | hge
  -- A coefficient with fewer digits is counted in units of the last digit of a result.
  · obtain ⟨j, hj⟩ : ∃ j, precision = digitCount c + j := ⟨precision - digitCount c, by omega⟩
    have hzero : digitCount c - precision = 0 := by omega
    have hexp : e = j + (maxExponent + 1 - precision) := by omega
    have hbound : 2 * (c * 10 ^ j) < 2 * (10 ^ precision - 1) + 1 := by
      have hc : (c + 1) * 10 ^ j ≤ 10 ^ precision := by
        rw [hj, pow_add]
        exact Nat.mul_le_mul_right _ (lt_pow_digitCount c)
      have hj : 0 < 10 ^ j := Nat.pow_pos (by decide)
      rw [add_mul, one_mul] at hc
      omega
    refine iff_of_true ?_ ?_
    · have hunit : (0 : ℚ) < 10 ^ (maxExponent + 1 - precision) := zpow_pos (by norm_num) _
      rw [hexp, zpow_add₀ (by norm_num), zpow_natCast, ← mul_assoc, ← mul_assoc, mul_assoc 2]
      refine mul_lt_mul_of_pos_right ?_ hunit
      exact_mod_cast hbound
    · have hc : c < 10 ^ precision :=
        (lt_pow_digitCount c).trans_le (Nat.pow_le_pow_right (by decide) hlt.le)
      rw [hzero, pow_zero]
      omega
  · have hexp : maxExponent + 1 - precision = (digitCount c - precision : ℕ) + e := by omega
    rw [hexp, zpow_add₀ (by norm_num), zpow_natCast, ← mul_assoc, ← mul_assoc,
      mul_lt_mul_iff_left₀ hpow]
    exact_mod_cast Iff.rfl

/-- A value has a result exactly if it lies below the middle between the largest result and the next
power of ten. -/
theorem exists_finish_iff (s : Bool) (c : ℕ) (e : ℤ) :
    (∃ y, finish s c e = .ok y) ↔ IsBelowOverflow (c * 10 ^ e) := by
  by_cases hc : c = 0
  · subst hc
    obtain ⟨f, hf⟩ := finish_zero s e
    refine iff_of_true ⟨_, hf⟩ (isBelowOverflow_of_lt ?_)
    rw [Nat.cast_zero, zero_mul]
    exact zpow_pos (by norm_num) _
  obtain ⟨hlow, hhigh⟩ := hasOrder_adjusted hc e
  rw [Nat.cast_ofNat] at hlow hhigh
  rcases lt_trichotomy (adjusted c e) maxExponent with hlt | heq | hgt
  · obtain ⟨d, f, hfinish⟩ := exists_finish s c e fun _ => hlt
    refine iff_of_true ⟨_, hfinish⟩ (isBelowOverflow_of_lt ?_)
    exact hhigh.trans_le (zpow_le_zpow_right₀ (by norm_num) (by omega))
  · rw [exists_finish_iff_roundShift hc heq.ge, isBelowOverflow_iff_roundShift heq,
      and_iff_right heq]
  · rw [exists_finish_iff_roundShift hc hgt.le]
    refine iff_of_false (fun h => hgt.ne' h.1) (not_isBelowOverflow_of_le ?_)
    exact (zpow_le_zpow_right₀ (by norm_num) hgt).trans hlow

end Values

/-- A number has an absolute value exactly if its size lies below the middle between the largest
result and the next power of ten. -/
theorem exists_abs_iff {x : Decimal} {q : ℚ} (hx : x.quantity? = some (Quantity.ofRat q)) :
    (∃ y, x.abs = .ok y) ↔ IsBelowOverflow |q| := by
  obtain ⟨s, c, e, rfl, hq⟩ := eq_finite_of_quantity? hx
  rw [hq]
  exact exists_finish_iff false c e

end LedgerTags.Decimal

import LedgerTags.Decimal.Context
import LedgerTags.Proofs.Quantity

/-!
# Results of decimal arithmetic

The result of an operation is its exact value, rounded to 28 digits. Three facts say what that does
to the value. One that can be written with so many digits and with an exponent in range is the
result as it stands (`finish_of_isRepresentable`), and no other value is a result
(`isRepresentable_of_finish`). One with a leading digit below the highest place has some result,
since rounding moves the leading digit by one place at most (`exists_finish`). For the absolute
value of a number these are `abs_of_isRepresentable`, `isRepresentable_of_abs` and `exists_abs`.
-/

namespace LedgerTags

/-- The sign does not count for the magnitude. -/
theorem Quantity.abs_signed (s : Bool) {q : ℚ} (h : 0 ≤ q) : |signed s q| = q := by
  cases s
  · exact abs_of_nonneg h
  · exact (abs_neg q).trans (abs_of_nonneg h)

namespace Decimal

/-! ### Dropping digits -/

section Digits

variable {c k n : ℕ}

/-- Digits that are all zero are dropped without rounding. -/
theorem roundShift_of_dvd (h : 10 ^ k ∣ c) : roundShift c k = c / 10 ^ k := by
  have hpos : 0 < 10 ^ k := Nat.pow_pos (by decide)
  rw [roundShift, Nat.pow_eq, Nat.mod_eq_zero_of_dvd h]
  exact if_pos (by omega)

/-- Rounding is at most one above rounding down. -/
theorem roundShift_le (c k : ℕ) : roundShift c k ≤ c / 10 ^ k + 1 := by
  rw [roundShift, Nat.pow_eq]
  split_ifs <;> omega

/-- Without `k` of its `n` digits a number has `n - k` digits, or is the one after all of these. -/
theorem roundShift_le_pow (hc : c < 10 ^ n) (hk : k ≤ n) : roundShift c k ≤ 10 ^ (n - k) := by
  have hdiv : c / 10 ^ k < 10 ^ (n - k) := by
    rw [Nat.div_lt_iff_lt_mul (Nat.pow_pos (by decide)), ← pow_add, Nat.sub_add_cancel hk]
    exact hc
  exact (roundShift_le c k).trans hdiv

private theorem roundShift_eq_zero (hc : c < 10 ^ n) (hk : n < k) : roundShift c k = 0 := by
  have hpow : 10 * 10 ^ n ≤ 10 ^ k := by
    rw [← pow_succ']
    exact Nat.pow_le_pow_right (by decide) hk
  rw [roundShift, Nat.pow_eq, Nat.mod_eq_of_lt (by omega), Nat.div_eq_of_lt (by omega)]
  exact if_pos (by omega)

private theorem digitCount_le_succ {q m : ℕ} (h : q ≤ 10 ^ m) : digitCount q ≤ m + 1 := by
  refine digitCount_le (Nat.succ_pos m) (h.trans_lt ?_)
  exact Nat.pow_lt_pow_right (by decide) (Nat.lt_succ_self m)

end Digits

/-- How many digits an operation drops from the end of its exact value. -/
def dropped (c : ℕ) (e : ℤ) : ℕ :=
  min (max (digitCount c - precision) (tinyExponent - e).toNat) (digitCount c + 1)

/-- A value in the form of a result, unless it is too large for one. -/
def settle (s : Bool) (q : ℕ) (f : ℤ) : Except Fault Decimal :=
  if q = 0 then .ok (.finite s 0 f)
  else if maxExponent < adjusted q f then .error .overflow
  else .ok (.finite s q f)

/-- A result that is zero can be represented, whatever its exponent. -/
theorem finish_zero (s : Bool) (e : ℤ) : ∃ f, finish s 0 e = .ok (.finite s 0 f) :=
  ⟨_, by rw [finish, if_pos rfl]⟩

/-- A result other than zero loses the digits that are too many, and is then brought into the range
of the exponents. -/
theorem finish_of_ne_zero (s : Bool) {c : ℕ} (hc : c ≠ 0) (e : ℤ) :
    finish s c e =
      settle s (dropDigits precision c e (dropped c e)).1
        (if dropped c e < (tinyExponent - e).toNat then tinyExponent
          else (dropDigits precision c e (dropped c e)).2) := by
  rcases hpair : dropDigits precision c e (dropped c e) with ⟨q, f⟩
  rw [dropped] at hpair
  simp only [finish, if_neg hc, hpair]
  rfl

/-! ### Values without rounding -/

/-- A value can be written with the digits and the exponents that results have. -/
def IsRepresentable (q : ℚ) : Prop :=
  ∃ (c : ℕ) (e : ℤ), q = c * 10 ^ e ∧ c < 10 ^ precision ∧ tinyExponent ≤ e ∧
    (c ≠ 0 → adjusted c e ≤ maxExponent)

section Values

variable {c : ℕ} {e : ℤ}

/-- Of a representable value only zeros are dropped. -/
theorem dropped_of_isRepresentable (hc : c ≠ 0) (h : IsRepresentable (c * 10 ^ e)) :
    adjusted c e ≤ maxExponent ∧ (tinyExponent - e).toNat ≤ dropped c e ∧
      10 ^ dropped c e ∣ c ∧ digitCount c ≤ precision + dropped c e := by
  obtain ⟨d, f, hvalue, hprecision, htiny, hmax⟩ := h
  have hd : d ≠ 0 := by
    rintro rfl
    rw [Nat.cast_zero, zero_mul] at hvalue
    exact (pos_of_ne_zero hc e).ne' hvalue
  have hadjusted := adjusted_congr hc hd hvalue
  have hdigits : digitCount d ≤ precision := digitCount_le (by decide) hprecision
  have hcount := digitCount_pos c
  have hcount' := digitCount_pos d
  refine ⟨hadjusted ▸ hmax hd, ?_⟩
  rw [adjusted, adjusted] at hadjusted
  rcases Int.lt_or_le f e with hlt | hle
  · have hzero : dropped c e = 0 := by
      rw [dropped]
      omega
    rw [hzero, pow_zero]
    exact ⟨by omega, one_dvd c, by omega⟩
  · obtain ⟨j, rfl⟩ : ∃ j : ℕ, f = e + j := ⟨(f - e).toNat, by omega⟩
    have hfactor : c = d * 10 ^ j := by
      have hten : (10 : ℚ) ^ e ≠ 0 := zpow_ne_zero e (by norm_num)
      rw [zpow_add₀ (by norm_num), zpow_natCast, mul_comm ((10 : ℚ) ^ e), ← mul_assoc,
        mul_left_inj' hten] at hvalue
      exact_mod_cast hvalue
    have hdropped : dropped c e ≤ j ∧ (tinyExponent - e).toNat ≤ dropped c e ∧
        digitCount c ≤ precision + dropped c e := by
      rw [dropped]
      omega
    refine ⟨hdropped.2.1, ?_, hdropped.2.2⟩
    rw [hfactor]
    exact Dvd.dvd.mul_left (Nat.pow_dvd_pow 10 (hfactor ▸ hdropped.1)) d

/-- A result that can be represented is returned with its value unchanged. -/
theorem finish_of_isRepresentable (s : Bool) (h : IsRepresentable (c * 10 ^ e)) :
    ∃ (d : ℕ) (f : ℤ), finish s c e = .ok (.finite s d f) ∧ (d : ℚ) * 10 ^ f = c * 10 ^ e := by
  by_cases hc : c = 0
  · subst hc
    obtain ⟨f, hf⟩ := finish_zero s e
    exact ⟨0, f, hf, by rw [Nat.cast_zero, zero_mul, zero_mul]⟩
  obtain ⟨hmax, htiny, hdvd, hcount⟩ := dropped_of_isRepresentable hc h
  obtain ⟨q, hq⟩ := hdvd
  have hpos : 0 < 10 ^ dropped c e := Nat.pow_pos (by decide)
  have hshort : digitCount q ≤ precision := by
    refine digitCount_le (by decide) (Nat.lt_of_mul_lt_mul_left (a := 10 ^ dropped c e) ?_)
    calc 10 ^ dropped c e * q = c := hq.symm
      _ < 10 ^ digitCount c := lt_pow_digitCount c
      _ ≤ 10 ^ (precision + dropped c e) := Nat.pow_le_pow_right (by decide) hcount
      _ = 10 ^ dropped c e * 10 ^ precision := by rw [pow_add, mul_comm]
  have hshift : roundShift c (dropped c e) = q := by
    rw [roundShift_of_dvd ⟨q, hq⟩]
    exact Nat.div_eq_of_eq_mul_right hpos hq
  have hdrop : dropDigits precision c e (dropped c e) = (q, e + dropped c e) := by
    rw [dropDigits, hshift]
    exact if_neg (by omega)
  have hvalue : (q : ℚ) * 10 ^ (e + dropped c e) = c * 10 ^ e := by
    have hcast : (c : ℚ) = 10 ^ dropped c e * q := by exact_mod_cast hq
    rw [zpow_add₀ (by norm_num), zpow_natCast, hcast]
    ring
  have hq0 : q ≠ 0 := by
    rintro rfl
    exact hc hq
  refine ⟨q, e + dropped c e, ?_, hvalue⟩
  rw [finish_of_ne_zero s hc, hdrop, if_neg (by omega), settle, if_neg hq0, if_neg]
  rw [adjusted_congr hq0 hc hvalue]
  omega

/-- The digits and the exponent of a result are in range, and rounding moves the leading digit by
one place at most. -/
theorem finish_eq_settle (s : Bool) (hc : c ≠ 0) (e : ℤ) :
    ∃ (q : ℕ) (f : ℤ), finish s c e = settle s q f ∧ q < 10 ^ precision ∧ tinyExponent ≤ f ∧
      (q ≠ 0 → adjusted q f ≤ adjusted c e + 1) := by
  have hlt := lt_pow_digitCount c
  have hcount := digitCount_pos c
  have hdef : dropped c e = min (max (digitCount c - precision) (tinyExponent - e).toNat)
      (digitCount c + 1) := rfl
  refine ⟨_, _, finish_of_ne_zero s hc e, ?_⟩
  rcases Nat.lt_or_ge (digitCount c) (dropped c e) with hbeyond | hwithin
  -- All digits are dropped.
  · have hdrop : dropDigits precision c e (dropped c e) = (0, e + dropped c e) := by
      rw [dropDigits, roundShift_eq_zero hlt hbeyond]
      rfl
    rw [hdrop]
    refine ⟨Nat.pow_pos (by decide), ?_, fun hq => absurd rfl hq⟩
    split
    · exact le_refl _
    · dsimp only
      omega
  · have hkeep : ¬dropped c e < (tinyExponent - e).toNat := by omega
    have hpow := roundShift_le_pow hlt hwithin
    have hshift := digitCount_le_succ hpow
    rw [if_neg hkeep, dropDigits]
    split
    · next hlong =>
      have hshorter : digitCount (roundShift c (dropped c e) / 10) + 1 =
          digitCount (roundShift c (dropped c e)) := by
        refine (digitCount_of_le ?_).symm
        by_contra hsmall
        rw [digitCount_of_lt (not_le.1 hsmall)] at hlong
        exact absurd hlong (by decide)
      have hpos := digitCount_pos (roundShift c (dropped c e) / 10)
      have hprecision : roundShift c (dropped c e) ≤ 10 ^ precision :=
        hpow.trans (Nat.pow_le_pow_right (by decide) (by omega))
      have hten : 0 < 10 ^ precision := Nat.pow_pos (by decide)
      dsimp only
      refine ⟨by omega, by omega, fun _ => ?_⟩
      rw [adjusted, adjusted]
      omega
    · next hshort =>
      have hprecision : roundShift c (dropped c e) < 10 ^ precision :=
        (lt_pow_digitCount (roundShift c (dropped c e))).trans_le
          (Nat.pow_le_pow_right (by decide) (not_lt.1 hshort))
      dsimp only
      refine ⟨hprecision, by omega, fun _ => ?_⟩
      rw [adjusted, adjusted]
      omega

/-- A value with its leading digit below the highest place has some result. -/
theorem exists_finish (s : Bool) (c : ℕ) (e : ℤ) (h : c ≠ 0 → adjusted c e < maxExponent) :
    ∃ (d : ℕ) (f : ℤ), finish s c e = .ok (.finite s d f) := by
  by_cases hc : c = 0
  · subst hc
    exact ⟨0, finish_zero s e⟩
  obtain ⟨q, f, hfinish, -, -, hadjusted⟩ := finish_eq_settle s hc e
  have hbelow := h hc
  rw [hfinish, settle]
  by_cases hq : q = 0
  · exact ⟨0, f, if_pos hq⟩
  · have hle := hadjusted hq
    exact ⟨q, f, by rw [if_neg hq, if_neg (by omega)]⟩

/-- A result can be represented. -/
theorem isRepresentable_of_finish {s : Bool} {y : Decimal} (h : finish s c e = .ok y) :
    ∃ (d : ℕ) (f : ℤ), y = .finite s d f ∧ IsRepresentable (d * 10 ^ f) := by
  have hzero (f : ℤ) : IsRepresentable ((0 : ℕ) * 10 ^ f) :=
    ⟨0, 0, by simp, by decide, by decide, fun hne => absurd rfl hne⟩
  by_cases hc : c = 0
  · subst hc
    obtain ⟨f, hf⟩ := finish_zero s e
    exact ⟨0, f, Except.ok.inj (h.symm.trans hf), hzero f⟩
  obtain ⟨q, f, hfinish, hprecision, htiny, -⟩ := finish_eq_settle s hc e
  rw [hfinish, settle] at h
  split at h
  · exact ⟨0, f, (Except.ok.inj h).symm, hzero f⟩
  · split at h
    · cases h
    · next hmax =>
      exact ⟨q, f, (Except.ok.inj h).symm, q, f, rfl, hprecision, htiny, fun _ => not_lt.1 hmax⟩

end Values

/-! ### Absolute values -/

/-- A decimal that stands for a number is finite, with the magnitude of that number. -/
theorem eq_finite_of_quantity? {x : Decimal} {q : ℚ}
    (hx : x.quantity? = some (Quantity.ofRat q)) :
    ∃ (s : Bool) (c : ℕ) (e : ℤ), x = .finite s c e ∧ |q| = c * 10 ^ e := by
  cases x with
  | nan => cases hx
  | infinity s => cases s <;> cases hx
  | finite s c e =>
    obtain rfl : Quantity.signed s (c * 10 ^ e) = q := by
      have := Option.some.inj hx
      exact WithTop.coe_injective (WithBot.coe_injective this)
    refine ⟨s, c, e, rfl, Quantity.abs_signed s ?_⟩
    exact mul_nonneg (Nat.cast_nonneg c) (zpow_pos (by norm_num) e).le

/-- The absolute value of a number that can be represented is exact. -/
theorem abs_of_isRepresentable {x : Decimal} {q : ℚ} (hx : x.quantity? = some (Quantity.ofRat q))
    (h : IsRepresentable |q|) :
    ∃ y, x.abs = .ok y ∧ y.quantity? = some (Quantity.ofRat |q|) := by
  obtain ⟨s, c, e, rfl, hq⟩ := eq_finite_of_quantity? hx
  rw [hq] at h ⊢
  obtain ⟨d, f, hfinish, hvalue⟩ := finish_of_isRepresentable false h
  exact ⟨_, hfinish, congrArg (fun q => some (Quantity.ofRat q)) hvalue⟩

/-- The absolute value of a number, as it is computed, can be represented. -/
theorem isRepresentable_of_abs {x y : Decimal} {q : ℚ}
    (hx : x.quantity? = some (Quantity.ofRat q)) (hy : x.abs = .ok y) :
    ∃ p, y.quantity? = some (Quantity.ofRat p) ∧ 0 ≤ p ∧ IsRepresentable p := by
  obtain ⟨s, c, e, rfl, -⟩ := eq_finite_of_quantity? hx
  obtain ⟨d, f, rfl, hrepresentable⟩ := isRepresentable_of_finish hy
  exact ⟨d * 10 ^ f, rfl, mul_nonneg (Nat.cast_nonneg d) (zpow_pos (by norm_num) f).le,
    hrepresentable⟩

/-- The absolute value of a number below the highest place is a number. -/
theorem exists_abs {x : Decimal} {p : Quantity} (hx : x.quantity? = some p)
    (h : ∀ q, p = Quantity.ofRat q → |q| < 10 ^ maxExponent) :
    ∃ y p', x.abs = .ok y ∧ y.quantity? = some p' := by
  cases x with
  | nan => cases hx
  | infinity s => exact ⟨_, _, rfl, rfl⟩
  | finite s c e =>
    have hsmall := h _ (Option.some.inj hx).symm
    rw [Quantity.abs_signed s (mul_nonneg (Nat.cast_nonneg c) (zpow_pos (by norm_num) e).le)]
      at hsmall
    obtain ⟨d, f, hfinish⟩ := exists_finish false c e fun hc => by
      have hlow := (hasOrder_adjusted hc e).1
      rw [Nat.cast_ofNat] at hlow
      exact (zpow_lt_zpow_iff_right₀ (by norm_num)).1 (hlow.trans_lt hsmall)
    exact ⟨_, _, hfinish, rfl⟩

end Decimal

end LedgerTags

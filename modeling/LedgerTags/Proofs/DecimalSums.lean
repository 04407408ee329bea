import LedgerTags.Proofs.ContextRounding
import LedgerTags.Proofs.DecimalText
import Mathlib.Tactic.Linarith

/-!
# Sums of decimals

The sum of two finite numbers is exact if it can be represented (`add_of_isRepresentable`). The
summands are brought to a common exponent before they are added. If one lies wholly below the last
digit that can matter, a unit stands in for it; a sum that can be represented is never of this kind,
because its last digit and the one of the greater summand both lie above the smaller one
(`sticky_of_isRepresentable`).
-/

namespace LedgerTags.Decimal

open Quantity

/-! ### Multiples of a power of ten -/

private theorem exists_int_mul_zpow (c : ℕ) {j e : ℤ} (h : j ≤ e) :
    ∃ k : ℤ, (c : ℚ) * 10 ^ e = k * 10 ^ j := by
  obtain ⟨n, rfl⟩ : ∃ n : ℕ, e = j + n := ⟨(e - j).toNat, by omega⟩
  refine ⟨c * 10 ^ n, ?_⟩
  rw [zpow_add₀ (by norm_num), zpow_natCast]
  push_cast
  ring

private theorem exists_int_signed {s : Bool} {q u : ℚ} (h : ∃ k : ℤ, q = k * u) :
    ∃ k : ℤ, signed s q = k * u := by
  obtain ⟨k, rfl⟩ := h
  cases s with
  | false => exact ⟨k, rfl⟩
  | true => exact ⟨-k, by rw [signed, if_pos rfl]; push_cast; ring⟩

/-- A multiple of a unit that is smaller than the unit is zero. -/
theorem eq_zero_of_abs_lt {k : ℤ} {q u : ℚ} (hu : 0 < u) (hq : q = k * u) (hlt : |q| < u) :
    q = 0 := by
  have hk : |(k : ℚ)| < 1 := by
    rw [hq, abs_mul, abs_of_pos hu] at hlt
    exact lt_of_mul_lt_mul_right (by rwa [one_mul]) hu.le
  have hzero : k = 0 := Int.abs_lt_one_iff.1 (by exact_mod_cast hk)
  rw [hq, hzero, Int.cast_zero, zero_mul]

/-! ### Summands that do not matter -/

section Summands

variable {s t : Bool} {c d : ℕ} {e f : ℤ}

/-- A sum that can be represented and that has a leading digit above a summand has its last digit
above it as well. -/
theorem le_of_isRepresentable {m : ℕ} {g limit : ℤ} (hc : c ≠ 0)
    (hq : (d : ℚ) * 10 ^ f < 10 ^ limit) (hlimit : limit + precision ≤ adjusted c e)
    (hsum : |signed s (c * 10 ^ e) + signed t (d * 10 ^ f)| = m * 10 ^ g)
    (hm : m < 10 ^ precision) : limit ≤ g := by
  have hten (j : ℤ) : (0 : ℚ) < 10 ^ j := zpow_pos (by norm_num) j
  have hp : (10 : ℚ) ^ adjusted c e ≤ c * 10 ^ e := by
    exact_mod_cast (hasOrder_adjusted hc e).1
  have hshift : (10 : ℚ) ^ adjusted c e = 10 * 10 ^ (adjusted c e - 1) := by
    rw [← zpow_one_add₀ (by norm_num)]
    congr 1
    omega
  have hlow : (10 : ℚ) ^ limit ≤ 10 ^ (adjusted c e - 1) :=
    zpow_le_zpow_right₀ (by norm_num) (by rw [precision] at hlimit; omega)
  have htriangle : (c : ℚ) * 10 ^ e - d * 10 ^ f ≤ m * 10 ^ g := by
    have h := abs_sub_abs_le_abs_add (signed s ((c : ℚ) * 10 ^ e)) (signed t (d * 10 ^ f))
    rw [hsum, abs_signed s (mul_nonneg (Nat.cast_nonneg c) (hten e).le),
      abs_signed t (mul_nonneg (Nat.cast_nonneg d) (hten f).le)] at h
    exact h
  have hbound : (m : ℚ) * 10 ^ g < 10 ^ (precision + g) := by
    rw [zpow_add₀ (by norm_num), zpow_natCast]
    exact mul_lt_mul_of_pos_right (by exact_mod_cast hm) (hten g)
  have hexponents : (10 : ℚ) ^ (adjusted c e - 1) < 10 ^ (precision + g) := by
    linarith [hten (adjusted c e - 1)]
  have hlt : adjusted c e - 1 < precision + g :=
    (zpow_lt_zpow_iff_right₀ (by norm_num)).1 hexponents
  omega

/-- A summand far below the leading digit of the other one and below its last digit leaves a sum
that cannot be represented. -/
theorem not_isRepresentable_of_adjusted_lt {limit : ℤ} (hc : c ≠ 0) (hd : d ≠ 0)
    (hadjusted : adjusted d f < limit) (hlast : limit ≤ e)
    (hleading : limit + precision ≤ adjusted c e) :
    ¬IsRepresentable |signed s (c * 10 ^ e) + signed t (d * 10 ^ f)| := by
  rintro ⟨m, g, hsum, hm, -, -⟩
  have hunit : (0 : ℚ) < 10 ^ limit := zpow_pos (by norm_num) limit
  have hsmall : (d : ℚ) * 10 ^ f < 10 ^ limit := by
    have h := (hasOrder_adjusted hd f).2
    rw [Nat.cast_ofNat] at h
    exact h.trans_le (zpow_le_zpow_right₀ (by norm_num) hadjusted)
  -- The sum and the greater summand are multiples of the unit, and so is the smaller summand.
  have hwhole : ∃ k : ℤ, signed s (c * 10 ^ e) + signed t (d * 10 ^ f) = k * 10 ^ limit := by
    obtain ⟨k, hk⟩ := exists_int_mul_zpow m (le_of_isRepresentable hc hsmall hleading hsum hm)
    rcases abs_choice (signed s ((c : ℚ) * 10 ^ e) + signed t (d * 10 ^ f)) with h | h
    · exact ⟨k, by rw [← hk, ← hsum, h]⟩
    · exact ⟨-k, by rw [Int.cast_neg, neg_mul, ← hk, ← hsum, h, neg_neg]⟩
  obtain ⟨j, hj⟩ := hwhole
  obtain ⟨k, hk⟩ := exists_int_signed (s := s) (exists_int_mul_zpow c hlast)
  have hpos : (0 : ℚ) < d * 10 ^ f := pos_of_ne_zero hd f
  have habs := abs_signed t hpos.le
  have hzero : signed t ((d : ℚ) * 10 ^ f) = 0 := by
    refine eq_zero_of_abs_lt (k := j - k) hunit ?_ (by rwa [habs])
    rw [Int.cast_sub, sub_mul, ← hj, ← hk]
    ring
  rw [hzero, abs_zero] at habs
  exact hpos.ne habs

/-- In a sum that can be represented no unit stands in for a summand. -/
theorem sticky_of_isRepresentable (hle : f ≤ e)
    (h : IsRepresentable |signed s (c * 10 ^ e) + signed t (d * 10 ^ f)|) :
    ((sticky c e d f).1 : ℚ) * 10 ^ (sticky c e d f).2 = d * 10 ^ f ∧ (sticky c e d f).2 ≤ e := by
  rw [sticky]
  by_cases hc : c = 0
  · rw [if_pos hc]
    exact ⟨rfl, hle⟩
  rw [if_neg hc]
  dsimp only
  have hcount := digitCount_pos c
  have hlimit : ∃ limit, e - 1 + (if precision < digitCount c then 0
      else (digitCount c : ℤ) - precision - 1) = limit ∧ limit ≤ e ∧
        limit + precision ≤ adjusted c e := by
    refine ⟨_, rfl, ?_⟩
    rw [adjusted]
    split <;> omega
  obtain ⟨limit, heq, hlast, hleading⟩ := hlimit
  rw [heq]
  by_cases hlow : adjusted d f < limit
  · rw [if_pos hlow]
    refine ⟨?_, hlast⟩
    by_cases hd : d = 0
    · rw [hd, if_pos rfl, Nat.cast_zero, zero_mul, zero_mul]
    · exact absurd h (not_isRepresentable_of_adjusted_lt hc hd hlow hlast hleading)
  · rw [if_neg hlow]
    exact ⟨rfl, hle⟩

/-! ### Exact results -/

/-- A number is the finite decimal with a value, and its text can be read. -/
structure HasValue (x : Decimal) (q : ℚ) : Prop where
  quantity : x.quantity? = some (ofRat q)
  readable : x.IsReadable

private theorem exists_finite {x : Decimal} {q : ℚ} (hx : x.quantity? = some (ofRat q)) :
    ∃ s c e, x = .finite s c e ∧ signed s (c * 10 ^ e) = q := by
  obtain ⟨s, c, e, rfl, -⟩ := eq_finite_of_quantity? hx
  exact ⟨s, c, e, rfl, WithTop.coe_injective (WithBot.coe_injective (Option.some.inj hx))⟩

/-- The exponents of results are in the range that reading accepts. -/
theorem isReadable_finite (s : Bool) (hlow : tinyExponent ≤ e)
    (hhigh : (if c = 0 then e else adjusted c e) ≤ maxExponent) :
    (Decimal.finite s c e).IsReadable := by
  have hfloor : exponentFloor ≤ tinyExponent := by decide
  have hlimit : maxExponent ≤ exponentLimit := by decide
  rw [IsReadable, finite?, if_neg (not_lt.2 (hfloor.trans hlow)),
    if_neg (not_lt.2 (hhigh.trans hlimit))]

/-- The exact value of an operation is its result if it can be represented. -/
theorem hasValue_finish (s : Bool) (h : IsRepresentable (c * 10 ^ e)) :
    ∃ x, finish s c e = .ok x ∧ x.HasValue (signed s (c * 10 ^ e)) := by
  obtain ⟨d, f, hfinish, hvalue⟩ := finish_of_isRepresentable s h
  refine ⟨_, hfinish, by rw [← hvalue]; rfl, ?_⟩
  by_cases hc : c = 0
  · rw [finish, if_pos hc] at hfinish
    cases hfinish
    have hmax : tinyExponent ≤ maxExponent := by decide
    exact isReadable_finite s (le_max_left _ _) (by rw [if_pos rfl]; omega)
  · obtain ⟨q, g, hsettle, -, htiny, -⟩ := finish_eq_settle s hc e
    rw [hsettle, settle] at hfinish
    split at hfinish
    · cases hfinish
      rw [Nat.cast_zero, zero_mul] at hvalue
      exact absurd hvalue (pos_of_ne_zero hc e).ne
    · next hq =>
      split at hfinish
      · cases hfinish
      · next hmax =>
        cases hfinish
        exact isReadable_finite s htiny (by rw [if_neg hq]; exact not_lt.1 hmax)

/-! ### Sums -/

/-- The sum of two numbers with a common exponent. -/
def combine (s : Bool) (c : ℕ) (t : Bool) (d : ℕ) (f : ℤ) : Except Fault Decimal :=
  if s = t then finish s (c + d) f
  else if c = d then finish false 0 f
  else if d < c then finish s (c - d) f
  else finish t (d - c) f

/-- The sum of two numbers with a common exponent is the result with the exact value. -/
theorem combine_eq_finish (s : Bool) (c : ℕ) (t : Bool) (d : ℕ) (f : ℤ) :
    ∃ u n, combine s c t d f = finish u n f ∧
      signed u ((n : ℚ) * 10 ^ f) = signed s (c * 10 ^ f) + signed t (d * 10 ^ f) := by
  rw [combine]
  split
  · next hsign =>
    subst hsign
    refine ⟨s, c + d, rfl, ?_⟩
    cases s <;> simp only [signed, if_true, Bool.false_eq_true, if_false] <;> push_cast <;> ring
  · next hsign =>
    obtain rfl : t = !s := by
      cases s <;> cases t <;> simp_all
    split
    · next heq =>
      subst heq
      refine ⟨false, 0, rfl, ?_⟩
      cases s <;> simp [signed]
    · split
      · next hlt =>
        refine ⟨s, c - d, rfl, ?_⟩
        rw [Nat.cast_sub hlt.le]
        cases s <;> simp [signed] <;> ring
      · next hnot =>
        refine ⟨!s, d - c, rfl, ?_⟩
        rw [Nat.cast_sub (not_lt.1 hnot)]
        cases s <;> simp [signed] <;> ring

private theorem combine_of_isRepresentable
    (h : IsRepresentable |signed s (c * 10 ^ f) + signed t (d * 10 ^ f)|) :
    ∃ x, combine s c t d f = .ok x ∧
      x.HasValue (signed s (c * 10 ^ f) + signed t (d * 10 ^ f)) := by
  obtain ⟨u, n, hcombine, hvalue⟩ := combine_eq_finish s c t d f
  rw [← hvalue, abs_signed u (mul_nonneg (Nat.cast_nonneg n) (zpow_pos (by norm_num) f).le)] at h
  rw [hcombine, ← hvalue]
  exact hasValue_finish u h

/-- The coefficient of a number in terms of a lower exponent. -/
theorem scale_eq (hle : f ≤ e) :
    ((if c = 0 then 0 else c * Nat.pow 10 (e - f).toNat : ℕ) : ℚ) * 10 ^ f = c * 10 ^ e := by
  split
  · next hc => rw [hc, Nat.cast_zero, zero_mul, zero_mul]
  · rw [mul_zpow_eq c e f, min_eq_right hle]

private theorem addAligned_of_isRepresentable (hle : f ≤ e)
    (h : IsRepresentable |signed s (c * 10 ^ e) + signed t (d * 10 ^ f)|) :
    ∃ x, addAligned s c e t d f = .ok x ∧
      x.HasValue (signed s (c * 10 ^ e) + signed t (d * 10 ^ f)) := by
  have hsummand : ∃ d' f', (if e = f then (d, f) else sticky c e d f) = (d', f') ∧
      (d' : ℚ) * 10 ^ f' = d * 10 ^ f ∧ f' ≤ e := by
    by_cases heq : e = f
    · exact ⟨d, f, if_pos heq, rfl, hle⟩
    · exact ⟨_, _, if_neg heq, sticky_of_isRepresentable hle h⟩
  obtain ⟨d', f', hpair, hvalue, hle'⟩ := hsummand
  rw [← hvalue, ← scale_eq hle'] at h ⊢
  have hadd : addAligned s c e t d f =
      combine s (if c = 0 then 0 else c * Nat.pow 10 (e - f').toNat) t d' f' := by
    rw [addAligned, hpair]
    rfl
  rw [hadd]
  exact combine_of_isRepresentable h

/-- The sum of two finite numbers is exact if it can be represented. -/
theorem add_of_isRepresentable {x y : Decimal} {p q : ℚ} (hx : x.quantity? = some (ofRat p))
    (hy : y.quantity? = some (ofRat q)) (h : IsRepresentable |p + q|) :
    ∃ z, x.add y = .ok z ∧ z.HasValue (p + q) := by
  obtain ⟨s, c, e, rfl, rfl⟩ := exists_finite hx
  obtain ⟨t, d, f, rfl, rfl⟩ := exists_finite hy
  rw [add]
  split
  · next hle => exact addAligned_of_isRepresentable hle h
  · next hlt =>
    rw [add_comm (signed s _)] at h ⊢
    exact addAligned_of_isRepresentable (not_le.1 hlt).le h

/-- The sum of two finite numbers, as it is computed, can be represented. -/
theorem isRepresentable_of_add {x y z : Decimal} {p q : ℚ} (hx : x.quantity? = some (ofRat p))
    (hy : y.quantity? = some (ofRat q)) (h : x.add y = .ok z) :
    ∃ r, z.quantity? = some (ofRat r) ∧ IsRepresentable |r| := by
  obtain ⟨s, c, e, rfl, -⟩ := exists_finite hx
  obtain ⟨t, d, f, rfl, -⟩ := exists_finite hy
  have haligned : ∃ s c t d f, combine s c t d f = .ok z := by
    rw [add] at h
    split at h
    · exact ⟨_, _, _, _, _, h⟩
    · exact ⟨_, _, _, _, _, h⟩
  obtain ⟨s, c, t, d, f, hcombine⟩ := haligned
  obtain ⟨u, n, hfinish, -⟩ := combine_eq_finish s c t d f
  rw [hfinish] at hcombine
  obtain ⟨m, g, rfl, hm⟩ := isRepresentable_of_finish hcombine
  refine ⟨_, rfl, ?_⟩
  rwa [abs_signed u (mul_nonneg (Nat.cast_nonneg m) (zpow_pos (by norm_num) g).le)]

end Summands

end LedgerTags.Decimal

import LedgerTags.Number.Binary64
import LedgerTags.Proofs.Magnitudes
import Mathlib.Algebra.Order.Floor.Defs
import Mathlib.Tactic.Linarith
import Mathlib.Tactic.NormNum

/-!
# Rounding to the binary format

`ofRatio` and `ofScientific` depend on the value of their argument alone, not on the fraction or the
decimal that stands for it (`ofRatio_congr`, `ofScientific_congr`). A value up to the greatest
number is rounded to a number and not to an infinity (`exists_ofRatio_eq_finite`), and a value that
is closer to a number of the format than a part in `2 ^ 54` of it is rounded to that number
(`ofScientific_eq_of_near`).
-/

namespace LedgerTags.Binary64

/-! ### Quotients -/

private theorem roundQuotient_mul_right (num : ℕ) {den k : ℕ} (hk : 0 < k) :
    roundQuotient (num * k) (den * k) = roundQuotient num den := by
  have hlt (a : ℕ) : 2 * (a * k) < den * k ↔ 2 * a < den := by
    rw [← mul_assoc, Nat.mul_lt_mul_right hk]
  have hgt (a : ℕ) : den * k < 2 * (a * k) ↔ den < 2 * a := by
    rw [← mul_assoc, Nat.mul_lt_mul_right hk]
  simp only [roundQuotient, Nat.mul_div_mul_right _ _ hk, Nat.mul_mod_mul_right, hlt, hgt]

/-- Rounding depends on the quotient alone. -/
theorem roundQuotient_congr {a b c d : ℕ} (hb : 0 < b) (hd : 0 < d) (h : a * d = c * b) :
    roundQuotient a b = roundQuotient c d := by
  rw [← roundQuotient_mul_right a hd, h, mul_comm b d, roundQuotient_mul_right c hb]

/-- A quotient less than half away from a number is rounded to it. -/
theorem roundQuotient_eq_of_near {num den r : ℕ} (hden : 0 < den)
    (h : |(num : ℚ) / den - r| < 1 / 2) : roundQuotient num den = r := by
  have hden' : (0 : ℚ) < den := Nat.cast_pos.2 hden
  obtain ⟨hlo, hhi⟩ := abs_lt.1 h
  have hlo' : 2 * (r * den) < 2 * num + den := by
    have : (r : ℚ) - 1 / 2 < num / den := by linarith
    rw [lt_div_iff₀ hden'] at this
    have hcast : (2 * (r * den) : ℚ) < 2 * num + den := by linarith
    exact_mod_cast hcast
  have hhi' : 2 * num < 2 * (r * den) + den := by
    have : (num : ℚ) / den < r + 1 / 2 := by linarith
    rw [div_lt_iff₀ hden'] at this
    have hcast : (2 * num : ℚ) < 2 * (r * den) + den := by linarith
    exact_mod_cast hcast
  have hdivmod := Nat.div_add_mod' num den
  have hmod := Nat.mod_lt num hden
  have hle : num / den ≤ r := by
    by_contra hgt
    have := Nat.mul_le_mul_right den (Nat.lt_of_not_le hgt)
    rw [Nat.succ_mul] at this
    omega
  have hge : r ≤ num / den + 1 := by
    by_contra hgt
    have := Nat.mul_le_mul_right den (Nat.lt_of_not_le hgt)
    rw [Nat.succ_mul, Nat.succ_mul] at this
    omega
  rw [roundQuotient]
  rcases Nat.eq_or_lt_of_le hle with heq | hlt
  · rw [heq] at hdivmod ⊢
    exact if_pos (by omega)
  · obtain rfl : r = num / den + 1 := le_antisymm hge hlt
    rw [Nat.add_mul, Nat.one_mul] at hlo' hhi'
    rw [if_neg (by omega), if_pos (by omega)]

/-- Rounding moves a quotient by a half at most, so it keeps whole bounds. -/
theorem le_roundQuotient {num den k : ℕ} (hden : 0 < den) (h : (k : ℚ) ≤ num / den) :
    k ≤ roundQuotient num den := by
  have hk : k * den ≤ num := by
    rw [le_div_iff₀ (Nat.cast_pos.2 hden)] at h
    exact_mod_cast h
  have hquotient : k ≤ num / den := (Nat.le_div_iff_mul_le hden).2 hk
  rw [roundQuotient]
  split_ifs <;> omega

private theorem roundQuotient_le {num den k : ℕ} (hden : 0 < den) (h : (num : ℚ) / den ≤ k) :
    roundQuotient num den ≤ k := by
  have hk : num ≤ k * den := by
    rw [div_le_iff₀ (Nat.cast_pos.2 hden)] at h
    exact_mod_cast h
  have hdivmod := Nat.div_add_mod' num den
  rw [roundQuotient]
  rcases Nat.lt_or_ge (num / den) k with hlt | hge
  · split_ifs <;> omega
  · have := Nat.mul_le_mul_right den hge
    rw [if_pos (by omega)]
    exact Nat.le_of_mul_le_mul_right (by omega) hden

/-! ### The leading bit -/

/-- The order of a fraction as `ofRatio` finds it. -/
def order (num den : ℕ) : ℤ :=
  let k : ℤ := (Nat.log2 num : ℤ) - (Nat.log2 den : ℤ)
  if den * Nat.pow 2 k.toNat ≤ num * Nat.pow 2 (-k).toNat then k else k - 1

private theorem hasOrder_order {num den : ℕ} (hnum : num ≠ 0) (hden : den ≠ 0) :
    HasOrder 2 (num / den) (order num den) :=
  hasOrder_div (by decide) (Nat.log2_self_le hnum) Nat.lt_log2_self (Nat.log2_self_le hden)
    Nat.lt_log2_self rfl

/-! ### Fractions -/

private theorem ofRatio_eq {s : Bool} {num den : ℕ} (hnum : num ≠ 0) (hden : den ≠ 0) {k : ℤ}
    (hk : HasOrder 2 (num / den) k) :
    ofRatio s num den =
      pack s (significandAt num den (max minExponent (k - 52))) (max minExponent (k - 52)) := by
  obtain rfl := (hasOrder_order hnum hden).unique (by decide) hk
  have he : (order num den - 52 : ℤ) =
      let k : ℤ := (Nat.log2 num : ℤ) - (Nat.log2 den : ℤ)
      if den * Nat.pow 2 k.toNat ≤ num * Nat.pow 2 (-k).toNat then k - 52 else k - 52 - 1 := by
    dsimp only [order]
    split <;> omega
  rw [ofRatio, if_neg (not_or.2 ⟨hnum, hden⟩), he]

private theorem significandAt_div {num den : ℕ} (e : ℤ) :
    ((num * Nat.pow 2 (-e).toNat : ℕ) : ℚ) / (den * Nat.pow 2 e.toNat : ℕ) =
      (num : ℚ) / den / 2 ^ e := by
  have hpow := zpow_eq_div (b := 2) (by norm_num) e
  rw [Nat.cast_ofNat] at hpow
  rw [hpow, Nat.pow_eq, Nat.pow_eq]
  push_cast
  rw [div_div_div_eq, mul_comm (den : ℚ)]

private theorem significandAt_congr {a b c d : ℕ} (hb : b ≠ 0) (hd : d ≠ 0)
    (h : (a : ℚ) / b = c / d) (e : ℤ) : significandAt a b e = significandAt c d e := by
  have hb' : (b : ℚ) ≠ 0 := Nat.cast_ne_zero.2 hb
  have hd' : (d : ℚ) ≠ 0 := Nat.cast_ne_zero.2 hd
  have hpos (n : ℕ) : 0 < Nat.pow 2 n := Nat.pow_pos (by decide)
  refine roundQuotient_congr (Nat.mul_pos (Nat.pos_of_ne_zero hb) (hpos _))
    (Nat.mul_pos (Nat.pos_of_ne_zero hd) (hpos _)) ?_
  rw [div_eq_div_iff hb' hd'] at h
  have hcross : a * d = c * b := by exact_mod_cast h
  calc a * Nat.pow 2 (-e).toNat * (d * Nat.pow 2 e.toNat)
      = a * d * (Nat.pow 2 (-e).toNat * Nat.pow 2 e.toNat) := by ring
    _ = c * b * (Nat.pow 2 (-e).toNat * Nat.pow 2 e.toNat) := by rw [hcross]
    _ = c * Nat.pow 2 (-e).toNat * (b * Nat.pow 2 e.toNat) := by ring

/-- A fraction is rounded by its value alone. -/
theorem ofRatio_congr {s : Bool} {a b c d : ℕ} (ha : a ≠ 0) (hb : b ≠ 0) (hc : c ≠ 0) (hd : d ≠ 0)
    (h : (a : ℚ) / b = c / d) : ofRatio s a b = ofRatio s c d := by
  have hk := hasOrder_order ha hb
  have hk' : HasOrder 2 (c / d) (order a b) := by rwa [← h]
  rw [ofRatio_eq ha hb hk, ofRatio_eq hc hd hk', significandAt_congr hb hd h]

/-! ### Decimals -/

private theorem scientific_div (c : ℕ) (e : ℤ) :
    ((c * Nat.pow 10 e.toNat : ℕ) : ℚ) / (Nat.pow 10 (-e).toNat : ℕ) = c * 10 ^ e := by
  have h := mul_zpow_eq_div (b := 10) (by norm_num) c e
  rw [Nat.cast_ofNat] at h
  rw [h, Nat.pow_eq, Nat.pow_eq]

/-- A decimal is rounded by its value alone. -/
theorem ofScientific_congr {s : Bool} {c d : ℕ} {e f : ℤ} (h : (c : ℚ) * 10 ^ e = d * 10 ^ f) :
    ofScientific s c e = ofScientific s d f := by
  have hpos (k : ℤ) : (10 : ℚ) ^ k ≠ 0 := zpow_ne_zero k (by norm_num)
  have hzero : c = 0 ↔ d = 0 := by
    constructor
    · rintro rfl
      rw [Nat.cast_zero, zero_mul, eq_comm, mul_eq_zero, Nat.cast_eq_zero] at h
      exact h.resolve_right (hpos f)
    · rintro rfl
      rw [Nat.cast_zero, zero_mul, mul_eq_zero, Nat.cast_eq_zero] at h
      exact h.resolve_right (hpos e)
  by_cases hc : c = 0
  · rw [ofScientific, ofScientific, if_pos hc, if_pos (hzero.1 hc)]
  have hd : ¬d = 0 := fun hd => hc (hzero.2 hd)
  have hne {a : ℕ} (ha : a ≠ 0) (n : ℕ) : a * Nat.pow 10 n ≠ 0 :=
    Nat.mul_ne_zero ha (Nat.pow_pos (by decide)).ne'
  have hden (n : ℕ) : Nat.pow 10 n ≠ 0 := (Nat.pow_pos (by decide)).ne'
  rw [ofScientific, ofScientific, if_neg hc, if_neg hd, Decimal.adjusted_congr hc hd h,
    ofRatio_congr (hne hc _) (hden _) (hne hd _) (hden _)]
  rw [scientific_div, scientific_div, h]

/-! ### The form of a number -/

private theorem inFormat_iff {m : ℕ} {e : ℤ} :
    InFormat m e ↔
      minExponent ≤ e ∧ e ≤ maxExponent ∧ m < 2 ^ 53 ∧ (2 ^ 52 ≤ m ∨ e = minExponent) := by
  rw [InFormat]
  norm_num

section Packing

variable {s : Bool} {m : ℕ} {e : ℤ}

/-- A number of the format is packed as it is. -/
theorem pack_of_inFormat (h : InFormat m e) : pack s m e = .finite s m e h := by
  have hm : m ≠ 0x20000000000000 := h.2.2.1.ne
  rw [pack, if_neg hm]
  exact dif_pos h

/-- A carry goes into the exponent. -/
theorem pack_carry (h : InFormat 0x10000000000000 (e + 1)) :
    pack s 0x20000000000000 e = .finite s 0x10000000000000 (e + 1) h := by
  rw [pack, if_pos rfl]
  exact dif_pos h

variable {num den c : ℕ}

/-- A fraction that is at most a multiple of `2 ^ e` has no greater significand at `e`. -/
theorem significandAt_le (hden : den ≠ 0) (h : (num : ℚ) / den ≤ c * 2 ^ e) :
    significandAt num den e ≤ c := by
  refine roundQuotient_le (Nat.mul_pos (Nat.pos_of_ne_zero hden) (Nat.pow_pos (by decide))) ?_
  rwa [significandAt_div, div_le_iff₀ (zpow_pos (by norm_num) e)]

/-- A fraction that is at least a multiple of `2 ^ e` has no lesser significand at `e`. -/
theorem le_significandAt (hden : den ≠ 0) (h : c * 2 ^ e ≤ (num : ℚ) / den) :
    c ≤ significandAt num den e := by
  refine le_roundQuotient (Nat.mul_pos (Nat.pos_of_ne_zero hden) (Nat.pow_pos (by decide))) ?_
  rwa [significandAt_div, le_div_iff₀ (zpow_pos (by norm_num) e)]

/-- The significand of a fraction at its exponent is one that can be packed. -/
theorem significandAt_bounds (hden : den ≠ 0) {k : ℤ} (hk : HasOrder 2 (num / den) k)
    (he : e = max minExponent (k - 52)) :
    significandAt num den e ≤ 2 ^ 53 ∧ (2 ^ 52 ≤ significandAt num den e ∨ e = minExponent) := by
  rw [HasOrder, Nat.cast_ofNat] at hk
  constructor
  · refine significandAt_le hden ?_
    have hle : (2 : ℚ) ^ (k + 1) ≤ 2 ^ (53 + e) :=
      (zpow_le_zpow_iff_right₀ (by norm_num)).2 (by omega)
    rw [zpow_add₀ (by norm_num) 53] at hle
    exact hk.2.le.trans (by exact_mod_cast hle)
  · rcases le_total (k - 52) minExponent with hle | hge
    · exact .inr (he.trans (max_eq_left hle))
    · refine .inl (le_significandAt hden ?_)
      have hle : (2 : ℚ) ^ (52 + e) ≤ 2 ^ k := by
        rw [he, max_eq_right hge]
        exact (zpow_le_zpow_iff_right₀ (by norm_num)).2 (by omega)
      rw [zpow_add₀ (by norm_num) 52] at hle
      exact le_trans (by exact_mod_cast hle) hk.1

/-- A value up to the greatest number has no higher order than that number. -/
private theorem order_le_of_le_greatest {y : ℚ} {k : ℤ} (hk : HasOrder 2 y k)
    (h : y ≤ (2 ^ 53 - 1 : ℕ) * 2 ^ maxExponent) : k ≤ 1023 := by
  have hpow : (2 : ℚ) ^ ((53 : ℕ) : ℤ) * 2 ^ maxExponent = ((2 : ℕ) : ℚ) ^ ((1023 : ℤ) + 1) := by
    rw [← zpow_add₀ (by norm_num), Nat.cast_ofNat (R := ℚ)]
    exact congrArg ((2 : ℚ) ^ ·) (by decide)
  refine le_of_zpow_le (b := 2) (by decide) hk.1 (lt_of_le_of_lt h ?_)
  rw [← hpow, zpow_natCast]
  exact mul_lt_mul_of_pos_right (by norm_num) (zpow_pos (by norm_num) _)

/-- A fraction up to the greatest number of the format is rounded to a number, not to an
infinity. -/
theorem exists_ofRatio_eq_finite (s : Bool) (hden : den ≠ 0)
    (h : (num : ℚ) / den ≤ (2 ^ 53 - 1 : ℕ) * 2 ^ maxExponent) :
    ∃ m e h, ofRatio s num den = .finite s m e h := by
  by_cases hnum : num = 0
  · rw [ofRatio, if_pos (.inl hnum)]
    exact ⟨0, minExponent, _, rfl⟩
  have hk := hasOrder_order hnum hden
  rw [ofRatio_eq hnum hden hk]
  generalize hexponent : max minExponent (order num den - 52) = e
  obtain ⟨hm, hlow⟩ := significandAt_bounds hden hk hexponent.symm
  have hmin : minExponent ≤ e := hexponent ▸ le_max_left _ _
  have hmax : e ≤ maxExponent := by
    have horder := order_le_of_le_greatest hk h
    have hbounds : minExponent = -1074 ∧ maxExponent = 971 := ⟨rfl, rfl⟩
    omega
  rcases hm.eq_or_lt with hcarry | hlt
  · -- The greatest number and all below it have no carry at the greatest exponent.
    have hne : e ≠ maxExponent := by
      rintro rfl
      have hle := significandAt_le hden h
      omega
    have hvalid : InFormat 0x10000000000000 (e + 1) :=
      inFormat_iff.2 ⟨by omega, by omega, by decide, .inl (by decide)⟩
    rw [hcarry]
    exact ⟨_, _, hvalid, pack_carry hvalid⟩
  · have hvalid : InFormat (significandAt num den e) e := inFormat_iff.2 ⟨hmin, hmax, hlt, hlow⟩
    exact ⟨_, _, hvalid, pack_of_inFormat hvalid⟩

end Packing

/-! ### Values near a number -/

section Near

variable {s : Bool} {m : ℕ} {e : ℤ}

private theorem two_pow_54 : (2 : ℚ) ^ 54 = 18014398509481984 := by norm_num

private theorem le_of_significand (hm : m < 2 ^ 53) : (m : ℚ) ≤ 9007199254740991 := by
  exact_mod_cast Nat.le_of_lt_succ hm

/-- A number near `m · 2 ^ e` has no higher order than the numbers with the exponent `e`. -/
theorem order_le_of_near {y : ℚ} {k : ℤ} (hk : HasOrder 2 y k) (hm : m < 2 ^ 53)
    (h : |y / 2 ^ e - m| < m / 2 ^ 54) : k - e ≤ 52 := by
  have hpos : (0 : ℚ) < 2 ^ e := zpow_pos (by norm_num) e
  rw [HasOrder, Nat.cast_ofNat] at hk
  have hm' := le_of_significand hm
  obtain ⟨-, hhi⟩ := abs_lt.1 h
  rw [two_pow_54] at hhi
  have hklo : (2 : ℚ) ^ (k - e) ≤ y / 2 ^ e := by
    rw [zpow_sub₀ (by norm_num)]
    exact div_le_div_of_nonneg_right hk.1 hpos.le
  refine le_of_zpow_le (b := 2) (by norm_num) hklo ?_
  have h53 : ((2 : ℕ) : ℚ) ^ ((52 : ℤ) + 1) = 9007199254740992 := by norm_num
  rw [h53]
  linarith

/-- A number near `m · 2 ^ e` of a lower order lies just below the least number with the exponent
`e`. -/
theorem eq_of_near_of_order_lt {y : ℚ} {k : ℤ} (hk : HasOrder 2 y k) (hm : 2 ^ 52 ≤ m)
    (hlt : k - e < 52) (h : |y / 2 ^ e - m| < m / 2 ^ 54) : m = 2 ^ 52 ∧ k - e = 51 := by
  have hpos : (0 : ℚ) < 2 ^ e := zpow_pos (by norm_num) e
  rw [HasOrder, Nat.cast_ofNat] at hk
  have hm' : (4503599627370496 : ℚ) ≤ m := by exact_mod_cast hm
  obtain ⟨hlo, -⟩ := abs_lt.1 h
  rw [two_pow_54] at hlo
  have hkhi : y / 2 ^ e < (2 : ℚ) ^ (k - e + 1) := by
    have heq : k - e + 1 = k + 1 - e := by ring
    rw [heq, zpow_sub₀ (by norm_num)]
    exact div_lt_div_of_pos_right hk.2 hpos
  have hlower : 51 ≤ k - e := by
    refine le_of_zpow_le (b := 2) (x := y / 2 ^ e) (by norm_num) ?_ hkhi
    have h51 : ((2 : ℕ) : ℚ) ^ (51 : ℤ) = 2251799813685248 := by norm_num
    rw [h51]
    linarith
  have hk51 : k - e = 51 := by omega
  refine ⟨?_, hk51⟩
  by_contra hne
  have hgt : (4503599627370497 : ℚ) ≤ m := by exact_mod_cast (by omega : 2 ^ 52 + 1 ≤ m)
  have h52 : (2 : ℚ) ^ ((51 : ℤ) + 1) = 4503599627370496 := by norm_num
  rw [hk51, h52] at hkhi
  linarith

variable {num den : ℕ}

private theorem significandAt_of_near (hden : den ≠ 0) (hm : m < 2 ^ 53)
    (h : |(num : ℚ) / den / 2 ^ e - m| < m / 2 ^ 54) : significandAt num den e = m := by
  have hden' : 0 < den * Nat.pow 2 e.toNat :=
    Nat.mul_pos (Nat.pos_of_ne_zero hden) (Nat.pow_pos (by decide))
  refine roundQuotient_eq_of_near hden' ?_
  rw [significandAt_div]
  refine h.trans ?_
  have hm' := le_of_significand hm
  rw [two_pow_54]
  linarith

/-- With the exponent before, the significand of a number just below `2 ^ 52 · 2 ^ e` is rounded up
to `2 ^ 53`. -/
theorem significandAt_pred_of_near (hden : den ≠ 0)
    (h : |(num : ℚ) / den / 2 ^ e - (2 ^ 52 : ℕ)| < (2 ^ 52 : ℕ) / 2 ^ 54) :
    significandAt num den (e - 1) = 2 ^ 53 := by
  have hden' : 0 < den * Nat.pow 2 (e - 1).toNat :=
    Nat.mul_pos (Nat.pos_of_ne_zero hden) (Nat.pow_pos (by decide))
  refine roundQuotient_eq_of_near hden' ?_
  have hdouble : (num : ℚ) / den / 2 ^ (e - 1) = 2 * ((num : ℚ) / den / 2 ^ e) := by
    rw [zpow_sub_one₀ (by norm_num)]
    field_simp
  rw [significandAt_div, hdouble]
  generalize (num : ℚ) / den / 2 ^ e = x at h
  have habs : 2 * x - ((2 ^ 53 : ℕ) : ℚ) = 2 * (x - ((2 ^ 52 : ℕ) : ℚ)) := by
    push_cast
    ring
  rw [habs, abs_mul]
  norm_num at h ⊢
  linarith

/-- A fraction near a number of the format is rounded to it. -/
theorem ofRatio_eq_of_near (hnum : num ≠ 0) (hden : den ≠ 0)
    (hvalid : InFormat m e) (h : |(num : ℚ) / den / 2 ^ e - m| < m / 2 ^ 54) :
    ofRatio s num den = .finite s m e hvalid := by
  obtain ⟨hmin, hmax, hm, hlow⟩ := inFormat_iff.1 hvalid
  have hk := hasOrder_order hnum hden
  rw [ofRatio_eq hnum hden hk]
  have hupper := order_le_of_near hk hm h
  by_cases hexponent : max minExponent (order num den - 52) = e
  · rw [hexponent, significandAt_of_near hden hm h]
    exact pack_of_inFormat hvalid
  · have hm52 : 2 ^ 52 ≤ m := hlow.resolve_right fun heq => hexponent (by omega)
    obtain ⟨rfl, hk51⟩ := eq_of_near_of_order_lt hk hm52 (by omega) h
    have hbelow : max minExponent (order num den - 52) = e - 1 := by omega
    -- Packing carries the significand over into the exponent.
    rw [hbelow, significandAt_pred_of_near hden h]
    obtain ⟨e, rfl⟩ : ∃ e', e = e' + 1 := ⟨e - 1, (sub_add_cancel e 1).symm⟩
    rw [add_sub_cancel_right]
    exact pack_carry hvalid

/-- The range of the format lies between two powers of ten. -/
theorem zpow_maxExponent_lt : (2 : ℚ) ^ 54 * 2 ^ maxExponent < (10 : ℕ) ^ ((400 : ℤ) + 1) := by
  have h : 2 ^ 54 * 2 ^ 971 < 10 ^ 401 := by decide +kernel
  show (2 : ℚ) ^ 54 * 2 ^ ((971 : ℕ) : ℤ) < ((10 : ℕ) : ℚ) ^ ((401 : ℕ) : ℤ)
  rw [zpow_natCast, zpow_natCast]
  exact_mod_cast h

/-- The 400th negative power of ten is at most half the least number of the format. -/
theorem zpow_le_half_least : ((10 : ℕ) : ℚ) ^ (-400 : ℤ) ≤ 1 / 2 * 2 ^ minExponent := by
  have h : 2 * 2 ^ 1074 ≤ 10 ^ 400 := by decide +kernel
  show ((10 : ℕ) : ℚ) ^ (-((400 : ℕ) : ℤ)) ≤ 1 / 2 * 2 ^ (-((1074 : ℕ) : ℤ))
  rw [zpow_neg, zpow_neg, zpow_natCast, zpow_natCast, one_div, ← mul_inv]
  exact inv_anti₀ (by positivity) (by exact_mod_cast h)

/-- A decimal near a number of the format is rounded to it. -/
theorem ofScientific_eq_of_near {c : ℕ} {g : ℤ} (hm0 : m ≠ 0)
    (hvalid : InFormat m e) (h : |(c : ℚ) * 10 ^ g / 2 ^ e - m| < m / 2 ^ 54) :
    ofScientific s c g = .finite s m e hvalid := by
  have hpos : (0 : ℚ) < 2 ^ e := zpow_pos (by norm_num) e
  have hm1 : (1 : ℚ) ≤ m := by exact_mod_cast Nat.pos_of_ne_zero hm0
  obtain ⟨hmin, hmax, hm, -⟩ := inFormat_iff.1 hvalid
  have hm2 : (m : ℚ) ≤ 2 ^ 53 := by exact_mod_cast hm.le
  obtain ⟨hlo, hhi⟩ := abs_lt.1 h
  rw [two_pow_54] at hlo hhi
  set x : ℚ := (c : ℚ) * 10 ^ g / 2 ^ e with hx
  have hvalue : (c : ℚ) * 10 ^ g = x * 2 ^ e := by rw [hx, div_mul_cancel₀ _ hpos.ne']
  -- The value lies in the range for which the power of ten is computed.
  have hc : c ≠ 0 := by
    rintro rfl
    rw [Nat.cast_zero, zero_mul, zero_div] at hx
    linarith
  have horder := Decimal.hasOrder_adjusted hc g
  rw [HasOrder, Nat.cast_ofNat, hvalue] at horder
  have hlarge : ¬400 < Decimal.adjusted c g := by
    refine not_lt.2 (le_of_zpow_le (b := 10) (x := x * 2 ^ e) (by decide) horder.1 ?_)
    calc x * 2 ^ e < 2 ^ 54 * 2 ^ e := mul_lt_mul_of_pos_right (by rw [two_pow_54]; linarith) hpos
      _ ≤ 2 ^ 54 * 2 ^ maxExponent :=
          mul_le_mul_of_nonneg_left ((zpow_le_zpow_iff_right₀ (by norm_num)).2 hmax) (by norm_num)
      _ < ((10 : ℕ) : ℚ) ^ ((400 : ℤ) + 1) := zpow_maxExponent_lt
  have hsmall : ¬Decimal.adjusted c g < -400 := by
    refine not_lt.2 (le_of_zpow_le (b := 10) (x := x * 2 ^ e) (by decide) ?_ horder.2)
    calc ((10 : ℕ) : ℚ) ^ (-400 : ℤ) ≤ 1 / 2 * 2 ^ minExponent := zpow_le_half_least
      _ ≤ 1 / 2 * 2 ^ e :=
          mul_le_mul_of_nonneg_left ((zpow_le_zpow_iff_right₀ (by norm_num)).2 hmin) (by norm_num)
      _ ≤ x * 2 ^ e := mul_le_mul_of_nonneg_right (by linarith) hpos.le
  have hpow (n : ℕ) : Nat.pow 10 n ≠ 0 := (Nat.pow_pos (by decide)).ne'
  rw [ofScientific, if_neg hc]
  dsimp only
  rw [if_neg hlarge, if_neg hsmall]
  refine ofRatio_eq_of_near (Nat.mul_ne_zero hc (hpow _)) (hpow _) hvalid ?_
  rwa [scientific_div]

end Near

/-! ### Signs -/

/-- A number with another sign. -/
def withSign (s : Bool) : Binary64 → Binary64
  | .finite _ m e h => .finite s m e h
  | .infinity _ => .infinity s
  | .nan => .nan

private theorem pack_sign (s : Bool) (m : ℕ) (e : ℤ) :
    pack s m e = (pack false m e).withSign s := by
  rw [pack, pack]
  generalize (if m = 0x20000000000000 then (0x10000000000000, e + 1) else (m, e)) = parts
  dsimp only
  split <;> rfl

private theorem ofRatio_sign (s : Bool) (num den : ℕ) :
    ofRatio s num den = (ofRatio false num den).withSign s := by
  by_cases h : num = 0 ∨ den = 0
  · rw [ofRatio, ofRatio, if_pos h, if_pos h]
    rfl
  · obtain ⟨hnum, hden⟩ := not_or.1 h
    have hk := hasOrder_order hnum hden
    rw [ofRatio_eq hnum hden hk, ofRatio_eq hnum hden hk, pack_sign]

/-- The sign of a decimal is that of the number that it is rounded to. -/
theorem ofScientific_sign (s : Bool) (c : ℕ) (g : ℤ) :
    ofScientific s c g = (ofScientific false c g).withSign s := by
  rw [ofScientific, ofScientific, ofRatio_sign s]
  dsimp only
  split_ifs <;> rfl

end LedgerTags.Binary64

import LedgerTags.Decimal.Basic
import Mathlib.Algebra.Order.Field.Basic
import Mathlib.Data.Rat.Cast.Order
import Mathlib.Tactic.FieldSimp
import Mathlib.Tactic.Positivity
import Mathlib.Tactic.Ring
import Mathlib.Tactic.Zify

/-!
# Powers and orders of magnitude

Numbers are compared and rounded on whole numbers: a power with an exponent of either sign is split
into a factor on the one side and one on the other. Here the two sides are taken together again as a
rational number, and a number has one order of magnitude only (`HasOrder.unique`).
-/

namespace LedgerTags

variable {b : ℕ}

/-- A power that is split by the sign of its exponent. -/
theorem zpow_eq_div (hb : 0 < b) (k : ℤ) :
    (b : ℚ) ^ k = (b : ℚ) ^ k.toNat / (b : ℚ) ^ (-k).toNat := by
  have hne : (b : ℚ) ≠ 0 := Nat.cast_ne_zero.2 hb.ne'
  rw [eq_div_iff (pow_ne_zero _ hne), ← zpow_natCast, ← zpow_natCast, ← zpow_add₀ hne]
  congr 1
  omega

private theorem zpow_le_div_iff (hb : 0 < b) (k : ℤ) (num : ℕ) {den : ℕ} (hden : 0 < den) :
    (b : ℚ) ^ k ≤ num / den ↔ den * b ^ k.toNat ≤ num * b ^ (-k).toNat := by
  have hpos (n : ℕ) : (0 : ℚ) < (b : ℚ) ^ n := pow_pos (Nat.cast_pos.2 hb) n
  have hden' : (0 : ℚ) < den := Nat.cast_pos.2 hden
  rw [zpow_eq_div hb, div_le_div_iff₀ (hpos _) hden', mul_comm]
  exact_mod_cast Iff.rfl

/-- A number with a power of any exponent is a fraction of two natural numbers. -/
theorem mul_zpow_eq_div (hb : 0 < b) (c : ℕ) (e : ℤ) :
    (c : ℚ) * (b : ℚ) ^ e = (c * b ^ e.toNat : ℕ) / (b ^ (-e).toNat : ℕ) := by
  rw [zpow_eq_div hb, mul_div_assoc']
  push_cast
  rfl

/-- Two powers around a number are in order. -/
theorem le_of_zpow_le (hb : 1 < b) {j k : ℤ} {x : ℚ} (hj : (b : ℚ) ^ j ≤ x)
    (hk : x < (b : ℚ) ^ (k + 1)) : j ≤ k :=
  Int.lt_add_one_iff.1 ((zpow_lt_zpow_iff_right₀ (Nat.one_lt_cast.2 hb)).1 (hj.trans_lt hk))

/-- A number lies between two neighbouring powers. -/
def HasOrder (b : ℕ) (x : ℚ) (k : ℤ) : Prop := (b : ℚ) ^ k ≤ x ∧ x < (b : ℚ) ^ (k + 1)

/-- A number has at most one order. -/
theorem HasOrder.unique (hb : 1 < b) {x : ℚ} {j k : ℤ} (hj : HasOrder b x j)
    (hk : HasOrder b x k) : j = k :=
  le_antisymm (le_of_zpow_le hb hj.1 hk.2) (le_of_zpow_le hb hk.1 hj.2)

/-- The order of a quotient is the difference of the orders, or one less. -/
theorem hasOrder_div (hb : 1 < b) {num den p q : ℕ} (hp : b ^ p ≤ num) (hp' : num < b ^ (p + 1))
    (hq : b ^ q ≤ den) (hq' : den < b ^ (q + 1)) {k : ℤ} (hk : k = p - q) :
    HasOrder b (num / den)
      (if den * b ^ k.toNat ≤ num * b ^ (-k).toNat then k else k - 1) := by
  have hne : (b : ℚ) ≠ 0 := Nat.cast_ne_zero.2 (by omega)
  have hpos (j : ℤ) : (0 : ℚ) < (b : ℚ) ^ j := zpow_pos (Nat.cast_pos.2 (by omega)) j
  have hden : 0 < den := (Nat.pow_pos (by omega)).trans_le hq
  have hden' : (0 : ℚ) < den := Nat.cast_pos.2 hden
  have hcast (n : ℕ) : ((b ^ n : ℕ) : ℚ) = (b : ℚ) ^ (n : ℤ) := by
    rw [zpow_natCast]
    push_cast
    rfl
  have hp₁ : (b : ℚ) ^ (p : ℤ) ≤ num := hcast p ▸ Nat.cast_le.2 hp
  have hp₂ : (num : ℚ) < (b : ℚ) ^ ((p + 1 : ℕ) : ℤ) := hcast (p + 1) ▸ Nat.cast_lt.2 hp'
  have hq₁ : (b : ℚ) ^ (q : ℤ) ≤ den := hcast q ▸ Nat.cast_le.2 hq
  have hq₂ : (den : ℚ) < (b : ℚ) ^ ((q + 1 : ℕ) : ℤ) := hcast (q + 1) ▸ Nat.cast_lt.2 hq'
  have hbelow : (b : ℚ) ^ (k - 1) ≤ num / den := by
    rw [le_div_iff₀ hden']
    calc (b : ℚ) ^ (k - 1) * den ≤ (b : ℚ) ^ (k - 1) * (b : ℚ) ^ ((q + 1 : ℕ) : ℤ) :=
          mul_le_mul_of_nonneg_left hq₂.le (hpos _).le
      _ = (b : ℚ) ^ (p : ℤ) := by
          rw [← zpow_add₀ hne]
          congr 1
          omega
      _ ≤ num := hp₁
  have habove : (num : ℚ) / den < (b : ℚ) ^ (k + 1) := by
    rw [div_lt_iff₀ hden']
    calc (num : ℚ) < (b : ℚ) ^ ((p + 1 : ℕ) : ℤ) := hp₂
      _ = (b : ℚ) ^ (k + 1) * (b : ℚ) ^ (q : ℤ) := by
          rw [← zpow_add₀ hne]
          congr 1
          omega
      _ ≤ (b : ℚ) ^ (k + 1) * den := mul_le_mul_of_nonneg_left hq₁ (hpos _).le
  have hiff := zpow_le_div_iff (b := b) (by omega) k num hden
  split
  · next hlarge => exact ⟨hiff.2 hlarge, habove⟩
  · next hsmall =>
    refine ⟨hbelow, ?_⟩
    rw [sub_add_cancel]
    exact lt_of_not_ge fun hge => hsmall (hiff.1 hge)

namespace Decimal

/-! ### Decimal digits -/

/-- A number is less than the power of ten with as many zeros as it has digits. -/
theorem lt_pow_digitCount (n : ℕ) : n < 10 ^ digitCount n := by
  induction n using Nat.strongRecOn with
  | _ n ih =>
    rcases Nat.lt_or_ge n 10 with hlt | hle
    · rwa [digitCount_of_lt hlt, pow_one]
    · have hstep := ih (n / 10) (by omega)
      rw [digitCount_of_le hle, pow_succ]
      omega

/-- Every number has a digit. -/
theorem digitCount_pos (n : ℕ) : 0 < digitCount n := by
  by_contra h
  have hlt := lt_pow_digitCount n
  obtain rfl : n = 0 := by
    rw [Nat.eq_zero_of_not_pos h] at hlt
    omega
  exact h (by decide)

/-- The power of ten with as many digits as a number is at most that number, unless the number is
zero. -/
theorem pow_digitCount_le {n : ℕ} (h : n ≠ 0) : 10 ^ (digitCount n - 1) ≤ n := by
  induction n using Nat.strongRecOn with
  | _ n ih =>
    rcases Nat.lt_or_ge n 10 with hlt | hle
    · rw [digitCount_of_lt hlt]
      exact Nat.pos_of_ne_zero h
    · have hstep := ih (n / 10) (by omega) (by omega)
      rw [digitCount_of_le hle, Nat.add_sub_cancel]
      obtain ⟨k, hk⟩ : ∃ k, digitCount (n / 10) = k + 1 :=
        ⟨_, (Nat.sub_add_cancel (digitCount_pos _)).symm⟩
      rw [hk, Nat.add_sub_cancel] at hstep
      rw [hk, pow_succ]
      omega

/-- A number below a power of ten has no more digits than that power has zeros. -/
theorem digitCount_le {n k : ℕ} (hpos : 0 < k) (h : n < 10 ^ k) : digitCount n ≤ k := by
  by_contra hlt
  by_cases hzero : n = 0
  · rw [hzero, digitCount_of_lt (by decide)] at hlt
    omega
  · have hle := pow_digitCount_le hzero
    have hpow : 10 ^ k ≤ 10 ^ (digitCount n - 1) := Nat.pow_le_pow_right (by decide) (by omega)
    omega

/-- The exponent of the leading digit is the order of magnitude. -/
theorem hasOrder_adjusted {c : ℕ} (hc : c ≠ 0) (e : ℤ) :
    HasOrder 10 (c * 10 ^ e) (adjusted c e) := by
  have hten : ((10 : ℕ) : ℚ) ≠ 0 := by norm_num
  have hpos : (0 : ℚ) < 10 ^ e := zpow_pos (by norm_num) e
  have hcount := digitCount_pos c
  constructor
  · rw [adjusted, add_comm, zpow_add₀ hten, zpow_natCast]
    exact mul_le_mul_of_nonneg_right (by exact_mod_cast pow_digitCount_le hc) hpos.le
  · have hsucc : adjusted c e + 1 = digitCount c + e := by
      rw [adjusted]
      omega
    rw [hsucc, zpow_add₀ hten, zpow_natCast]
    exact mul_lt_mul_of_pos_right (by exact_mod_cast lt_pow_digitCount c) hpos

/-- The exponent of the leading digit depends on the value alone. -/
theorem adjusted_congr {c d : ℕ} {e f : ℤ} (hc : c ≠ 0) (hd : d ≠ 0)
    (h : (c : ℚ) * 10 ^ e = d * 10 ^ f) : adjusted c e = adjusted d f :=
  (hasOrder_adjusted hc e).unique (by decide) (h ▸ hasOrder_adjusted hd f)

end Decimal

end LedgerTags

import LedgerTags.Proofs.Magnitudes
import LedgerTags.Value.Order
import Mathlib.Algebra.Order.Ring.Rat
import Mathlib.Order.Compare
import Mathlib.Order.WithBot

/-!
# Numbers by their exact value

Numbers of all kinds have an exact value on the rational line with both of its ends, a NaN none
(`Value.quantity?`). Decimals are compared by it, whatever their coefficients and exponents are
(`Decimal.compare?_compares`), and so are numbers of different kinds (`Value.test_of_quantity?`).
-/

namespace LedgerTags

/-- A place on the rational line with both of its ends. -/
abbrev Quantity := WithBot (WithTop ℚ)

namespace Quantity

/-- A rational number. -/
def ofRat (q : ℚ) : Quantity := ((q : WithTop ℚ) : WithBot (WithTop ℚ))

/-- The lower end of the line, or the upper one. -/
def infinity (negative : Bool) : Quantity := if negative then ⊥ else ⊤

/-- A number with a sign. -/
def signed (negative : Bool) (q : ℚ) : ℚ := if negative then -q else q

/-- Numbers are in their own order. -/
theorem ofRat_lt {p q : ℚ} : ofRat p < ofRat q ↔ p < q := by
  rw [ofRat, ofRat, WithBot.coe_lt_coe, WithTop.coe_lt_coe]

private theorem ofRat_lt_top (q : ℚ) : ofRat q < infinity false :=
  WithBot.coe_lt_coe.2 (WithTop.coe_lt_top q)

/-- Negative infinity is below every number. -/
theorem bot_lt_ofRat (q : ℚ) : infinity true < ofRat q := WithBot.bot_lt_coe _

end Quantity

open Quantity

/-- What a comparison asks of two numbers. -/
def Comparison.Relates (op : Comparison) (p q : Quantity) : Prop :=
  match op with
  | .lt => p < q
  | .le => p ≤ q
  | .gt => q < p
  | .ge => q ≤ p

private theorem Comparison.holds_iff {op : Comparison} {o : Ordering} {p q : Quantity}
    (h : o.Compares p q) : op.holds o = true ↔ op.Relates p q := by
  cases op with
  | lt => exact beq_iff_eq.trans h.eq_lt
  | le => exact bne_iff_ne.trans h.ne_gt
  | gt => exact beq_iff_eq.trans h.eq_gt
  | ge => exact bne_iff_ne.trans h.ne_lt

/-- The exact value of a decimal. -/
def Decimal.quantity? : Decimal → Option Quantity
  | .finite s c e => some (ofRat (signed s (c * 10 ^ e)))
  | .infinity s => some (Quantity.infinity s)
  | .nan .. => none

/-- The exact value of a binary number. -/
def Binary64.quantity? : Binary64 → Option Quantity
  | .finite s m e _ => some (ofRat (signed s (m * 2 ^ e)))
  | .infinity s => some (Quantity.infinity s)
  | .nan => none

/-- The exact value of a number of any kind. -/
def Value.quantity? : Value → Option Quantity
  | .bool b => some (ofRat b.toNat)
  | .int n => some (ofRat n)
  | .float x => x.quantity?
  | .decimal x => x.quantity?
  | _ => none

namespace Decimal

/-- A whole number stands for itself. -/
theorem quantity?_ofInt (n : ℤ) : (ofInt n).quantity? = some (ofRat n) := by
  rw [ofInt, quantity?, zpow_zero, mul_one]
  refine congrArg (fun q => some (ofRat q)) ?_
  rw [signed]
  split
  · next h =>
    have habs : (n.natAbs : ℤ) = -n := by
      have := of_decide_eq_true h
      omega
    have hcast : ((n.natAbs : ℤ) : ℚ) = -(n : ℚ) := by
      rw [habs]
      push_cast
      rfl
    rw [Int.cast_natCast] at hcast
    rw [hcast, neg_neg]
  · next h =>
    have habs : (n.natAbs : ℤ) = n := by
      have := mt decide_eq_true h
      omega
    rw [← Int.cast_natCast, habs]

/-- The decimal of a binary number has the same value. -/
theorem quantity?_toDecimal (x : Binary64) : x.toDecimal.quantity? = x.quantity? := by
  cases x with
  | infinity s => rfl
  | nan => rfl
  | finite s m e h =>
    rw [Binary64.toDecimal, Binary64.quantity?]
    split
    · next h =>
      obtain ⟨k, rfl⟩ : ∃ k : ℕ, e = k := ⟨e.toNat, (Int.toNat_of_nonneg h).symm⟩
      rw [quantity?, zpow_zero, mul_one, zpow_natCast, Int.toNat_natCast, Nat.pow_eq,
        Nat.cast_mul, Nat.cast_pow]
      rfl
    · next h =>
      obtain ⟨k, rfl⟩ : ∃ k : ℕ, e = -k := ⟨(-e).toNat, by omega⟩
      -- A half is five tenths.
      have hpow : ((m * Nat.pow 5 (- -(k : ℤ)).toNat : ℕ) : ℚ) * 10 ^ (-(k : ℤ)) =
          m * 2 ^ (-(k : ℤ)) := by
        have hten : (10 : ℚ) ^ k = 5 ^ k * 2 ^ k := by rw [← mul_pow]; norm_num
        rw [neg_neg, Int.toNat_natCast, Nat.pow_eq, Nat.cast_mul, Nat.cast_pow, zpow_neg,
          zpow_natCast, zpow_neg, zpow_natCast, hten]
        push_cast
        field_simp
      rw [quantity?, hpow]

/-! ### Comparison -/

/-- A coefficient other than zero has a positive value. -/
theorem pos_of_ne_zero {c : ℕ} (hc : c ≠ 0) (e : ℤ) : (0 : ℚ) < c * 10 ^ e :=
  mul_pos (Nat.cast_pos.2 (Nat.pos_of_ne_zero hc)) (zpow_pos (by norm_num) e)

/-- A number with a leading digit at a lower place is smaller. -/
theorem lt_of_adjusted_lt {c d : ℕ} {e f : ℤ} (hc : c ≠ 0) (hd : d ≠ 0)
    (h : adjusted c e < adjusted d f) : (c : ℚ) * 10 ^ e < d * 10 ^ f := by
  have hpow : ((10 : ℕ) : ℚ) ^ (adjusted c e + 1) ≤ ((10 : ℕ) : ℚ) ^ adjusted d f :=
    zpow_le_zpow_right₀ (by norm_num) (by omega)
  calc (c : ℚ) * 10 ^ e < ((10 : ℕ) : ℚ) ^ (adjusted c e + 1) := (hasOrder_adjusted hc e).2
    _ ≤ ((10 : ℕ) : ℚ) ^ adjusted d f := hpow
    _ ≤ d * 10 ^ f := (hasOrder_adjusted hd f).1

/-- A value can be given with any lower exponent: the coefficient grows by the power of ten between
them. -/
theorem mul_zpow_eq (c : ℕ) (e f : ℤ) :
    (c : ℚ) * 10 ^ e = ((c * Nat.pow 10 (e - f).toNat : ℕ) : ℚ) * 10 ^ min e f := by
  have hexp : e = ((e - f).toNat : ℤ) + min e f := by omega
  rw [Nat.pow_eq, Nat.cast_mul, Nat.cast_pow, mul_assoc]
  nth_rewrite 1 [hexp]
  rw [zpow_add₀ (by norm_num), zpow_natCast]
  rfl

private theorem compares_compare (a b : ℕ) : (compare a b).Compares a b := by
  cases h : compare a b with
  | lt => exact compare_lt_iff_lt.1 h
  | eq => exact compare_eq_iff_eq.1 h
  | gt => exact compare_gt_iff_gt.1 h

private theorem compares_map {α β : Type} [LT α] [LT β] {g : α → β} (hg : ∀ a b, a < b → g a < g b)
    {o : Ordering} {a b : α} (h : o.Compares a b) : o.Compares (g a) (g b) := by
  cases o with
  | lt => exact hg a b h
  | eq => exact congrArg g h
  | gt => exact hg b a h

private theorem compares_neg {p q : ℚ} {o : Ordering} (h : o.Compares p q) :
    o.swap.Compares (-p) (-q) := by
  cases o with
  | lt => exact neg_lt_neg h
  | eq => exact congrArg Neg.neg h
  | gt => exact neg_lt_neg h

private theorem compareMagnitude_compares (c : ℕ) (e : ℤ) (d : ℕ) (f : ℤ) :
    (compareMagnitude c e d f).Compares ((c : ℚ) * 10 ^ e) (d * 10 ^ f) := by
  rw [compareMagnitude]
  split
  · next hc =>
    subst hc
    split
    · next hd =>
      subst hd
      show ((0 : ℕ) : ℚ) * 10 ^ e = (0 : ℕ) * 10 ^ f
      simp
    · next hd =>
      show ((0 : ℕ) : ℚ) * 10 ^ e < d * 10 ^ f
      rw [Nat.cast_zero, zero_mul]
      exact pos_of_ne_zero hd f
  · next hc =>
    split
    · next hd =>
      subst hd
      show ((0 : ℕ) : ℚ) * 10 ^ f < c * 10 ^ e
      rw [Nat.cast_zero, zero_mul]
      exact pos_of_ne_zero hc e
    · next hd =>
      split
      · next h => exact lt_of_adjusted_lt hc hd (compare_lt_iff_lt.1 h)
      · next h => exact lt_of_adjusted_lt hd hc (compare_gt_iff_gt.1 h)
      -- With leading digits at one place both are counted in units of the lesser power.
      · have hpos : (0 : ℚ) < 10 ^ min e f := zpow_pos (by norm_num) _
        rw [mul_zpow_eq c e f, mul_zpow_eq d f e, min_comm f e]
        exact compares_map (fun _ _ h => mul_lt_mul_of_pos_right (Nat.cast_lt.2 h) hpos)
          (compares_compare _ _)

private theorem compareFinite_compares (s : Bool) (c : ℕ) (e : ℤ) (t : Bool) (d : ℕ) (f : ℤ) :
    (compareFinite s c e t d f).Compares (signed s (c * 10 ^ e)) (signed t (d * 10 ^ f)) := by
  -- A sign matters only on a number that is not zero.
  have hsigned (s : Bool) (c : ℕ) (e : ℤ) :
      signed s ((c : ℚ) * 10 ^ e) = signed (s && c != 0) (c * 10 ^ e) := by
    by_cases hc : c = 0
    · subst hc
      cases s <;> simp [signed]
    · have hne : (c != 0) = true := bne_iff_ne.2 hc
      rw [hne, Bool.and_true]
  have hneg {s : Bool} {c : ℕ} (h : (s && c != 0) = true) (e : ℤ) : -((c : ℚ) * 10 ^ e) < 0 :=
    neg_lt_zero.2 (pos_of_ne_zero (bne_iff_ne.1 ((Bool.and_eq_true_iff).1 h).2) e)
  have hnonneg (c : ℕ) (e : ℤ) : (0 : ℚ) ≤ c * 10 ^ e :=
    mul_nonneg (Nat.cast_nonneg c) (zpow_pos (by norm_num) e).le
  have hmagnitude := compareMagnitude_compares c e d f
  rw [hsigned s c e, hsigned t d f, compareFinite]
  cases hs : s && c != 0 <;> cases ht : t && d != 0
  · exact hmagnitude
  · exact (hneg ht f).trans_le (hnonneg c e)
  · exact (hneg hs e).trans_le (hnonneg d f)
  · exact compares_neg hmagnitude

/-- Decimals are compared by their exact values. -/
theorem compare?_compares {x y : Decimal} {p q : Quantity} (hx : x.quantity? = some p)
    (hy : y.quantity? = some q) : ∃ o, compare? x y = some o ∧ o.Compares p q := by
  cases x with
  | nan => cases hx
  | infinity s =>
    cases y with
    | nan => cases hy
    | infinity t =>
      cases hx
      cases hy
      refine ⟨_, rfl, ?_⟩
      cases s <;> cases t
      · rfl
      · exact WithBot.bot_lt_coe _
      · exact WithBot.bot_lt_coe _
      · rfl
    | finite t d f =>
      cases hx
      cases hy
      refine ⟨_, rfl, ?_⟩
      cases s
      · exact ofRat_lt_top _
      · exact bot_lt_ofRat _
  | finite s c e =>
    cases y with
    | nan => cases hy
    | infinity t =>
      cases hx
      cases hy
      refine ⟨_, rfl, ?_⟩
      cases t
      · exact ofRat_lt_top _
      · exact bot_lt_ofRat _
    | finite t d f =>
      cases hx
      cases hy
      exact ⟨_, rfl, compares_map (fun _ _ => ofRat_lt.2) (compareFinite_compares s c e t d f)⟩

end Decimal

namespace Value

/-- A value that is a number stands for what that number stands for. -/
theorem quantity?_of_number? {v : Value} {x : Decimal} (h : v.number? = some x) :
    v.quantity? = x.quantity? := by
  cases v with
  | bool b =>
    cases h
    cases b <;> simp [quantity?, Decimal.quantity?, signed]
  | int n =>
    cases h
    exact (Decimal.quantity?_ofInt n).symm
  | float y =>
    cases h
    exact (Decimal.quantity?_toDecimal y).symm
  | decimal y =>
    cases h
    rfl
  | _ => cases h

/-- Only numbers stand for quantities. -/
theorem exists_number? {v : Value} {p : Quantity} (h : v.quantity? = some p) :
    ∃ x, v.number? = some x ∧ x.quantity? = some p := by
  have hsome : ∃ x, v.number? = some x := by
    cases v with
    | bool b => exact ⟨_, rfl⟩
    | int n => exact ⟨_, rfl⟩
    | float x => exact ⟨_, rfl⟩
    | decimal x => exact ⟨_, rfl⟩
    | _ => cases h
  obtain ⟨x, hx⟩ := hsome
  exact ⟨x, hx, by rw [← quantity?_of_number? hx, h]⟩

/-- Numbers of all kinds are compared as decimals; the two ways to do it differ only where one of
them is not a number. -/
theorem test_of_number? (op : Comparison) {v w : Value} {x y : Decimal} (hv : v.number? = some x)
    (hw : w.number? = some y) : test op v w =
      if v.isDecimal || w.isDecimal then testDecimals op x y else .ok (testNumbers op x y) := by
  cases v with
  | bool _ | int _ | float _ | decimal _ =>
    cases w with
    | bool _ | int _ | float _ | decimal _ =>
      rw [test.eq_def]
      dsimp only
      rw [hv, hw]
    | _ => cases hw
  | _ => cases hv

/-- Numbers of all kinds are compared by their exact values. -/
theorem test_of_quantity? (op : Comparison) {v w : Value} {p q : Quantity}
    (hv : v.quantity? = some p) (hw : w.quantity? = some q) :
    ∃ b, test op v w = .ok b ∧ (b = true ↔ op.Relates p q) := by
  obtain ⟨x, hx, hp⟩ := exists_number? hv
  obtain ⟨y, hy, hq⟩ := exists_number? hw
  obtain ⟨o, ho, hcompares⟩ := Decimal.compare?_compares hp hq
  refine ⟨op.holds o, ?_, Comparison.holds_iff hcompares⟩
  rw [test_of_number? op hx hy, testDecimals, testNumbers, Decimal.order, ho]
  split <;> rfl

end Value

end LedgerTags

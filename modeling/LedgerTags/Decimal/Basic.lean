/-!
# Decimal numbers

A decimal number is a sign, a coefficient and a power of ten, or one of the special values. Numbers
of the same value may differ in form: `-10` and `-10.00` are different decimals with equal values.
-/

namespace LedgerTags

/-- A decimal floating-point number. -/
inductive Decimal where
  /-- The number `± coefficient · 10 ^ exponent`. -/
  | finite (negative : Bool) (coefficient : Nat) (exponent : Int)
  /-- An infinity. -/
  | infinity (negative : Bool)
  /-- Not a number. A signaling one spoils every operation; the payload is kept for display. -/
  | nan (negative signaling : Bool) (payload : Nat)
deriving DecidableEq, Repr, Inhabited

namespace Decimal

/-- The decimal of an integer. -/
def ofInt (n : Int) : Decimal := .finite (n < 0) n.natAbs 0

/-- Zero. -/
def zero : Decimal := .finite false 0 0

/-- One. -/
def one : Decimal := .finite false 1 0

/-- The number of decimal digits of `n`, at most `bound + 1`. -/
def digitCountWithin : (bound n : Nat) → Nat
  | 0, _ => 1
  | k + 1, n => if n < 10 then 1 else digitCountWithin k (n / 10) + 1

/-- The number of decimal digits of a coefficient; zero has one. -/
def digitCount (n : Nat) : Nat := digitCountWithin n n

/-- A bound that is large enough does not matter. -/
theorem digitCountWithin_eq {j k n : Nat} (hj : n ≤ j) (hk : n ≤ k) :
    digitCountWithin j n = digitCountWithin k n := by
  induction j generalizing k n with
  | zero =>
    obtain rfl : n = 0 := by omega
    cases k <;> simp [digitCountWithin]
  | succ j ih =>
    cases k with
    | zero =>
      obtain rfl : n = 0 := by omega
      simp [digitCountWithin]
    | succ k =>
      simp only [digitCountWithin]
      split
      · rfl
      · rw [ih (k := k) (by omega) (by omega)]

/-- A number below ten has one digit. -/
theorem digitCount_of_lt {n : Nat} (h : n < 10) : digitCount n = 1 := by
  cases n <;> simp [digitCount, digitCountWithin, h]

/-- A number from ten on has one digit more than its tenth part. -/
theorem digitCount_of_le {n : Nat} (h : 10 ≤ n) : digitCount n = digitCount (n / 10) + 1 := by
  obtain ⟨k, rfl⟩ : ∃ k, n = k + 1 := ⟨n - 1, by omega⟩
  simp only [digitCount, digitCountWithin]
  rw [if_neg (by omega), digitCountWithin_eq (by omega) (Nat.le_refl _)]

/-- Neither an infinity nor a NaN. -/
def isFinite : Decimal → Bool
  | .finite .. => true
  | _ => false

/-- Not a number, of either kind. -/
def isNaN : Decimal → Bool
  | .nan .. => true
  | _ => false

/-- A NaN that spoils every operation, comparison for equality included. -/
def isSignaling : Decimal → Bool
  | .nan _ s _ => s
  | _ => false

/-- Everything but the zeros. -/
def isNonzero : Decimal → Bool
  | .finite _ c _ => c != 0
  | _ => true

/-- The exponent of the leading digit. -/
def adjusted (coefficient : Nat) (exponent : Int) : Int :=
  exponent + (digitCount coefficient - 1 : Nat)

end Decimal

end LedgerTags

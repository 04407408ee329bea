import LedgerTags.Decimal.Order

/-!
# Binary floating-point numbers

Numbers of the 64-bit binary format as exact values: a 53-bit significand and a power of two, with a
proof that the format has them (`InFormat`). Every operation takes the exact rational result and
rounds it to the nearest number of the format, ties to the even significand. `toDecimal` is the
exact value in decimal form, so that numbers of different kinds can be compared.
-/

namespace LedgerTags

namespace Binary64

/-- The least exponent. -/
def minExponent : Int := -1074

/-- The greatest exponent. -/
def maxExponent : Int := 971

/-- The format has a finite number with this significand and exponent: the significand has 53 bits,
or fewer at the least exponent. -/
def InFormat (significand : Nat) (exponent : Int) : Prop :=
  minExponent ≤ exponent ∧ exponent ≤ maxExponent ∧ significand < 0x20000000000000 ∧
    (0x10000000000000 ≤ significand ∨ exponent = minExponent)

instance (significand : Nat) (exponent : Int) : Decidable (InFormat significand exponent) :=
  inferInstanceAs (Decidable (_ ∧ _))

end Binary64

/-- A number of the 64-bit binary format. -/
inductive Binary64 where
  /-- The number `± significand · 2 ^ exponent`. -/
  | finite (negative : Bool) (significand : Nat) (exponent : Int)
    (valid : Binary64.InFormat significand exponent := by decide)
  /-- An infinity. -/
  | infinity (negative : Bool)
  /-- Not a number. -/
  | nan
deriving DecidableEq, Repr

namespace Binary64

instance : Inhabited Binary64 := ⟨.nan⟩

/-- `num / den` rounded to the nearest number, ties to the even one. -/
def roundQuotient (num den : Nat) : Nat :=
  let q := num / den
  let r := num % den
  if 2 * r < den then q
  else if den < 2 * r then q + 1
  else if q % 2 = 0 then q else q + 1

/-- `num / den` at the exponent `e`: the significand, rounded. -/
def significandAt (num den : Nat) (e : Int) : Nat :=
  roundQuotient (num * Nat.pow 2 (-e).toNat) (den * Nat.pow 2 e.toNat)

/-- A number of 53 bits or fewer, or of one more bit with a carry, at an exponent that is not too
small. Beyond the greatest exponent it is an infinity. -/
def pack (negative : Bool) (m : Nat) (e : Int) : Binary64 :=
  let (m, e) := if m = 0x20000000000000 then (0x10000000000000, e + 1) else (m, e)
  if h : InFormat m e then .finite negative m e h else .infinity negative

/-- `± num / den` rounded to the format. -/
def ofRatio (negative : Bool) (num den : Nat) : Binary64 :=
  if num = 0 ∨ den = 0 then .finite negative 0 minExponent
  else
    -- The quotient lies between `2 ^ (k - 1)` and `2 ^ (k + 1)`.
    let k : Int := (Nat.log2 num : Int) - (Nat.log2 den : Int)
    let e := k - 52
    -- Whether the quotient is at least `2 ^ k`.
    let large := den * Nat.pow 2 k.toNat ≤ num * Nat.pow 2 (-k).toNat
    let e := max minExponent (if large then e else e - 1)
    pack negative (significandAt num den e) e

/-- `± c · 10 ^ e` rounded to the format. Exponents far outside the range are decided without
computing the power. -/
def ofScientific (negative : Bool) (c : Nat) (e : Int) : Binary64 :=
  if c = 0 then .finite negative 0 minExponent
  else
    let a := Decimal.adjusted c e
    if 400 < a then .infinity negative
    else if a < -400 then .finite negative 0 minExponent
    else ofRatio negative (c * Nat.pow 10 e.toNat) (Nat.pow 10 (-e).toNat)

/-- The nearest number to an integer. -/
def ofInt (n : Int) : Binary64 := ofRatio (n < 0) n.natAbs 1

/-- Zero. -/
def zero : Binary64 := .finite false 0 minExponent

/-- The exact value as a fraction whose denominator is a power of two. -/
def ratio (m : Nat) (e : Int) : Nat × Nat := (m * Nat.pow 2 e.toNat, Nat.pow 2 (-e).toNat)

/-- The opposite number. -/
def neg : Binary64 → Binary64
  | .finite s m e h => .finite (!s) m e h
  | .infinity s => .infinity (!s)
  | .nan => .nan

/-- Absolute value. -/
def abs : Binary64 → Binary64
  | .finite _ m e h => .finite false m e h
  | .infinity _ => .infinity false
  | .nan => .nan

/-- Product. -/
def mul : Binary64 → Binary64 → Binary64
  | .nan, _ => .nan
  | _, .nan => .nan
  | .infinity s, .infinity t => .infinity (s != t)
  | .infinity s, .finite t m _ _ => if m = 0 then .nan else .infinity (s != t)
  | .finite s m _ _, .infinity t => if m = 0 then .nan else .infinity (s != t)
  | .finite s m e _, .finite t n f _ =>
    let (a, b) := ratio (m * n) (e + f)
    ofRatio (s != t) a b

/-- Quotient by a number that is not zero. -/
def div : Binary64 → Binary64 → Binary64
  | .nan, _ => .nan
  | _, .nan => .nan
  | .infinity _, .infinity _ => .nan
  | .infinity s, .finite t _ _ _ => .infinity (s != t)
  | .finite s _ _ _, .infinity t => .finite (s != t) 0 minExponent
  | .finite s m e _, .finite t n f _ =>
    let (a, b) := ratio m e
    let (c, d) := ratio n f
    if n = 0 then (if m = 0 then .nan else .infinity (s != t))
    else ofRatio (s != t) (a * d) (b * c)

/-- Sum. A sum of opposite numbers is the positive zero. -/
def add : Binary64 → Binary64 → Binary64
  | .nan, _ => .nan
  | _, .nan => .nan
  | .infinity s, .infinity t => if s = t then .infinity s else .nan
  | .infinity s, .finite .. => .infinity s
  | .finite .., .infinity t => .infinity t
  | .finite s m e _, .finite t n f _ =>
    let low := min e f
    let a : Int := (m * Nat.pow 2 (e - low).toNat : Nat)
    let b : Int := (n * Nat.pow 2 (f - low).toNat : Nat)
    let sum := (if s then -a else a) + (if t then -b else b)
    if sum = 0 then .finite (s && t) 0 minExponent
    else
      let (num, den) := ratio sum.natAbs low
      ofRatio (sum < 0) num den

/-- Everything but the zeros. -/
def isNonzero : Binary64 → Bool
  | .finite _ m _ _ => m != 0
  | _ => true

/-- The exact value in decimal form. -/
def toDecimal : Binary64 → Decimal
  | .finite s m e _ =>
    if 0 ≤ e then .finite s (m * Nat.pow 2 e.toNat) 0
    else .finite s (m * Nat.pow 5 (-e).toNat) e
  | .infinity s => .infinity s
  | .nan => .nan false false 0

end Binary64

end LedgerTags

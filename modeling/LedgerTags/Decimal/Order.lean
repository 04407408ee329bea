import LedgerTags.Decimal.Basic

/-!
# Comparing decimals by value

`compareFinite` compares two finite numbers exactly, whatever their coefficients and exponents. The
exponents of the leading digits are compared first, so that coefficients are brought to a common
power of ten only when they are of the same magnitude.
-/

namespace LedgerTags.Decimal

/-- Compares `c · 10 ^ e` with `d · 10 ^ f`. -/
def compareMagnitude (c : Nat) (e : Int) (d : Nat) (f : Int) : Ordering :=
  if c = 0 then (if d = 0 then .eq else .lt)
  else if d = 0 then .gt
  else
    match compare (adjusted c e) (adjusted d f) with
    | .lt => .lt
    | .gt => .gt
    | .eq => compare (c * Nat.pow 10 (e - f).toNat) (d * Nat.pow 10 (f - e).toNat)

/-- Compares two finite numbers by value; the zeros are equal. -/
def compareFinite (s : Bool) (c : Nat) (e : Int) (t : Bool) (d : Nat) (f : Int) : Ordering :=
  match s && c != 0, t && d != 0 with
  | false, false => compareMagnitude c e d f
  | true, true => (compareMagnitude c e d f).swap
  | true, false => .lt
  | false, true => .gt

/-- Compares two numbers by value; `none` if one is not a number. -/
def compare? : Decimal → Decimal → Option Ordering
  | .nan .., _ => none
  | _, .nan .. => none
  | .infinity s, .infinity t => some (compare (!s).toNat (!t).toNat)
  | .infinity s, .finite .. => some (if s then .lt else .gt)
  | .finite .., .infinity t => some (if t then .gt else .lt)
  | .finite s c e, .finite t d f => some (compareFinite s c e t d f)

/-- Equality of value; a NaN equals nothing. -/
def sameValue (x y : Decimal) : Bool := compare? x y == some .eq

end LedgerTags.Decimal

import LedgerTags.Decimal.Order

/-!
# Decimal arithmetic in a context

Results of arithmetic have at most 28 digits and bounded exponents: a longer result is rounded to
the nearest, ties to the even neighbour; one below the range loses digits or becomes zero; one above
the range is an error, and so is arithmetic with a signaling NaN and an order comparison with any
NaN. Comparisons look at the stored values and never round.
-/

namespace LedgerTags.Decimal

/-- What can go wrong in decimal arithmetic. -/
inductive Fault where
  /-- The operation has no meaning for its operands. -/
  | invalidOperation
  /-- The result is too large. -/
  | overflow
deriving DecidableEq, Repr

/-- The number of digits of a result. -/
def precision : Nat := 28

/-- The greatest exponent of a leading digit of a result. -/
def maxExponent : Int := 999999

/-- The least exponent of a leading digit of a result with all its digits. -/
def minExponent : Int := -999999

/-- The least exponent of a last digit of a result. -/
def tinyExponent : Int := minExponent - (precision - 1 : Nat)

/-- `n / 10 ^ k`, rounded to the nearest with ties to the even neighbour. -/
def roundShift (n k : Nat) : Nat :=
  let p := Nat.pow 10 k
  let q := n / p
  let r := n % p
  if 2 * r < p then q
  else if p < 2 * r then q + 1
  else if k = 0 then q
  else if q % 2 = 0 then q else q + 1

/-- Drops `k` digits, and one more if rounding has produced a digit too many. -/
def dropDigits (limit : Nat) (c : Nat) (e : Int) (k : Nat) : Nat × Int :=
  let q := roundShift c k
  if limit < digitCount q then (q / 10, e + k + 1) else (q, e + k)

/-- The result of an operation with the exact value `± c · 10 ^ e`. -/
def finish (s : Bool) (c : Nat) (e : Int) : Except Fault Decimal :=
  if c = 0 then
    .ok (.finite s 0 (max tinyExponent (min e maxExponent)))
  else
    let n := digitCount c
    let byPrecision := n - precision
    let byRange := (tinyExponent - e).toNat
    -- Far below the range nothing is left; the shift is cut so that it stays small.
    let k := min (max byPrecision byRange) (n + 1)
    let (q, f) := dropDigits precision c e k
    let f := if k < byRange then tinyExponent else f
    if q = 0 then .ok (.finite s 0 f)
    else if maxExponent < adjusted q f then .error .overflow
    else .ok (.finite s q f)

/-- A NaN operand as the result of an operation: its payload is cut to the precision. -/
def spread : Decimal → Except Fault Decimal
  | .nan s false p => .ok (.nan s false (p % Nat.pow 10 precision))
  | .nan _ true _ => .error .invalidOperation
  | x => .ok x

/-- Absolute value, rounded to the context. -/
def abs : Decimal → Except Fault Decimal
  | .finite _ c e => finish false c e
  | .infinity _ => .ok (.infinity false)
  | .nan s q p => spread (.nan s q p)

/-- The summand of smaller exponent `± d · 10 ^ f` as it enters a sum with `± c · 10 ^ e`: one that
lies wholly below the digits that can influence the rounding is replaced by a unit just below
them. -/
def sticky (c : Nat) (e : Int) (d : Nat) (f : Int) : Nat × Int :=
  if c = 0 then (d, f)
  else
    let n := digitCount c
    let limit := e - 1 + (if precision < n then 0 else (n : Int) - precision - 1)
    if adjusted d f < limit then ((if d = 0 then 0 else 1), limit) else (d, f)

/-- The sum of `± c · 10 ^ e` and `± d · 10 ^ f` with `f ≤ e`. -/
def addAligned (s : Bool) (c : Nat) (e : Int) (t : Bool) (d : Nat) (f : Int) :
    Except Fault Decimal :=
  let (d, f) := if e = f then (d, f) else sticky c e d f
  let c := if c = 0 then 0 else c * Nat.pow 10 (e - f).toNat
  if s = t then finish s (c + d) f
  else if c = d then finish false 0 f
  else if d < c then finish s (c - d) f
  else finish t (d - c) f

/-- Sum, rounded to the context. -/
def add (x y : Decimal) : Except Fault Decimal :=
  match x, y with
  | .finite s c e, .finite t d f =>
    if f ≤ e then addAligned s c e t d f else addAligned t d f s c e
  | .nan a q p, y => if y.isSignaling then .error .invalidOperation else spread (.nan a q p)
  | _, .nan a q p => spread (.nan a q p)
  | .infinity s, .infinity t =>
    if s = t then .ok (.infinity s) else .error .invalidOperation
  | .infinity s, .finite .. => .ok (.infinity s)
  | .finite .., .infinity t => .ok (.infinity t)

/-- The order of two numbers; an error if one is not a number. -/
def order (x y : Decimal) : Except Fault Ordering :=
  match compare? x y with
  | some o => .ok o
  | none => .error .invalidOperation

/-- Equality of value; an error if one is a signaling NaN. -/
def equal (x y : Decimal) : Except Fault Bool :=
  if x.isSignaling || y.isSignaling then .error .invalidOperation else .ok (sameValue x y)

end LedgerTags.Decimal

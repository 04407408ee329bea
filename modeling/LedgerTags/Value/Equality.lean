import LedgerTags.Error

/-!
# Equality of values

Numbers of all kinds are equal by value, truth values counting as zero and one; sets of both kinds
are equal by their members; otherwise values of different kinds are different. A NaN equals nothing,
and asking whether a signaling one is equal to something is an error.

A value that is a key of a tally has to be hashable: `checkHashable` says why it is not.
-/

namespace LedgerTags.Value

/-- The number that a value is. -/
def number? : Value → Option Decimal
  | bool b => some (.finite false b.toNat 0)
  | int n => some (.ofInt n)
  | float x => some x.toDecimal
  | decimal x => some x
  | _ => none

/-- Equality of two numbers. -/
def sameNumber (x y : Decimal) : Outcome Bool := (Decimal.equal x y).mapError Error.ofDecimal

/-- Whether an operation succeeds with true on a member of a list, up to the first such member. -/
def anyOutcome (f : Value → Outcome Bool) : List Value → Outcome Bool
  | [] => .ok false
  | x :: xs => do if ← f x then return true else anyOutcome f xs

/-- Looks up a key with a test of keys. -/
def findOutcome (f : Value → Outcome Bool) : List (Value × Value) → Outcome (Option Value)
  | [] => .ok none
  | (k, v) :: es => do if ← f k then return some v else findOutcome f es

mutual

/-- Equality of two values. -/
def same : Value → Value → Outcome Bool
  | null, null => .ok true
  | text s, text t => .ok (s = t)
  | octets s, octets t => .ok (s = t)
  | date d, date e => .ok (d = e)
  | dateTime s, dateTime t => .ok (s.same t)
  | time s, time t => .ok (s = t)
  | list xs, list ys => sameList xs ys
  | tuple xs, tuple ys => sameList xs ys
  | set xs, set ys | set xs, frozenSet ys | frozenSet xs, set ys | frozenSet xs, frozenSet ys =>
    if xs.length = ys.length then allAmong xs ys else .ok false
  | dict es, dict fs => if es.length = fs.length then entriesAmong es fs else .ok false
  | record xs, record ys => sameFields xs ys
  | callable, callable => .ok true
  | v, w =>
    match number? v, number? w with
    | some x, some y => sameNumber x y
    | _, _ => .ok false

/-- Equality of two lists of values. -/
def sameList : List Value → List Value → Outcome Bool
  | [], [] => .ok true
  | x :: xs, y :: ys => do if ← same x y then sameList xs ys else return false
  | _, _ => .ok false

/-- Whether each value equals a member of a list. -/
def allAmong : List Value → List Value → Outcome Bool
  | [], _ => .ok true
  | x :: xs, ys => do
    if ← anyOutcome (fun y => same x y) ys then allAmong xs ys else return false

/-- Whether each entry equals an entry of a mapping. -/
def entriesAmong : List (Value × Value) → List (Value × Value) → Outcome Bool
  | [], _ => .ok true
  | (k, v) :: es, fs => do
    match ← findOutcome (fun l => same k l) fs with
    | some w => if ← same v w then entriesAmong es fs else return false
    | none => return false

/-- Equality of the fields of two records. -/
def sameFields : List (Text × Value) → List (Text × Value) → Outcome Bool
  | [], [] => .ok true
  | (_, v) :: fs, (_, w) :: gs => do if ← same v w then sameFields fs gs else return false
  | _, _ => .ok false

end

mutual

/-- An error unless the value can be a key. -/
def checkHashable : Value → Outcome Unit
  | list _ => .error (.unhashable "list")
  | set _ => .error (.unhashable "set")
  | dict _ => .error (.unhashable "dict")
  | record _ => .error (.unhashable "Transaction")
  | cyclic _ v => checkHashable v
  | decimal x => if x.isSignaling then .error .signalingHash else .ok ()
  | tuple xs => checkAllHashable xs
  | _ => .ok ()

/-- An error unless all values can be keys. -/
def checkAllHashable : List Value → Outcome Unit
  | [] => .ok ()
  | x :: xs => do
    checkHashable x
    checkAllHashable xs

end

/-- Whether two keys are equal; keys are equal or not without error. -/
def sameKey (v w : Value) : Bool :=
  match same v w with
  | .ok b => b
  | .error _ => false

/-- A list without the repeats of earlier members. -/
def distinct (xs : List Value) : List Value :=
  xs.foldl (fun seen x => if seen.any fun y => sameKey y x then seen else seen ++ [x]) []

end LedgerTags.Value

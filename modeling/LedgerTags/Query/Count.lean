import LedgerTags.Query.Key
import LedgerTags.Sorting
import LedgerTags.Value.Order

/-!
# Counting

How often each value of a key occurs, in the order of first occurrence. Of a set each member counts,
in ascending order.
-/

namespace LedgerTags.Query

/-- A value and how often it has occurred. -/
structure Tally where
  /-- The value when it first occurred. -/
  keyed : Key.Keyed
  /-- How often it has occurred. -/
  count : Nat

/-- Tallies after one more value. -/
def addToTallies (k : Key.Keyed) : List Tally → List Tally
  | [] => [⟨k, 1⟩]
  | t :: ts =>
    let same :=
      match t.keyed.same k with
      | .ok b => b
      | .error _ => false
    if same then ⟨t.keyed, t.count + 1⟩ :: ts else t :: addToTallies k ts

/-- Tallies after further values, which have to be hashable. -/
def addAllToTallies (tallies : List Tally) : List Key.Keyed → Outcome (List Tally)
  | [] => .ok tallies
  | k :: ks => do
    Value.checkHashable k.value
    addAllToTallies (addToTallies k tallies) ks

/-- The values that a key contributes: of a set its members in ascending order. -/
def contributions (k : Key.Keyed) : Outcome (List Key.Keyed) :=
  match k.value with
  | .set xs | .frozenSet xs => do
    return (← Sorting.sort (Value.test .lt) xs).map fun x => ⟨x, none⟩
  | _ => .ok [k]

/-- Tallies of a key over further records. -/
def countFrom (key : Key) (tallies : List Tally) : List Record → Outcome (List Tally)
  | [] => .ok tallies
  | r :: rs => do
    let ks ← contributions (← key.of r)
    countFrom key (← addAllToTallies tallies ks) rs

/-- How often each value of a key occurs. -/
def count (rs : List Record) (key : KeyArgument) : Outcome (List (Value × Nat)) := do
  let tallies ← countFrom (← Key.ofArgument key) [] rs
  return tallies.map fun t => (t.keyed.value, t.count)

end LedgerTags.Query

import LedgerTags.Query.Key
import LedgerTags.Sorting
import LedgerTags.Value.Order

/-!
# Sorting

Records are sorted by a key, ascending or descending. Missing values come last either way, and are
never compared with present ones; records with equal values keep their order in both directions.
-/

namespace LedgerTags.Query

/-- A record with what it is sorted by. -/
structure SortItem where
  /-- Whether the record belongs behind the others: before a list is reversed these are the ones
  with a value, otherwise the ones without. -/
  behind : Bool
  /-- The key. -/
  keyed : Key.Keyed
  /-- The record. -/
  record : Record

/-- A value that is missing. -/
def isMissing : Value → Bool
  | .null => true
  | _ => false

/-- A record with what it is sorted by. -/
def sortItem (key : Key) (reverse : Bool) (r : Record) : Outcome SortItem := do
  let keyed ← key.of r
  return ⟨isMissing keyed.value != reverse, keyed, r⟩

/-- Whether an item comes strictly before another. -/
def SortItem.before (a b : SortItem) : Outcome Bool :=
  if a.behind = b.behind then do
    if ← a.keyed.same b.keyed then return false else Value.test .lt a.keyed.value b.keyed.value
  else .ok (!a.behind)

/-- Sorts records by a key. A descending sort is the ascending one of the reversed list, reversed,
so that equal records keep their order. -/
def sortBy (key : Key) (reverse : Bool) (rs : List Record) : Outcome (List Record) := do
  let items ← rs.mapM (sortItem key reverse)
  let items := if reverse then items.reverse else items
  let items ← Sorting.sort SortItem.before items
  let items := if reverse then items.reverse else items
  return items.map (·.record)

/-- Sorts records by what is given as a key. -/
def sort (rs : List Record) (key : KeyArgument) (reverse : Bool) : Outcome (List Record) := do
  sortBy (← Key.ofArgument key) reverse rs

end LedgerTags.Query

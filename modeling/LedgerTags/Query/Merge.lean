import LedgerTags.Query.Record

/-!
# Merging

Two collections are merged into one without duplicates. Duplicates agree in bank, account, post
date, amount and balance. Of several duplicates the one with most of name, notes and tags survives,
and of those the earliest; survivors stand in the order in which their duplicates first occurred.
-/

namespace LedgerTags.Query

/-- A survivor under the identity of the first of its duplicates. -/
structure Survivor where
  /-- The record that occurred first. -/
  first : Nat
  /-- Its identity. -/
  identity : List Value
  /-- The record that survives so far. -/
  record : Record

/-- Whether a record is a duplicate of a survivor. -/
def Survivor.agrees (s : Survivor) (r : Record) : Bool :=
  s.first == r.id ||
    match Value.sameList s.identity r.transaction.identity with
    | .ok b => b
    | .error _ => false

/-- The better one of a survivor and a duplicate of it. -/
def Survivor.take (s : Survivor) (r : Record) : Survivor :=
  if s.record.transaction.populated < r.transaction.populated then { s with record := r } else s

/-- Survivors after one more record. -/
def place (r : Record) : List Survivor → List Survivor
  | [] => [⟨r.id, r.transaction.identity, r⟩]
  | s :: ss => if s.agrees r then s.take r :: ss else s :: place r ss

/-- Survivors after further records. -/
def placeAll (kept : List Survivor) : List Record → Outcome (List Survivor)
  | [] => .ok kept
  | r :: rs => do
    Value.checkAllHashable r.transaction.identity
    placeAll (place r kept) rs

/-- Merges two collections. -/
def merge (a b : List Record) : Outcome (List Record) := do
  return (← placeAll [] (a ++ b)).map (·.record)

end LedgerTags.Query

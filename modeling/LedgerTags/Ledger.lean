import LedgerTags.Query.Record

/-!
# The ledger

All transactions in the order in which they came. A record is known by its place in the ledger, so
collections of records can share them, and what is written about a record is seen in all of them.
-/

namespace LedgerTags

/-- All transactions in the order in which they came. -/
structure Ledger where
  /-- The transactions; the record of a transaction is its position. -/
  transactions : List Transaction := []

namespace Ledger

/-- The number of records. -/
def size (l : Ledger) : Nat := l.transactions.length

/-- The transaction of a record. -/
def get? (l : Ledger) (id : Nat) : Option Transaction := l.transactions[id]?

/-- The ledger with another transaction for a record. -/
def set (l : Ledger) (id : Nat) (t : Transaction) : Ledger := ⟨l.transactions.set id t⟩

@[simp] theorem size_set (l : Ledger) (id : Nat) (t : Transaction) : (l.set id t).size = l.size :=
  List.length_set

/-- After a record has been replaced, that record is found at its place, and what was there before
at every other. -/
theorem get?_set (l : Ledger) (id other : Nat) (t : Transaction) :
    (l.set id t).get? other =
      if id = other then (if id < l.size then some t else none) else l.get? other := by
  unfold get? set size
  rw [List.getElem?_set]

/-- The ledger with further transactions. -/
def append (l : Ledger) (ts : List Transaction) : Ledger := ⟨l.transactions ++ ts⟩

/-- The records of some positions. -/
def records (l : Ledger) (ids : List Nat) : List Record :=
  ids.filterMap fun id => (l.get? id).map fun t => ⟨id, t⟩

end Ledger

end LedgerTags

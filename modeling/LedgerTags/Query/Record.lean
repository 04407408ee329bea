import LedgerTags.Transaction

/-!
# Records

A record is a transaction with its identity. Two references to one record are the same thing even
when the transaction holds a NaN, which equals nothing; two records are never the same thing,
however equal their transactions are.
-/

namespace LedgerTags

/-- A transaction with its identity. -/
structure Record where
  /-- What tells it from other records. -/
  id : Nat
  /-- The transaction. -/
  transaction : Transaction

namespace Record

/-- Transactions as records, numbered from `first`. -/
def number (first : Nat) : List Transaction → List Record
  | [] => []
  | t :: ts => ⟨first, t⟩ :: number (first + 1) ts

/-- Transactions as records, numbered from zero. -/
def ofList (ts : List Transaction) : List Record := number 0 ts

end Record

end LedgerTags

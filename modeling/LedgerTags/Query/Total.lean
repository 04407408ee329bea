import LedgerTags.Query.Group

/-!
# Totals

The sum of the amounts of some records, rounded to the context after each summand.
-/

namespace LedgerTags.Query

/-- A sum with the amount of one more record. -/
def addAmount (sum : Decimal) (r : Record) : Outcome Decimal := do
  let amount ← r.transaction.amount.toAmount
  (sum.add amount).mapError Error.ofDecimal

/-- The sum of the amounts. -/
def total (rs : List Record) : Outcome Decimal := rs.foldlM addAmount .zero

end LedgerTags.Query

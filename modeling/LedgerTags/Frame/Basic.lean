import LedgerTags.Frame.Column
import LedgerTags.Transaction

/-!
# Tables of transactions

A collection of transactions as a table with a column for each field, for statistics and for
spreadsheets. The tags of a transaction become one text, the amount and the balance become numbers,
and dates stay dates. An empty cell is null.
-/

namespace LedgerTags

/-- A table: a column for each field, whose cells stand in the order of the transactions. -/
structure Frame where
  /-- The cells of each column. -/
  columns : List (Field × List Value)

namespace Frame

/-- What stands between the tags of a transaction. -/
def tagSeparator : Text := ","

/-- The cell of a transaction for a field, before the cells of a column are made one kind. -/
def cell (t : Transaction) : Field → Outcome Value
  | .tags => .ok (.text (Text.joinWith tagSeparator t.tags.toList))
  | .amount => do return .text (← t.amount.toText)
  | .balance => do return .text (← t.balance.toText)
  | f => .ok (t.get f)

/-- The cells of a column as they stand in the table. -/
def convert (f : Field) (cells : List Value) : Outcome (List Value) :=
  match f with
  | .amount | .balance => Column.numbersOfTexts (cells.filterMap Value.text?)
  | _ => Column.unify cells

/-- The order in which the columns are converted: the first one that fails is the error. -/
def conversionOrder : List Field := [
  .bank, .account, .description, .name, .notes, .tags, .postDate, .transactionDate, .amount,
  .balance]

/-- The table of some transactions, which have to have a mapping. -/
def ofTransactions (ts : List Transaction) : Outcome Frame := do
  let _ ← ts.mapM Transaction.toMapping
  let column (f : Field) : Outcome (Field × List Value) := do
    return (f, ← convert f (← ts.mapM (cell · f)))
  let columns ← conversionOrder.mapM column
  return ⟨Field.all.map fun f => (f, (columns.lookup f).getD [])⟩

/-- The names of the columns. -/
def names (f : Frame) : List Text := f.columns.map fun c => c.1.toText

/-- How many rows there are. -/
def height (f : Frame) : Nat := (f.columns.map fun c => c.2.length).headD 0

/-- The cells of a row in the order of the columns. -/
def row (f : Frame) (i : Nat) : List Value := f.columns.map fun c => c.2.getD i .null

/-- The rows. -/
def rows (f : Frame) : List (List Value) := (List.range f.height).map f.row

end Frame

end LedgerTags

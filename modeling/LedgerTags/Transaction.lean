import LedgerTags.Amount
import LedgerTags.TagSet
import LedgerTags.Value.Equality

/-!
# Transactions

A transaction has ten fields. Those that are read from a mapping have definite kinds, but a field
can be assigned any value afterwards, so the fields are values; the tags are a set.

`ofMapping` reads the interchange mapping and `toMapping` writes it. Absent fields, and fields that
do not count as present, get their defaults; the transaction date defaults to the post date.
-/

namespace LedgerTags

/-- The fields of a transaction. -/
inductive Field where
  | bank
  | account
  | postDate
  | transactionDate
  | description
  | name
  | amount
  | balance
  | notes
  | tags
deriving DecidableEq, Repr

namespace Field

/-- All fields, in the order of the mapping. -/
def all : List Field :=
  [bank, account, postDate, transactionDate, description, name, amount, balance, notes, tags]

/-- The name of a field in the mapping. -/
def toText : Field → Text
  | bank => "bank"
  | account => "account"
  | postDate => "post_date"
  | transactionDate => "transaction_date"
  | description => "description"
  | name => "name"
  | amount => "amount"
  | balance => "balance"
  | notes => "notes"
  | tags => "tags"

/-- The field of a name. -/
def ofText? (t : Text) : Option Field := all.find? fun f => f.toText == t

end Field

/-- A transaction. -/
structure Transaction where
  bank : Value
  account : Value
  postDate : Value
  transactionDate : Value := .null
  description : Value := .text []
  /-- What the transaction is called, once it is known. -/
  name : Value := .null
  /-- Negative for a withdrawal, positive for a deposit. -/
  amount : Value := .decimal .zero
  balance : Value := .decimal .zero
  notes : Value := .null
  tags : TagSet := ∅

namespace Transaction

/-- A tag set as a value. -/
def tagsValue (s : TagSet) : Value := .set (s.toList.map .text)

/-- The value of a field. -/
def get (t : Transaction) : Field → Value
  | .bank => t.bank
  | .account => t.account
  | .postDate => t.postDate
  | .transactionDate => t.transactionDate
  | .description => t.description
  | .name => t.name
  | .amount => t.amount
  | .balance => t.balance
  | .notes => t.notes
  | .tags => tagsValue t.tags

/-- The tags among the members of a value. -/
def tagsOf (v : Value) : TagSet :=
  TagSet.ofList ((v.collection?.getD []).filterMap Value.text?)

/-- Assigns a field. -/
def set (t : Transaction) (f : Field) (v : Value) : Transaction :=
  match f with
  | .bank => { t with bank := v }
  | .account => { t with account := v }
  | .postDate => { t with postDate := v }
  | .transactionDate => { t with transactionDate := v }
  | .description => { t with description := v }
  | .name => { t with name := v }
  | .amount => { t with amount := v }
  | .balance => { t with balance := v }
  | .notes => { t with notes := v }
  | .tags => { t with tags := tagsOf v }

/-- The transaction as a value. -/
def toValue (t : Transaction) : Value := .record (Field.all.map fun f => (f.toText, t.get f))

/-! ### Duplicates -/

/-- What two duplicates have in common: bank, account, post date, amount and balance. -/
def identity (t : Transaction) : List Value := [t.bank, t.account, t.postDate, t.amount, t.balance]

/-- How many of name, notes and tags are present. -/
def populated (t : Transaction) : Nat :=
  t.name.isTrue.toNat + t.notes.isTrue.toNat + (!t.tags.isEmpty).toNat

/-! ### The interchange mapping -/

/-- A date as a value. -/
def dateValue : Option Date → Value
  | some d => .date d
  | none => .null

/-- The tags of a mapping: a text or a collection of texts. -/
def readTags (v : Value) : Outcome TagSet :=
  let v := v.orElse (.tuple [])
  let v : Value :=
    match v with
    | .text _ => .list [v]
    | v => v
  match v.collection? with
  | some xs =>
    match xs.mapM Value.text? with
    | some ts => .ok (TagSet.ofList ts)
    | none => .error (.about .badTags v)
  | none => .error (.about .badTags v)

/-- A text field of a mapping. -/
def readText (v : Value) : Outcome Value := do return .text (← (v.orElse (.text [])).toText)

/-- Reads a mapping. -/
def ofMapping (row : List (Value × Value)) : Outcome Transaction := do
  let field (f : Field) : Value := Value.lookup f.toText row
  let amount (f : Field) : Outcome Value := do
    return .decimal (← ((Value.lookup? f.toText row).getD (.int 0)).toAmount)
  let tags ← readTags (field .tags)
  let postDate := dateValue (← (field .postDate).toDate)
  let bank ← readText (field .bank)
  let account ← readText (field .account)
  let transactionDate := (dateValue (← (field .transactionDate).toDate)).orElse postDate
  let description ← readText (field .description)
  let name := (field .name).orElse .null
  let amount' ← amount .amount
  let balance ← amount .balance
  let notes := (field .notes).orElse .null
  return {
    bank, account, postDate, transactionDate, description, name, amount := amount', balance, notes,
    tags }

/-- The text of a date field, null if there is no date. -/
def writeDate (v : Value) : Outcome Value :=
  if v.isTrue then
    match v with
    | .date d => .ok (.text d.toText)
    | .dateTime t => .ok (.text t.toText)
    | .time t => .ok (.text t.toText)
    | v => .error (.missingAttribute v.kindName "isoformat")
  else .ok .null

/-- Writes the mapping, with the tags in ascending order. -/
def toMapping (t : Transaction) : Outcome (List (Text × Value)) := do
  let postDate ← writeDate t.postDate
  let transactionDate ← writeDate t.transactionDate
  let amount ← t.amount.toText
  let balance ← t.balance.toText
  return [
    (Field.bank.toText, t.bank), (Field.account.toText, t.account),
    (Field.postDate.toText, postDate), (Field.transactionDate.toText, transactionDate),
    (Field.description.toText, t.description), (Field.name.toText, t.name),
    (Field.amount.toText, .text amount), (Field.balance.toText, .text balance),
    (Field.notes.toText, t.notes), (Field.tags.toText, .list (t.tags.toList.map .text))]

/-- The mapping as a value. -/
def mappingValue (m : List (Text × Value)) : List (Value × Value) :=
  m.map fun e => (.text e.1, e.2)

end Transaction

end LedgerTags

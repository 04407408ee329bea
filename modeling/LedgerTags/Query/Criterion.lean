import LedgerTags.Query.Record
import LedgerTags.Value.Operations

/-!
# Criteria

What a filter asks of a transaction, once its arguments have been understood. Texts are compared in
lower case. A criterion can fail on a field that holds a value of the wrong kind.
-/

namespace LedgerTags

/-- The names under which a filter takes its arguments. -/
inductive FilterKey where
  | bank
  | account
  | name
  | description
  | notes
  | tags
  | amount
  | date
deriving DecidableEq, Repr

namespace FilterKey

/-- All names, in the order in which the arguments are understood. -/
def all : List FilterKey := [bank, account, name, description, notes, tags, amount, date]

/-- The text of a name. -/
def toText : FilterKey → Text
  | bank => "bank"
  | account => "account"
  | name => "name"
  | description => "description"
  | notes => "notes"
  | tags => "tags"
  | amount => "amount"
  | date => "date"

/-- The name with a text. -/
def ofText? (t : Text) : Option FilterKey := all.find? fun k => k.toText == t

/-- The field that a name is about; a date is the post date. -/
def field : FilterKey → Field
  | bank => .bank
  | account => .account
  | name => .name
  | description => .description
  | notes => .notes
  | tags => .tags
  | amount => .amount
  | date => .postDate

end FilterKey

/-- What a filter asks of a transaction. -/
inductive Criterion where
  /-- The lower-case field is this text. -/
  | exact (key : FilterKey) (value : Text)
  /-- This text occurs in the lower-case field. -/
  | contains (key : FilterKey) (value : Text)
  /-- The transaction has the tag. -/
  | hasTag (tag : Text)
  /-- The transaction has one of the tags. -/
  | anyTag (tags : TagSet)
  /-- The amount is above zero, or below. -/
  | sign (positive : Bool)
  /-- The field is present and lies between two bounds. -/
  | inRange (key : FilterKey) (lo hi : Value)
  /-- The post date lies in a period. -/
  | inPeriod (period : Period)
  /-- What the caller asks of the field. -/
  | holds (key : FilterKey) (ask : Value → Outcome Value)

namespace Criterion

/-- The value that is shown to the caller's question: tags become an unchangeable set. -/
def shown (key : FilterKey) (t : Transaction) : Value :=
  match key with
  | .tags => .frozenSet (t.tags.toList.map .text)
  | key => t.get key.field

/-- Whether a transaction meets a criterion. -/
def test (t : Transaction) : Criterion → Outcome Bool
  | exact key value => do return (← (t.get key.field).lowerOrEmpty) == value
  | contains key value => do return Text.occursIn value (← (t.get key.field).lowerOrEmpty)
  | hasTag tag => .ok (t.tags.contains tag)
  | anyTag tags => .ok (tags.meets t.tags)
  | sign positive => Value.test (if positive then .gt else .lt) t.amount (.int 0)
  | inRange key lo hi =>
    match t.get key.field with
    | .null => .ok false
    | v => do if ← Value.test .le lo v then Value.test .le v hi else return false
  | inPeriod period => period.containsValue t.postDate
  | holds key ask => do return (← ask (shown key t)).isTrue

/-- Whether a transaction meets all criteria; the first one that it fails ends the test. -/
def testAll (t : Transaction) : List Criterion → Outcome Bool
  | [] => .ok true
  | c :: cs => do if ← c.test t then testAll t cs else return false

end Criterion

end LedgerTags

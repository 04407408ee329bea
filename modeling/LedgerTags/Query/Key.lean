import LedgerTags.Query.Record

/-!
# Keys

A collection is sorted and counted by a key: a field, or something that the caller computes from a
transaction. Besides its value a key has an identity, which matters only for values that do not
equal themselves: a field of one record is one thing, however often it is reached, while a computed
value may be a new thing each time.
-/

namespace LedgerTags

/-- When two values of a key are the same thing. -/
inductive Sharing where
  /-- When they are of the same record. -/
  | ofRecord
  /-- Always. -/
  | always
  /-- Never. -/
  | never
deriving DecidableEq, Repr

/-- A key by which records are sorted or counted. -/
structure Key where
  /-- The value for a transaction. -/
  value : Transaction → Outcome Value
  /-- When two values are the same thing. -/
  sharing : Sharing

/-- What is given as a key: the name of a field, or a computed key. -/
inductive KeyArgument where
  | value (v : Value)
  | key (k : Key)

namespace Key

/-- The key that a field is. -/
def ofField (f : Field) : Key := ⟨fun t => .ok (t.get f), .ofRecord⟩

/-- Understands what is given as a key. -/
def ofArgument : KeyArgument → Outcome Key
  | .key k => .ok k
  | .value v =>
    match v.text?.bind Field.ofText? with
    | some f => .ok (ofField f)
    | none => .error (.about (fun v => .argument "key" v "transaction field name or callable") v)

/-- The value of a key for a record, with its identity if it has one. -/
structure Keyed where
  /-- The value. -/
  value : Value
  /-- What it is the same as. -/
  identity : Option Nat

/-- The value of a key for a record. -/
def of (k : Key) (r : Record) : Outcome Keyed := do
  let v ← k.value r.transaction
  let identity :=
    match k.sharing with
    | .ofRecord => some r.id
    | .always => some 0
    | .never => none
  return ⟨v, identity⟩

/-- Whether two values are the same thing or equal. -/
def Keyed.same (a b : Keyed) : Outcome Bool :=
  if a.identity.isSome && a.identity == b.identity then .ok true else Value.same a.value b.value

end Key

end LedgerTags

import LedgerTags.Calendar.DateTime
import LedgerTags.Number.Binary64

/-!
# Field values

What a field of a record, an argument of a query or an entry of a document can hold. Records are
read from documents whose fields are not typed, and a query may be asked about any value, so one
type covers them all. `Value.isTrue` says which values count as present: everything but null, false,
the zeros and the empty texts and collections.
-/

namespace LedgerTags

/-- A field value. Sets list their members in the order in which they were given, without
repeats. -/
inductive Value where
  | null
  | bool (b : Bool)
  | int (n : Int)
  | float (x : Binary64)
  | decimal (x : Decimal)
  | text (t : Text)
  | octets (bs : List UInt8)
  | date (d : Date)
  | dateTime (t : DateTime)
  | time (t : TimeOfDay)
  | list (xs : List Value)
  | tuple (xs : List Value)
  | set (xs : List Value)
  | frozenSet (xs : List Value)
  | dict (entries : List (Value × Value))
  /-- A transaction seen as a value, with its fields by name. -/
  | record (fields : List (Text × Value))
  /-- Something that can be applied; nothing else is known about it. -/
  | callable
  /-- A list or mapping of a document that contains itself, with a number that tells it from the
  others. What it holds is unfolded a few times. -/
  | cyclic (number : Nat) (v : Value)
deriving Inhabited

namespace Value

instance : Coe Text Value := ⟨text⟩
instance : Coe String Value := ⟨fun s => text (Text.ofString s)⟩

/-- The name of the kind of a value, as messages give it. -/
def kindName : Value → Text
  | null => "NoneType"
  | bool _ => "bool"
  | int _ => "int"
  | float _ => "float"
  | decimal _ => "decimal.Decimal"
  | text _ => "str"
  | octets _ => "bytes"
  | date _ => "datetime.date"
  | dateTime _ => "datetime.datetime"
  | time _ => "datetime.time"
  | list _ => "list"
  | tuple _ => "tuple"
  | set _ => "set"
  | frozenSet _ => "frozenset"
  | dict _ => "dict"
  | record _ => "Transaction"
  | callable => "function"
  | cyclic _ v => v.kindName

/-- Whether a value counts as present. -/
def isTrue : Value → Bool
  | null => false
  | bool b => b
  | int n => n != 0
  | float x => x.isNonzero
  | decimal x => x.isNonzero
  | text t => !t.isEmpty
  | octets bs => !bs.isEmpty
  | list xs | tuple xs | set xs | frozenSet xs => !xs.isEmpty
  | dict es => !es.isEmpty
  | date _ | dateTime _ | time _ | record _ | callable | cyclic .. => true

/-- The value, or `other` if it does not count as present. -/
def orElse (v other : Value) : Value := if v.isTrue then v else other

/-- The text that a value is. -/
def text? : Value → Option Text
  | text t => some t
  | _ => none

/-- The members of a list. -/
def list? : Value → Option (List Value)
  | list xs => some xs
  | cyclic _ v => v.list?
  | _ => none

/-- The members of a list or tuple. -/
def sequence? : Value → Option (List Value)
  | list xs | tuple xs => some xs
  | cyclic _ v => v.sequence?
  | _ => none

/-- The members of a list, tuple or set of either kind. -/
def collection? : Value → Option (List Value)
  | list xs | tuple xs | set xs | frozenSet xs => some xs
  | cyclic _ v => v.collection?
  | _ => none

/-- The entries of a mapping. -/
def mapping? : Value → Option (List (Value × Value))
  | dict es => some es
  | cyclic _ v => v.mapping?
  | _ => none

/-- The entry of a mapping under a text key. -/
def lookup? (key : Text) : List (Value × Value) → Option Value
  | [] => none
  | (text t, v) :: es => if t = key then some v else lookup? key es
  | _ :: es => lookup? key es

/-- The entry of a mapping under a text key, null if there is none. -/
def lookup (key : Text) (es : List (Value × Value)) : Value := (lookup? key es).getD null

end Value

end LedgerTags

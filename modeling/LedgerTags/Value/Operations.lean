import LedgerTags.Text.Case
import LedgerTags.Value.Order

/-!
# Operations on values

Magnitude, lower case and iteration, for values of any kind; where an operation has no meaning for a
kind, the error names the kind.
-/

namespace LedgerTags.Value

/-- The absolute value of a number. -/
def magnitude : Value → Outcome Value
  | bool b => .ok (int b.toNat)
  | int n => .ok (int n.natAbs)
  | float x => .ok (float x.abs)
  | decimal x =>
    match x.abs with
    | .ok y => .ok (decimal y)
    | .error f => .error (.ofDecimal f)
  | v => .error (.noMagnitude v.kindName)

/-- The lower case of a text; a value that does not count as present is the empty text. -/
def lowerOrEmpty (v : Value) : Outcome Text :=
  if v.isTrue then
    match v with
    | text t => .ok (Text.lower t)
    | v => .error (.missingAttribute v.kindName "lower")
  else .ok []

/-- The members that a value goes through when it is iterated: of a text its characters, of a
mapping its keys. -/
def members : Value → Outcome (List Value)
  | list xs | tuple xs | set xs | frozenSet xs => .ok xs
  | dict es => .ok (es.map (·.1))
  | text t => .ok (t.map fun c => text [c])
  | octets bs => .ok (bs.map fun b => int b.toNat)
  | cyclic _ v => members v
  | v => .error (.notIterable v.kindName)

end LedgerTags.Value

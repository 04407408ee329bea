import LedgerTags.Json.Reader
import LedgerTags.Json.Writer
import LedgerTags.Text.Utf8
import LedgerTags.Transaction

/-!
# The interchange text

Transactions are stored as JSON objects, either as one array or with an object on each line; blank
lines do not count. Reading tells the two layouts apart by the first character that is not blank. In
writing every character beyond ASCII is escaped, so that no line is broken inside an object.
-/

namespace LedgerTags.Interchange

/-- How transactions are laid out. -/
inductive Layout where
  /-- An object on each line. -/
  | lines
  /-- One array. -/
  | array
deriving DecidableEq, Repr

/-! ### Reading -/

/-- Whether a text without blanks around it is an array. -/
def isArray (t : Text) : Bool := t.head? == some (CodePoint.ofChar '[')

/-- The objects on the lines of a text. -/
def readLines (t : Text) : Outcome (List Value) :=
  ((Text.splitLines t).filter fun l => !l.trim.isEmpty).mapM Json.read

/-- The objects of a text. -/
def readValues (t : Text) : Outcome (List Value) := do
  let t := t.trim
  if t.isEmpty then return []
  else if isArray t then return ((← Json.read t).list?).getD []
  else readLines t

/-- The mappings among some values, none if another value is among them. -/
def mappings? (vs : List Value) : Option (List (List (Value × Value))) := vs.mapM Value.mapping?

/-- Reads transactions; `source` is how messages name the text. -/
def read (source t : Text) : Outcome (List Transaction) := do
  match mappings? (← readValues t) with
  | none => throw (.notTransactions source)
  | some rows => rows.mapM Transaction.ofMapping

/-- Reads transactions from octets. Line ends of the three common forms count alike. -/
def readOctets (source : Text) (octets : List UInt8) : Outcome (List Transaction) :=
  match Text.Utf8.decode? octets with
  | some t => read source (Text.unifyNewlines t)
  | none => .error .undecodable

/-! ### Writing -/

/-- The object of a transaction. -/
def object (t : Transaction) : Outcome Value := do
  return .dict (Transaction.mappingValue (← t.toMapping))

/-- The lines on which transactions are written. -/
def writeLines (layout : Layout) (ts : List Transaction) : Outcome (List Text) := do
  let objects ← ts.mapM object
  match layout with
  | .lines => return objects.map Json.write
  | .array => return [Json.write (.list objects)]

/-- The text in which transactions are written. -/
def write (layout : Layout) (ts : List Transaction) : Outcome Text := do
  return (← writeLines layout ts).flatMap fun l => l ++ [CodePoint.ofChar '\n']

end LedgerTags.Interchange

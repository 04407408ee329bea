import LedgerTags.Error
import LedgerTags.Number.Stepwise

/-!
# Columns of a table

The cells of a column have one kind where that is possible. `numbersOfTexts` makes numbers of a
column of numerals: whole numbers if all of them are, and binary numbers otherwise. `unify` looks at
a column of any values: one that holds nothing but numbers becomes a column of binary numbers if a
number of it is one or a cell is empty, and every other column stays as it is.
-/

namespace LedgerTags.Frame.Column

/-- The least whole number of a cell. -/
def minWhole : Int := -0x8000000000000000

/-- The greatest whole number of a column in which there are negative ones. -/
def maxSigned : Int := 0x7FFFFFFFFFFFFFFF

/-- The greatest whole number of a cell. -/
def maxWhole : Int := 0xFFFFFFFFFFFFFFFF

/-- A whole number that only a column without negative numbers can hold. -/
def isLarge (n : Int) : Bool := maxSigned < n && n ≤ maxWhole

/-- A negative number that a column can hold. -/
def isNegative (n : Int) : Bool := minWhole ≤ n && n < 0

/-! ### Numerals -/

/-- A numeral of a column: its binary number, and its whole number if it has that form. -/
structure Numeral where
  /-- The binary number. -/
  number : Binary64
  /-- The whole number. -/
  whole : Option Int

/-- Reads the numeral of a row. -/
def Numeral.read (row : Nat) (t : Text) : Outcome Numeral :=
  match Binary64.Stepwise.read? t with
  | some (x, true) =>
    match LedgerTags.Numeral.int? 10 t with
    | .ok n =>
      if n < minWhole ∨ maxWhole < n then .error (.integerOutOfRange row) else .ok ⟨x, some n⟩
    | .error _ => .error (.notANumber t row)
  | some (x, false) => .ok ⟨x, none⟩
  | none =>
    match Binary64.Stepwise.readInfinity? t with
    | some x => .ok ⟨x, none⟩
    | none => .error (.notANumber t row)

/-- Reads the numerals of the rows from `row` on. -/
def Numeral.readAll (row : Nat) : List Text → Outcome (List Numeral)
  | [] => .ok []
  | t :: ts => do return (← Numeral.read row t) :: (← Numeral.readAll (row + 1) ts)

/-- The numbers of a column of numerals. A column with negative whole numbers and with whole numbers
that only a column without them can hold stays a column of texts. -/
def numbersOfTexts (ts : List Text) : Outcome (List Value) := do
  let ns ← Numeral.readAll 0 ts
  let wholes := ns.filterMap (·.whole)
  if wholes.any isLarge && wholes.any isNegative then return ts.map .text
  else if wholes.length = ns.length then return wholes.map .int
  else return ns.map fun n => .float n.number

/-! ### Values of any kind -/

/-- What has been seen of a column that holds nothing but numbers so far. -/
structure Survey where
  /-- An empty cell. -/
  empty : Bool := false
  /-- A binary number. -/
  binary : Bool := false
  /-- A whole number. -/
  whole : Bool := false
  /-- A whole number that only a column without negative numbers can hold. -/
  large : Bool := false
  /-- A negative whole number. -/
  negative : Bool := false

/-- What has been seen after one more cell; none if the column is not one of numbers. Behind an
empty cell whole numbers may have any size, because they will be binary ones. -/
def Survey.add (s : Survey) : Value → Outcome (Option Survey)
  | .null => .ok (some { s with empty := true })
  | .float _ => .ok (some { s with binary := true })
  | .int n =>
    match Binary64.ofInt n with
    | .infinity _ => .error .numberTooLarge
    | _ =>
      if s.empty then .ok (some { s with whole := true })
      else
        let s : Survey := { s with
          whole := true
          large := s.large || isLarge n
          negative := s.negative || isNegative n }
        .ok (if n < minWhole ∨ maxWhole < n ∨ (s.large && s.negative) then none else some s)
  | _ => .ok none

/-- What has been seen after further cells. -/
def Survey.addAll (s : Survey) : List Value → Outcome (Option Survey)
  | [] => .ok (some s)
  | v :: vs => do
    match ← s.add v with
    | none => return none
    | some s => s.addAll vs

/-- Whether the whole numbers of a column become binary ones. -/
def Survey.isBinary (s : Survey) : Bool := s.binary || (s.empty && s.whole)

/-- A cell of a column of binary numbers. -/
def toBinary : Value → Value
  | .int n => .float (Binary64.ofInt n)
  | v => v

/-- A cell of which nothing is shown. -/
def isEmpty : Value → Bool
  | .null | .float .nan => true
  | _ => false

/-- A cell with nothing in it as null. -/
def emptied (v : Value) : Value := if isEmpty v then .null else v

/-- The cells of a column, of one kind where that is possible. -/
def unify (vs : List Value) : Outcome (List Value) := do
  match ← Survey.addAll {} vs with
  | some s => return (if s.isBinary then vs.map toBinary else vs).map emptied
  | none => return vs.map emptied

end LedgerTags.Frame.Column

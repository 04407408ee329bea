import LedgerTags.Query.Resolve

/-!
# Filtering

A filter keeps the records that meet all criteria, or, negated, those that fail one, in the order of
the collection. Its arguments are understood before the first record is tested.
-/

namespace LedgerTags.Query

/-- The records whose test is not `negate`. -/
def select (criteria : List Criterion) (negate : Bool) : List Record → Outcome (List Record)
  | [] => .ok []
  | r :: rs => do
    let met ← Criterion.testAll r.transaction criteria
    let rest ← select criteria negate rs
    return if met != negate then r :: rest else rest

/-- The records that meet the criteria of the arguments, or fail one of them. -/
def filter (rs : List Record) (arguments : Criteria) (negate : Bool) : Outcome (List Record) := do
  select (← Criterion.resolve (rs.map (·.transaction)) arguments) negate rs

/-- The name of the collection among the arguments of a filter, which is given by its place. -/
def collectionName : Text := "transactions"

/-- Filtering with arguments given by name. An unknown name is refused, the alphabetically first
one if there are several. -/
def filterNamed (rs : List Record) (named : List (Text × Argument)) (negate : Bool) :
    Outcome (List Record) :=
  if (named.lookup collectionName).isSome then .error (.repeatedArgument "tfilter" collectionName)
  else
    match Criteria.unknownName? named with
    | some (name, a) =>
      .error (.about (fun v => .argument name v "a known transaction field") a.toValue)
    | none => do filter rs (← Criteria.ofNamed named) negate

end LedgerTags.Query

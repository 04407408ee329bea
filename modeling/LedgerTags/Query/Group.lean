import LedgerTags.Query.Record
import LedgerTags.Sorting
import LedgerTags.Value.Order

/-!
# Grouping by calendar period

Records are put into buckets by the first day of the period of their post date or transaction date.
Buckets are in ascending order, empty ones are left out, and records without a date are skipped.
-/

namespace LedgerTags.Query

/-- A bucket: the first day of its period and its records. -/
abbrev Group := Value × List Record

/-- Groups with one more record. -/
def addToGroup (start : Value) (r : Record) : List Group → List Group
  | [] => [(start, [r])]
  | (s, rs) :: gs =>
    if Value.sameKey s start then (s, rs ++ [r]) :: gs else (s, rs) :: addToGroup start r gs

/-- Groups after further records. -/
def addAllToGroups (field : Field) (bucket : Value) (groups : List Group) :
    List Record → Outcome (List Group)
  | [] => .ok groups
  | r :: rs => do
    match r.transaction.get field with
    | .null => addAllToGroups field bucket groups rs
    | d =>
      let start ← Value.bucketStart d bucket
      Value.checkHashable start
      addAllToGroups field bucket (addToGroup start r groups) rs

/-- Understands what is given as a bucket. -/
def bucketOf (v : Value) : Outcome Bucket :=
  match v.text?.bind Bucket.ofText? with
  | some b => .ok b
  | none =>
    .error (.about (fun v => .argument "bucket" v ("one of " ++
      Text.joinWith ", " (Bucket.all.map Bucket.toText))) v)

/-- Understands what is given as the date field. -/
def dateFieldOf (v : Value) : Outcome Field :=
  match v.text?.bind Field.ofText? with
  | some .postDate => .ok .postDate
  | some .transactionDate => .ok .transactionDate
  | _ => .error (.about (fun v => .argument "field" v "post_date or transaction_date") v)

/-- Groups records by calendar period. -/
def group (rs : List Record) (bucket field : Value) : Outcome (List Group) := do
  let _ ← bucketOf bucket
  let f ← dateFieldOf field
  let groups ← addAllToGroups f bucket [] rs
  Sorting.sort (fun a b => Value.test .lt a.1 b.1) groups

end LedgerTags.Query

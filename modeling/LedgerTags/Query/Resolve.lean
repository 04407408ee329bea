import LedgerTags.Query.Criterion

/-!
# Understanding the arguments of a filter

Every argument can take several forms; each form becomes a criterion, and any other form is an
error. The arguments are understood in a fixed order, whatever the order in which they are given,
and before any record is tested. Only a number of days looks at the records: it is counted back from
the latest post date.
-/

namespace LedgerTags

/-- An argument of a query: a value, or something that is asked of each field value. -/
inductive Argument where
  | value (v : Value)
  | ask (f : Value → Outcome Value)

namespace Argument

/-- The argument as a value in messages. -/
def toValue : Argument → Value
  | value v => v
  | ask _ => .callable

/-- No argument at all. -/
def isAbsent : Argument → Bool
  | value .null => true
  | _ => false

end Argument

/-- The arguments of a filter. -/
abbrev Criteria := List (FilterKey × Argument)

namespace Criterion

/-- The error for an argument that is not understood. -/
def refuse {α : Type} (key : FilterKey) (v : Value) (expected : String) : Outcome α :=
  .error (.about (fun v => .argument key.toText v expected) v)

/-- The keys whose texts have to be met exactly. -/
def isExactKey (key : FilterKey) : Bool := key == .bank || key == .account

/-- A criterion on a text field. -/
def ofText (key : FilterKey) : Argument → Outcome Criterion
  | .ask f => .ok (.holds key f)
  | .value (.text t) =>
    .ok (if isExactKey key then .exact key (Text.lower t) else .contains key (Text.lower t))
  | .value v =>
    refuse key v
      (if isExactKey key then "exact string or callable" else "substring string or callable")

/-- A criterion on the tags. -/
def ofTags : Argument → Outcome Criterion
  | .ask f => .ok (.holds .tags f)
  | .value (.text t) => .ok (.hasTag t)
  | .value v =>
    match v.collection? with
    | some vs =>
      match vs.mapM Value.text? with
      | some (t :: ts) => .ok (.anyTag (TagSet.ofList (t :: ts)))
      | _ => refuse .tags v "non-empty collection of strings"
    | none => refuse .tags v "tag string, collection of tags or callable"

/-- The words for amounts above zero. -/
def depositWords : List Text := ["deposit", "d", "+"]

/-- The words for amounts below zero. -/
def withdrawalWords : List Text := ["withdrawal", "w", "-"]

/-- A number that can bound a range of amounts. -/
def isBound : Value → Bool
  | .int _ | .float _ | .decimal _ => true
  | _ => false

/-- A range of amounts. -/
def ofAmounts (v lo hi : Value) : Outcome Criterion := do
  let a ← lo.toAmount
  let b ← hi.toAmount
  if !(a.isFinite && b.isFinite) then refuse .amount v "finite (lo, hi) bounds"
  else if Decimal.compare? a b == some .gt then refuse .amount v "range with lo <= hi"
  else return .inRange .amount (.decimal a) (.decimal b)

/-- A criterion on the amount. -/
def ofAmount : Argument → Outcome Criterion
  | .ask f => .ok (.holds .amount f)
  | .value (.text t) =>
    let word := Text.lower t.trim
    if depositWords.contains word then .ok (.sign true)
    else if withdrawalWords.contains word then .ok (.sign false)
    else refuse .amount (.text t) "one of deposit, withdrawal, d, w, +, -"
  | .value v =>
    match v.sequence? with
    | some [lo, hi] =>
      if isBound lo && isBound hi then ofAmounts v lo hi
      else refuse .amount v "keyword, (lo, hi) numeric range or callable"
    | _ => refuse .amount v "keyword, (lo, hi) numeric range or callable"

/-- The period that the end of a range of dates names. -/
def periodOf : Value → Outcome (Option Period)
  | .dateTime t => .ok (some ⟨.day, t.date, t.date⟩)
  | .date d => .ok (some ⟨.day, d, d⟩)
  | v => v.toPeriod

/-- The last `days` days up to the latest date of a collection, none if it has no dates. No more
days are counted back than there are. -/
def ofDays (days : Nat) : Option Value → Outcome Criterion
  | none => .ok (.inRange .date (.date .latest) (.date .latest))
  | some (.date d) => do
    let days := min days (d.ordinal - Date.earliest.ordinal)
    let first ← (d.back days).mapError .noSuchDay
    return .inRange .date (.date first) (.date d)
  | some v => .error (.noDifference v.kindName "datetime.date")

/-- A criterion on the date, given the latest date of the collection. -/
def ofDate (latest : Option Value) : Argument → Outcome Criterion
  | .ask f => .ok (.holds .date f)
  | .value v =>
    match v with
    | .int n =>
      if n < 0 then refuse .date v "non-negative number of days" else ofDays n.toNat latest
    | .text _ => do
      match ← v.toPeriod with
      | some p => return .inPeriod p
      | none => refuse .date v "YYYY, YYYY-MM or YYYY-MM-DD"
    | v =>
      match v.sequence? with
      | some [first, last] => do
        let a ← periodOf first
        let b ← periodOf last
        match a, b with
        | some p, some q =>
          if (p.first.compare q.last) == .gt then refuse .date v "range with start <= end"
          else return .inRange .date (.date p.first) (.date q.last)
        | _, _ => refuse .date v "(start, end) pair of date strings"
      | _ => refuse .date v "days as int, date string, (start, end) pair or callable"

/-- The greatest of some values. -/
def greatest : List Value → Outcome (Option Value)
  | [] => .ok none
  | v :: vs => do
    let go (best w : Value) : Outcome Value := do
      return if ← Value.test .gt w best then w else best
    return some (← vs.foldlM go v)

/-- The latest post date of a collection. -/
def latestDate (ts : List Transaction) : Outcome (Option Value) :=
  greatest ((ts.map (·.postDate)).filter fun v =>
    match v with
    | .null => false
    | _ => true)

/-- The criterion of an argument. -/
def ofArgument (ts : List Transaction) (key : FilterKey) (a : Argument) : Outcome Criterion :=
  match key with
  | .tags => ofTags a
  | .amount => ofAmount a
  | .date => do ofDate (← latestDate ts) a
  | key => ofText key a

/-- The criteria of the arguments for some keys, in the order of the keys. -/
def resolveKeys (ts : List Transaction) (arguments : Criteria) :
    List FilterKey → Outcome (List Criterion)
  | [] => .ok []
  | key :: keys =>
    match arguments.lookup key with
    | none => resolveKeys ts arguments keys
    | some a =>
      if a.isAbsent then resolveKeys ts arguments keys
      else do
        let c ← ofArgument ts key a
        return c :: (← resolveKeys ts arguments keys)

/-- The criteria of the arguments of a filter over a collection. -/
def resolve (ts : List Transaction) (arguments : Criteria) : Outcome (List Criterion) :=
  resolveKeys ts arguments FilterKey.all

end Criterion

namespace Criteria

/-- The name of the collection among the arguments. It is given by its place, so that giving it by
its name as well gives it twice. -/
def collectionName : Text := "txns"

/-- Arguments given by name; the first unknown name is an error. -/
def ofNamed : List (Text × Argument) → Outcome Criteria
  | [] => .ok []
  | (name, a) :: rest =>
    match FilterKey.ofText? name with
    | some key => do return (key, a) :: (← ofNamed rest)
    | none =>
      .error
        (if name = collectionName then .repeatedArgument "resolve_criteria" name
        else .unknownKeyword "resolve_criteria" name)

/-- The alphabetically first of the unknown names. -/
def unknownName? (named : List (Text × Argument)) : Option (Text × Argument) :=
  let unknown := named.filter fun e => (FilterKey.ofText? e.1).isNone
  match unknown with
  | [] => none
  | e :: es => some (es.foldl (fun best e => if Text.lt e.1 best.1 then e else best) e)

end Criteria

end LedgerTags

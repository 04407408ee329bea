import LedgerTags.Calendar.Bucket
import LedgerTags.Calendar.Period
import LedgerTags.Decimal.Reader
import LedgerTags.Error

/-!
# Amounts and dates out of field values

How the fields of a mapping become an amount or a date. An amount may be any number or a numeral
with commas between its digits; truth values and null are no amounts. A date may be given as a date,
a dated time, or the text of a day.
-/

namespace LedgerTags.Value

/-- The text of a value, an error for a whole number with too many digits. -/
def toText (v : Value) : Outcome Text :=
  if v.isDisplayable then .ok v.plain else .error (.numeralTooLong none)

/-- The amount that a text stands for; commas are passed over. -/
def amountOfText? (t : Text) : Option Decimal :=
  Decimal.ofText? (t.filter fun c => c.val != 44)

/-- The amount that a value stands for. -/
def toAmount (v : Value) : Outcome Decimal :=
  match v with
  | decimal x => .ok x
  | null | bool _ => .error (.notAnAmount v)
  | v => do
    match amountOfText? (← v.toText) with
    | some x => return x
    | none => throw (.about .notAnAmount v)

/-- The period that a value names, if it is a text that names one. -/
def toPeriod (v : Value) : Outcome (Option Period) :=
  match v with
  | text t => (Period.ofText t).mapError .noSuchDay
  | _ => .ok none

/-- The day that a value stands for; none for null and the empty text. -/
def toDate (v : Value) : Outcome (Option Date) :=
  match v with
  | null => .ok none
  | dateTime t => .ok (some t.date)
  | date d => .ok (some d)
  | v =>
    if v.text? = some [] then .ok none
    else do
      match ← (Period.ofText (← v.toText)).mapError Error.noSuchDay with
      | some ⟨.day, d, _⟩ => return some d
      | _ => throw (.about .notADate v)

/-- The first day of the period of a date that a value names as its bucket. -/
def bucketStart (v bucket : Value) : Outcome Value :=
  let within (b : Bucket) (missing : Error) : Outcome Value :=
    match v with
    | date d => do
      let start ← (b.first d).mapError .noSuchDay
      return date start
    | dateTime t => do
      let start ← (b.first t.date).mapError .noSuchDay
      return dateTime { t with date := start }
    | _ => .error missing
  match bucket with
  | text t =>
    match Bucket.ofText? t with
    | some .day => .ok v
    | some .week =>
      within .week (.missingAttribute v.kindName "weekday")
    | some b =>
      let missing : Error :=
        match v with
        | text _ => .noKeywords "str.replace"
        | octets _ => .noKeywords "bytes.replace"
        | v => .missingAttribute v.kindName "replace"
      within b missing
    | none => .error (.unknownBucket bucket)
  | bucket => .error (.about .unknownBucket bucket)

end LedgerTags.Value

namespace LedgerTags

/-- Whether a value lies in a period. Only dates do, and a dated time cannot be compared with the
ends of the period. -/
def Period.containsValue (p : Period) (v : Value) : Outcome Bool :=
  match v with
  | .date d => .ok (p.contains d)
  | .dateTime _ => .error (.datesOfTwoKinds "datetime.datetime" "datetime.date")
  | _ => .ok false

end LedgerTags

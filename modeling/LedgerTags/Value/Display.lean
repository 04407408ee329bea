import LedgerTags.Decimal.Printer
import LedgerTags.Number.Numeral
import LedgerTags.Number.Shortest
import LedgerTags.Text.Quoted
import LedgerTags.Value.Basic

/-!
# Values in messages

`Value.display` is the form of a value inside a message, in which texts are quoted and dates and
decimals are named; `Value.plain` is the form in which a value stands for itself as text. Whole
numbers of more than 4300 digits have neither: `isDisplayable` says whether one occurs.
-/

namespace LedgerTags.Value

/-- Whole numbers, separated by commas. -/
def numberList (ns : List Nat) : Text := Text.joinWith ", " (ns.map Text.ofNat)

/-- The display of a distance from universal time. -/
def displayOffset (minutes : Int) : Text :=
  if minutes = 0 then "datetime.timezone.utc"
  else
    let days := Int.fdiv minutes 1440
    let seconds := Int.fmod minutes 1440 * 60
    let parts : List Text :=
      (if days = 0 then [] else ["days=" ++ Text.ofInt days]) ++
        (if seconds = 0 then [] else ["seconds=" ++ Text.ofInt seconds])
    "datetime.timezone(datetime.timedelta(" ++ Text.joinWith ", " parts ++ "))"

/-- The numbers of a time of day that are shown: trailing zeros after the minute are left out. -/
def timeNumbers (t : TimeOfDay) : List Nat :=
  if t.microsecond ≠ 0 then [t.hour, t.minute, t.second, t.microsecond]
  else if t.second ≠ 0 then [t.hour, t.minute, t.second]
  else [t.hour, t.minute]

/-- The display of a dated time. -/
def displayDateTime (t : DateTime) : Text :=
  "datetime.datetime(" ++
    numberList ([t.date.year, t.date.month, t.date.day] ++ timeNumbers t.time) ++
    (match t.offset with
    | some m => ", tzinfo=" ++ displayOffset m
    | none => []) ++ ")"

/-- Parts between an opening and a closing bracket. -/
def bracketed (opening closing : String) (parts : List Text) : Text :=
  opening ++ Text.joinWith ", " parts ++ closing

mutual

/-- The form of a value inside a message, where `around` are the numbers of the cyclic values that
it lies in. -/
def displayIn (around : List Nat) : Value → Text
  | null => "None"
  | bool b => if b then "True" else "False"
  | int n => Text.ofInt n
  | float x => x.toText
  | decimal x => "Decimal('" ++ x.toText ++ "')"
  | text t => Text.quoted t
  | octets bs => Text.quotedOctets bs
  | date d => "datetime.date(" ++ numberList [d.year, d.month, d.day] ++ ")"
  | dateTime t => displayDateTime t
  | time t => "datetime.time(" ++ numberList (timeNumbers t) ++ ")"
  | list xs => bracketed "[" "]" (displayAll around xs)
  | tuple xs =>
    match xs with
    | [_] => bracketed "(" ",)" (displayAll around xs)
    | _ => bracketed "(" ")" (displayAll around xs)
  | set xs => if xs.isEmpty then "set()" else bracketed "\x7b" "\x7d" (displayAll around xs)
  | frozenSet xs =>
    if xs.isEmpty then "frozenset()" else bracketed "frozenset(\x7b" "\x7d)" (displayAll around xs)
  | dict es => bracketed "\x7b" "\x7d" (displayEntries around es)
  | record fs => bracketed "Transaction(" ")" (displayFields around fs)
  | callable => "<function>"
  | cyclic n v =>
    if around.contains n then
      if v.mapping?.isSome then "\x7b...\x7d" else "[...]"
    else displayIn (n :: around) v

/-- The displays of several values. -/
def displayAll (around : List Nat) : List Value → List Text
  | [] => []
  | x :: xs => displayIn around x :: displayAll around xs

/-- The displays of the entries of a mapping. -/
def displayEntries (around : List Nat) : List (Value × Value) → List Text
  | [] => []
  | (k, v) :: es => (displayIn around k ++ ": " ++ displayIn around v) :: displayEntries around es

/-- The displays of the fields of a record. -/
def displayFields (around : List Nat) : List (Text × Value) → List Text
  | [] => []
  | (k, v) :: fs => (k ++ "=" ++ displayIn around v) :: displayFields around fs

end

/-- The form of a value inside a message. -/
def display (v : Value) : Text := displayIn [] v

/-- The text that a value stands for. -/
def plain : Value → Text
  | text t => t
  | date d => d.toText
  | dateTime t =>
    t.date.toText ++ " " ++ t.time.toText ++
      (match t.offset with
      | some m => DateTime.offsetText m
      | none => [])
  | time t => t.toText
  | decimal x => x.toText
  | v => display v

/-- A whole number that has a numeral. -/
def hasNumeral (n : Int) : Bool := n.natAbs < Nat.pow 10 Numeral.digitLimit

mutual

/-- No whole number in the value has too many digits. -/
def isDisplayable : Value → Bool
  | int n => hasNumeral n
  | list xs | tuple xs | set xs | frozenSet xs => allDisplayable xs
  | dict es => entriesDisplayable es
  | record fs => fieldsDisplayable fs
  | cyclic _ v => isDisplayable v
  | _ => true

/-- Helper of `isDisplayable` for several values. -/
def allDisplayable : List Value → Bool
  | [] => true
  | x :: xs => isDisplayable x && allDisplayable xs

/-- Helper of `isDisplayable` for entries. -/
def entriesDisplayable : List (Value × Value) → Bool
  | [] => true
  | (k, v) :: es => isDisplayable k && isDisplayable v && entriesDisplayable es

/-- Helper of `isDisplayable` for fields. -/
def fieldsDisplayable : List (Text × Value) → Bool
  | [] => true
  | (_, v) :: fs => isDisplayable v && fieldsDisplayable fs

end

end LedgerTags.Value

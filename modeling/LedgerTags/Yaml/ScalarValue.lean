import LedgerTags.Calendar.DateTime
import LedgerTags.Text.Base64
import LedgerTags.Yaml.Cursor
import LedgerTags.Yaml.Tag

/-!
# The values of scalars

What the text of a scalar stands for under each tag. A tag can be given to any text, so each reading
can fail: with a fault of the document where the format is broken, and with the error of the reading
otherwise.
-/

namespace LedgerTags.Yaml

/-- A reading that names no value when it fails. -/
def orNoValue {α : Type} (r : Outcome α) : Reading α := r.mapError .noValue

/-- A text without its low lines. -/
def dropLowLines (t : Text) : Text := t.filter fun c => c.val != 95

/-- The whole number of a numeral. -/
def wholeNumber (base : Nat) (t : Text) : Outcome Int :=
  match Numeral.int? base t with
  | .ok n => .ok n
  | .error .malformed => .error (.notAWholeNumber base t)
  | .error (.tooLong n) => .error (.numeralTooLong (some n))

/-- The number of a numeral with a point. -/
def floatNumber (t : Text) : Outcome Binary64 :=
  match Numeral.float? t with
  | some x => .ok x
  | none => .error (.notAFloat t)

/-- A sign at the start of a text, which must not be empty, and the rest. -/
def splitSign (t : Text) : Outcome (Bool × Text) :=
  if t.isEmpty then .error (.indexOutOfRange "string") else .ok (Decimal.readSign t)

/-- Digits to the base sixty, the highest first, as a number. -/
def fromSixtieths (ds : List Int) : Int := ds.foldl (fun n d => 60 * n + d) 0

/-- A whole number. The base is two after `0b`, sixteen after `0x`, eight after any other zero, and
sixty between colons. -/
def readInt (t : Text) : Outcome Int := do
  let (negative, u) ← splitSign (dropLowLines t)
  let n ←
    if u = ("0" : Text) then pure 0
    else
      match Text.dropLiteral? "0b" u, Text.dropLiteral? "0x" u with
      | some v, _ => wholeNumber 2 v
      | none, some v => wholeNumber 16 v
      | none, none =>
        if u.isEmpty then throw (.indexOutOfRange "string")
        else if u.startsWith "0" then wholeNumber 8 u
        else if u.contains (CodePoint.ofChar ':') then
          fromSixtieths <$> (u.splitOn ':').mapM (wholeNumber 10)
        else wholeNumber 10 u
  return if negative then -n else n

/-- The sum of digits to the base sixty, the lowest first, in binary numbers. -/
def sumSixtieths : (base : Nat) → (sum : Binary64) → List Binary64 → Outcome Binary64
  | _, sum, [] => .ok sum
  | base, sum, d :: ds =>
    match Binary64.ofInt base with
    | .infinity _ => .error .numberTooLarge
    | b => sumSixtieths (base * 60) (sum.add (d.mul b)) ds

/-- A number with a point. -/
def readFloat (t : Text) : Outcome Binary64 := do
  let (negative, u) ← splitSign (Text.lower (dropLowLines t))
  let x ←
    if u = (".inf" : Text) then pure (.infinity false)
    else if u = (".nan" : Text) then return .nan
    else if u.contains (CodePoint.ofChar ':') then do
      let ds ← (u.splitOn ':').mapM floatNumber
      sumSixtieths 1 .zero ds.reverse
    else floatNumber u
  return if negative then x.neg else x

/-- The words for truth values in lower case. -/
def boolWords : List (Text × Bool) := [
  ("yes", true), ("no", false), ("true", true), ("false", false), ("on", true), ("off", false)]

/-- A truth value. -/
def readBool (t : Text) : Outcome Bool :=
  match boolWords.lookup (Text.lower t) with
  | some b => .ok b
  | none => .error (.missingKey (.text (Text.lower t)))

/-! ### Dates -/

/-- From `least` to `most` digits at the start of a text as a number, and the rest. -/
def readDigits (least most : Nat) (t : Text) : Option (Nat × Text) := do
  let ds := (t.takeWhile CodePoint.isAsciiDigit).take most
  if ds.length < least then none else return (← Text.asciiNat? ds, t.drop ds.length)

/-- The microseconds of a fraction of a second. -/
def microseconds (ds : Text) : Nat :=
  let ds := (ds ++ "000000").take 6
  (Text.asciiNat? ds).getD 0

/-- A time zone as its distance from universal time in minutes; the text has to end behind it. -/
def readZone (t : Text) : Option (Option Int) :=
  match t.dropWhile fun c => c.val == 32 || c.val == 9 with
  | [] => if t.isEmpty then some none else none
  | c :: u =>
    if c.val = 90 then if u.isEmpty then some (some 0) else none
    else if c.val = 43 ∨ c.val = 45 then do
      let (hours, rest) ← readDigits 1 2 u
      let (minutes, rest) ←
        match Text.dropLiteral? ":" rest with
        | some v => readDigits 2 2 v
        | none => some (0, rest)
      let n : Int := hours * 60 + minutes
      if rest.isEmpty then some (some (if c.val = 45 then -n else n)) else none
    else none

/-- A time of day as its hour, minute, second and microsecond, and its zone. -/
def readTimeParts (t : Text) : Option ((Nat × Nat × Nat × Nat) × Option Int) := do
  let u ← match t with
    | c :: u => if c.val = 84 ∨ c.val = 116 then some u else
      if c.val = 32 ∨ c.val = 9 then some (u.dropWhile fun c => c.val == 32 || c.val == 9) else none
    | [] => none
  let (hour, rest) ← readDigits 1 2 u
  let (minute, rest) ← readDigits 2 2 (← Text.dropLiteral? ":" rest)
  let (second, rest) ← readDigits 2 2 (← Text.dropLiteral? ":" rest)
  let (fraction, rest) :=
    match Text.dropLiteral? "." rest with
    | some v => (v.takeWhile CodePoint.isAsciiDigit, v.dropWhile CodePoint.isAsciiDigit)
    | none => ([], rest)
  return ((hour, minute, second, microseconds fraction), ← readZone rest)

/-- The numbers of a date, and the text behind it. -/
def readDateParts (t : Text) : Option ((Nat × Nat × Nat) × Text) := do
  let (year, rest) ← readDigits 4 4 t
  let (month, rest) ← readDigits 1 2 (← Text.dropLiteral? "-" rest)
  let (day, rest) ← readDigits 1 2 (← Text.dropLiteral? "-" rest)
  return ((year, month, day), rest)

/-- A date. -/
def dateOf (year month day : Nat) : Outcome Date :=
  (Date.ofNumbers year month day).mapError Error.noSuchDay

/-- A date, or a date with a time of day. -/
def readTimestamp (t : Text) : Outcome Value := do
  let body := if t.getLast? = some (CodePoint.ofNat 10) then t.dropLast else t
  let unread : Error := .missingAttribute "NoneType" "groupdict"
  match readDateParts body with
  | none => throw unread
  | some ((year, month, day), []) => return .date (← dateOf year month day)
  | some ((year, month, day), rest) =>
    match readTimeParts rest with
    | none => throw unread
    | some ((hour, minute, second, microsecond), offset) =>
      if let some m := offset then
        if 1440 ≤ m.natAbs then throw (.offsetTooLarge m)
      let date ← dateOf year month day
      let time ← (TimeOfDay.ofNumbers hour minute second microsecond).mapError Error.noSuchTime
      return .dateTime { date, time, offset }

/-! ### All scalars -/

/-- The value of a scalar. -/
def scalarValue (tag : Tag) (t : Text) : Reading Value :=
  match tag with
  | .null => .ok .null
  | .bool => Value.bool <$> orNoValue (readBool t)
  | .int => Value.int <$> orNoValue (readInt t)
  | .float => Value.float <$> orNoValue (readFloat t)
  | .timestamp => orNoValue (readTimestamp t)
  | .text => .ok (.text t)
  | .binary =>
    if t.all CodePoint.isAscii then
      match Text.Base64.decode? t with
      | some bs => .ok (.octets bs)
      | none => .error .malformed
    else .error .malformed
  | .sequence | .mapping | .set | .pairs | .merge | .value | .unknown => .error .malformed

end LedgerTags.Yaml

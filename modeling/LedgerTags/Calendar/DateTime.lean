import LedgerTags.Calendar.Date

/-!
# Times and dated times

A time of day to the microsecond, and a date with a time of day. A dated time may know its distance
from universal time in minutes; one that does is never equal to one that does not.
-/

namespace LedgerTags

/-- A time of day. -/
structure TimeOfDay where
  /-- The hour, from 0 to 23. -/
  hour : Nat
  /-- The minute, from 0 to 59. -/
  minute : Nat
  /-- The second, from 0 to 59. -/
  second : Nat
  /-- The microsecond, from 0 to 999999. -/
  microsecond : Nat
deriving DecidableEq, Repr, Inhabited

namespace TimeOfDay

/-- The part of a time that is out of its range. -/
inductive Fault where
  | hour
  | minute
  | second
deriving DecidableEq, Repr

/-- The time that numbers name; the microseconds are in range by the way they are written. -/
def ofNumbers (hour minute second microsecond : Nat) : Except Fault TimeOfDay :=
  if 23 < hour then .error .hour
  else if 59 < minute then .error .minute
  else if 59 < second then .error .second
  else .ok ⟨hour, minute, second, microsecond⟩

/-- The number of microseconds since midnight. -/
def toMicroseconds (t : TimeOfDay) : Nat :=
  ((t.hour * 60 + t.minute) * 60 + t.second) * 1000000 + t.microsecond

/-- The text `HH:MM:SS`, followed by the microseconds if there are any. -/
def toText (t : TimeOfDay) : Text :=
  Text.ofNatPadded 2 t.hour ++ ":" ++ Text.ofNatPadded 2 t.minute ++ ":" ++
    Text.ofNatPadded 2 t.second ++
    (if t.microsecond = 0 then [] else "." ++ Text.ofNatPadded 6 t.microsecond)

end TimeOfDay

/-- A date with a time of day. -/
structure DateTime where
  /-- The date. -/
  date : Date
  /-- The time of day. -/
  time : TimeOfDay
  /-- The distance from universal time in minutes, if it is known. -/
  offset : Option Int := none
deriving DecidableEq, Repr, Inhabited

namespace DateTime

/-- The number of microseconds since the day before the first one, in universal time where the
offset is known. -/
def toMicroseconds (t : DateTime) : Int :=
  (t.date.ordinal * 86400000000 + t.time.toMicroseconds : Nat) - t.offset.getD 0 * 60000000

/-- Order of two dated times that both know their offset or both do not. -/
def compare? (a b : DateTime) : Option Ordering :=
  if a.offset.isSome = b.offset.isSome then some (compare a.toMicroseconds b.toMicroseconds)
  else none

/-- The same moment. -/
def same (a b : DateTime) : Bool := compare? a b == some .eq

/-- The text of an offset, `+HH:MM`. -/
def offsetText (minutes : Int) : Text :=
  (if minutes < 0 then "-" else "+" : Text) ++ Text.ofNatPadded 2 (minutes.natAbs / 60) ++ ":" ++
    Text.ofNatPadded 2 (minutes.natAbs % 60)

/-- The date and the time with a `T` between them, followed by the offset. -/
def toText (t : DateTime) : Text :=
  t.date.toText ++ "T" ++ t.time.toText ++
    (match t.offset with
    | some m => offsetText m
    | none => [])

end DateTime

end LedgerTags

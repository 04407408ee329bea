import LedgerTags.Text.Basic

/-!
# Calendar dates

Days of the Gregorian calendar, extended backwards, from 0001-01-01 to 9999-12-31. A `Date` holds a
proof that its day exists. `ordinal` numbers the days from one, and `ofOrdinal?` finds the day of a
number; week days and differences of days go through it.
-/

namespace LedgerTags

/-- A year of 366 days. -/
def isLeapYear (year : Nat) : Bool :=
  year % 4 == 0 && (year % 100 != 0 || year % 400 == 0)

/-- The length of a month; zero for a number that names no month. -/
def daysInMonth (year month : Nat) : Nat :=
  match month with
  | 1 | 3 | 5 | 7 | 8 | 10 | 12 => 31
  | 4 | 6 | 9 | 11 => 30
  | 2 => if isLeapYear year then 29 else 28
  | _ => 0

/-- The day exists, in a year from 1 to 9999. -/
def IsCalendarDay (year month day : Nat) : Prop :=
  1 ≤ year ∧ year ≤ 9999 ∧ 1 ≤ month ∧ month ≤ 12 ∧ 1 ≤ day ∧ day ≤ daysInMonth year month

instance (year month day : Nat) : Decidable (IsCalendarDay year month day) :=
  inferInstanceAs (Decidable (_ ∧ _))

/-- A day of the calendar. -/
structure Date where
  /-- The year, from 1 to 9999. -/
  year : Nat
  /-- The month, from 1 to 12. -/
  month : Nat
  /-- The day of the month, from 1. -/
  day : Nat
  valid : IsCalendarDay year month day := by decide
deriving DecidableEq, Repr

namespace Date

/-- Why there is no such day: three numbers do not name one, or counting back does not end at
one. -/
inductive Fault where
  /-- The year is not one of 1 to 9999. -/
  | year (year : Nat)
  /-- The month is not one of 1 to 12. -/
  | month
  /-- The month has no such day. -/
  | day
  /-- No span of time has so many days. -/
  | span (days : Nat)
  /-- The day would be before the first one. -/
  | beforeFirst
deriving DecidableEq, Repr

/-- The day that three numbers name. -/
def ofNumbers (year month day : Nat) : Except Fault Date :=
  if h : IsCalendarDay year month day then .ok ⟨year, month, day, h⟩
  else if year < 1 ∨ 9999 < year then .error (.year year)
  else if month < 1 ∨ 12 < month then .error .month
  else .error .day

/-- The first day. -/
def earliest : Date := { year := 1, month := 1, day := 1 }

/-- The last day. -/
def latest : Date := { year := 9999, month := 12, day := 31 }

instance : Inhabited Date := ⟨earliest⟩

/-- Chronological order. -/
def compare (a b : Date) : Ordering :=
  (Ord.compare a.year b.year).then ((Ord.compare a.month b.month).then (Ord.compare a.day b.day))

/-- Not later than. -/
def le (a b : Date) : Bool := (a.compare b).isLE

/-! ### Day numbers -/

/-- The number of days before a year. -/
def daysBeforeYear (year : Nat) : Nat :=
  let y := year - 1
  365 * y + y / 4 - y / 100 + y / 400

/-- The number of days of a year before a month. -/
def daysBeforeMonth (year : Nat) : (month : Nat) → Nat
  | 0 => 0
  | m + 1 => daysBeforeMonth year m + daysInMonth year m

/-- The number of a day; 0001-01-01 has number one. -/
def ordinal (d : Date) : Nat :=
  daysBeforeYear d.year + daysBeforeMonth d.year d.month + d.day

/-- The last year from `year` on, looking at `fuel` further ones, before which there are fewer than
`n` days. -/
def yearFrom (n : Nat) : (fuel year : Nat) → Nat
  | 0, year => year
  | fuel + 1, year =>
    if daysBeforeYear (year + 1) < n then yearFrom n fuel (year + 1) else year

/-- The month and day of the `n`-th day of a year, looking at `fuel` months from `month` on. -/
def monthFrom (year : Nat) : (fuel month n : Nat) → Nat × Nat
  | 0, month, n => (month, n)
  | fuel + 1, month, n =>
    if n ≤ daysInMonth year month then (month, n)
    else monthFrom year fuel (month + 1) (n - daysInMonth year month)

/-- The day of a number. -/
def ofOrdinal? (n : Nat) : Option Date :=
  -- No year is longer than 366 days, so the guess is not too late; over the whole calendar it is
  -- at most 21 years too early.
  let year := yearFrom n 21 ((n - 1) / 366 + 1)
  let (month, day) := monthFrom year 12 1 (n - daysBeforeYear year)
  (ofNumbers year month day).toOption

/-- The greatest number of days that a span of time can have. -/
def longestSpan : Nat := 999999999

/-- The day `k` days before. -/
def back (d : Date) (k : Nat) : Except Fault Date :=
  if longestSpan < k then .error (.span k)
  else if k < d.ordinal then
    match ofOrdinal? (d.ordinal - k) with
    | some e => .ok e
    | none => .error .beforeFirst
  else .error .beforeFirst

/-- The day of the week, Monday being zero. -/
def weekday (d : Date) : Nat := (d.ordinal + 6) % 7

/-- The first day of the month. -/
def firstOfMonth (d : Date) : Date where
  year := d.year
  month := d.month
  day := 1
  valid := by
    obtain ⟨h1, h2, h3, h4, h5, h6⟩ := d.valid
    exact ⟨h1, h2, h3, h4, Nat.le_refl 1, Nat.le_trans h5 h6⟩

/-- The first day of the year. -/
def firstOfYear (d : Date) : Date where
  year := d.year
  month := 1
  day := 1
  valid := by
    obtain ⟨h1, h2, -, -, -, -⟩ := d.valid
    exact ⟨h1, h2, Nat.le_refl 1, by decide, Nat.le_refl 1, by simp [daysInMonth]⟩

/-! ### Text -/

/-- The text `YYYY-MM-DD`. -/
def toText (d : Date) : Text :=
  Text.ofNatPadded 4 d.year ++ "-" ++ Text.ofNatPadded 2 d.month ++ "-" ++
    Text.ofNatPadded 2 d.day

end Date

end LedgerTags

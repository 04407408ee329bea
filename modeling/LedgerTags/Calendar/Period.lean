import LedgerTags.Calendar.Date

/-!
# Periods

A calendar period is a year, a month or a day, and is named by a text: `2020`, `2020-03` or
`2020-03-15`, with a slash in place of a hyphen if one likes, digits of any script, and white space
around it. `DatePattern` is what such a text says; `DatePattern.period` is the span of days that it
names.
-/

namespace LedgerTags

/-- The three sizes of a period. -/
inductive Granularity where
  | year
  | month
  | day
deriving DecidableEq, Repr

/-- The name of a size. -/
def Granularity.toText : Granularity → Text
  | .year => "year"
  | .month => "month"
  | .day => "day"

/-- A span of days with both ends included. -/
structure Period where
  /-- The size that the text named. -/
  granularity : Granularity
  /-- The first day. -/
  first : Date
  /-- The last day. -/
  last : Date
deriving DecidableEq, Repr

/-- Whether a day lies in a period. -/
def Period.contains (p : Period) (d : Date) : Bool := p.first.le d && d.le p.last

/-- The numbers in the text of a period. -/
inductive DatePattern where
  | year (year : Nat)
  | month (year month : Nat)
  | day (year month day : Nat)
deriving DecidableEq, Repr

namespace DatePattern

/-- The number that one or two digits stand for, if the text is nothing else. -/
def shortNumber? (t : Text) : Option Nat :=
  match t with
  | [a] => a.decimalValue?
  | [a, b] => do return 10 * (← a.decimalValue?) + (← b.decimalValue?)
  | _ => none

/-- The number that four digits stand for, if the text is nothing else. -/
def yearNumber? (t : Text) : Option Nat :=
  match t with
  | [a, b, c, d] => do
    return 1000 * (← a.decimalValue?) + 100 * (← b.decimalValue?) + 10 * (← c.decimalValue?) +
      (← d.decimalValue?)
  | _ => none

/-- The mark between the numbers of a date. -/
def isSeparator (c : CodePoint) : Bool := c.val == 45 || c.val == 47

/-- The parts of a text between separators. -/
def fields : Text → List Text
  | [] => [[]]
  | c :: t =>
    if isSeparator c then [] :: fields t
    else
      match fields t with
      | [] => [[c]]
      | f :: fs => (c :: f) :: fs

/-- Reads the text of a period. -/
def ofText? (t : Text) : Option DatePattern :=
  match fields t.trim with
  | [y] => (yearNumber? y).map .year
  | [y, m] => do return .month (← yearNumber? y) (← shortNumber? m)
  | [y, m, d] => do return .day (← yearNumber? y) (← shortNumber? m) (← shortNumber? d)
  | _ => none

/-- The last day of a month: that of December, or the day before the first one of the next
month. -/
def monthEnd (year month : Nat) : Except Date.Fault Date :=
  if month = 12 then Date.ofNumbers year 12 31
  else do
    let next ← Date.ofNumbers year (month + 1) 1
    next.back 1

/-- The span that the numbers name; `none` if there is no such year, month or day. A month of the
year zero is an error. -/
def period : DatePattern → Except Date.Fault (Option Period)
  | .day y m d =>
    match Date.ofNumbers y m d with
    | .ok date => .ok (some ⟨.day, date, date⟩)
    | .error _ => .ok none
  | .month y m =>
    if m < 1 ∨ 12 < m then .ok none
    else do
      let first ← Date.ofNumbers y m 1
      let last ← monthEnd y m
      return some ⟨.month, first, last⟩
  | .year y =>
    if y < 1 then .ok none
    else do
      let first ← Date.ofNumbers y 1 1
      let last ← Date.ofNumbers y 12 31
      return some ⟨.year, first, last⟩

end DatePattern

/-- The period that a text names. -/
def Period.ofText (t : Text) : Except Date.Fault (Option Period) :=
  match DatePattern.ofText? t with
  | some p => p.period
  | none => .ok none

end LedgerTags

import LedgerTags.Calendar.Date

/-!
# Buckets

The calendar periods by which collections are grouped, and the first day of the period that holds a
given day. A week starts on Monday.
-/

namespace LedgerTags

/-- The kinds of calendar period. -/
inductive Bucket where
  | day
  | week
  | month
  | year
deriving DecidableEq, Repr

namespace Bucket

/-- All kinds, from the shortest. -/
def all : List Bucket := [.day, .week, .month, .year]

/-- The name of a kind. -/
def toText : Bucket → Text
  | .day => "day"
  | .week => "week"
  | .month => "month"
  | .year => "year"

/-- The kind of a name. -/
def ofText? (t : Text) : Option Bucket := all.find? fun b => b.toText == t

/-- The first day of the period that holds `d`. -/
def first (b : Bucket) (d : Date) : Except Date.Fault Date :=
  match b with
  | .day => .ok d
  | .week => d.back d.weekday
  | .month => .ok d.firstOfMonth
  | .year => .ok d.firstOfYear

end Bucket

end LedgerTags

import LedgerTags.Value.Equality

/-!
# Order of values

`Value.test` is an order comparison. Numbers are ordered by value, texts and octets
lexicographically, dates chronologically, and lists and tuples by the first place where they differ.
Sets are ordered by inclusion, so two sets may be unordered. Any other comparison is an error, and
so is one of a decimal NaN.
-/

namespace LedgerTags

/-- Whether a comparison holds for things in the given order. -/
def Comparison.holds : Comparison → Ordering → Bool
  | .lt, o => o == .lt
  | .le, o => o != .gt
  | .gt, o => o == .gt
  | .ge, o => o != .lt

namespace Value

/-- Compares numbers one of which is a decimal, so that a NaN is an error. -/
def testDecimals (op : Comparison) (x y : Decimal) : Outcome Bool :=
  match Decimal.order x y with
  | .ok o => .ok (op.holds o)
  | .error f => .error (.ofDecimal f)

/-- Compares numbers none of which is a decimal, so that a NaN is in no order. -/
def testNumbers (op : Comparison) (x y : Decimal) : Bool :=
  match Decimal.compare? x y with
  | some o => op.holds o
  | none => false

/-- A decimal value. -/
def isDecimal : Value → Bool
  | decimal _ => true
  | _ => false

/-- Whether one list of members is included in another. -/
def included (xs ys : List Value) : Bool := xs.all fun x => ys.any fun y => sameKey x y

/-- Compares sets by inclusion, properly for the strict comparisons. -/
def testSets (op : Comparison) (xs ys : List Value) : Bool :=
  match op with
  | .lt => xs.length < ys.length && included xs ys
  | .le => xs.length ≤ ys.length && included xs ys
  | .gt => ys.length < xs.length && included ys xs
  | .ge => ys.length ≤ xs.length && included ys xs

/-- The order of two texts. -/
def compareTexts (s t : Text) : Ordering :=
  if s = t then .eq else if Text.lt s t then .lt else .gt

/-- The order of two lists of octets. -/
def compareOctets (s t : List UInt8) : Ordering :=
  compareTexts (s.map fun b => .ofNat b.toNat) (t.map fun b => .ofNat b.toNat)

mutual

/-- An order comparison of two values. -/
def test (op : Comparison) : Value → Value → Outcome Bool
  | text s, text t => .ok (op.holds (compareTexts s t))
  | octets s, octets t => .ok (op.holds (compareOctets s t))
  | date d, date e => .ok (op.holds (d.compare e))
  | dateTime s, dateTime t =>
    match s.compare? t with
    | some o => .ok (op.holds o)
    | none => .error .offsetsOfTwoKinds
  | date _, dateTime _ | dateTime _, date _ =>
    .error (.datesOfTwoKinds "datetime.datetime" "datetime.date")
  | time s, time t => .ok (op.holds (compare s.toMicroseconds t.toMicroseconds))
  | list xs, list ys => testLists op xs ys
  | tuple xs, tuple ys => testLists op xs ys
  | set xs, set ys | set xs, frozenSet ys | frozenSet xs, set ys | frozenSet xs, frozenSet ys =>
    .ok (testSets op xs ys)
  | v, w =>
    match number? v, number? w with
    | some x, some y =>
      if v.isDecimal || w.isDecimal then testDecimals op x y else .ok (testNumbers op x y)
    | _, _ => .error (.unorderable op v.kindName w.kindName)

/-- An order comparison of two lists by the first members that differ. -/
def testLists (op : Comparison) : List Value → List Value → Outcome Bool
  | [], [] => .ok (op.holds .eq)
  | [], _ :: _ => .ok (op.holds .lt)
  | _ :: _, [] => .ok (op.holds .gt)
  | x :: xs, y :: ys => do
    if ← same x y then testLists op xs ys else test op x y

end

end Value

end LedgerTags

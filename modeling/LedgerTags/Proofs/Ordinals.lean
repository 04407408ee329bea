import LedgerTags.Calendar.Bucket
import LedgerTags.Proofs.Outcome
import Mathlib.Order.Monotone.Basic
import Mathlib.Tactic.SplitIfs

/-!
# Day numbers

The number of a day counts the days of the years before, those of the months before, and the days
of its month. Since every part is smaller than the next larger unit (`ordinal_le`), the numbers have
the order of the days (`le_iff_ordinal_le`), and the day is found again from its number
(`ofOrdinal?_ordinal`): the search for the year starts at most 21 years too early. Every number up
to that of a day is the number of a day (`exists_ordinal_eq`), so counting back from a day subtracts
the numbers if there are enough days, and is an error if not (`back_eq_ok_iff`).

The day before the first one of a month is the last one of the month before (`ofNumbers_back`). The
day of the week is always less than the number of the day (`weekday_lt_ordinal`), so the Monday of
each week is a day of the calendar, and so is the first day of any other period
(`Bucket.exists_first`).
-/

namespace LedgerTags

/-- Every month has a day. -/
theorem daysInMonth_pos {y m : ℕ} (hm : 1 ≤ m) (hm' : m ≤ 12) : 1 ≤ daysInMonth y m := by
  unfold daysInMonth
  split <;> first | decide | (split <;> decide) | grind

namespace Date

/-! ### The calendar -/

/-- Days are in chronological order exactly if their numbers are. -/
theorem le_iff {a b : Date} : a.le b = true ↔
    a.year < b.year ∨ a.year = b.year ∧
      (a.month < b.month ∨ a.month = b.month ∧ a.day ≤ b.day) := by
  have hthen (o o' : Ordering) : (o.then o').isLE = true ↔ o = .lt ∨ o = .eq ∧ o'.isLE = true := by
    cases o <;> simp
  rw [Date.le, Date.compare, hthen, hthen, Nat.compare_eq_lt, Nat.compare_eq_eq,
    Nat.compare_eq_lt, Nat.compare_eq_eq, Nat.isLE_compare]

/-- A day is not after itself. -/
theorem le_refl (d : Date) : d.le d = true :=
  le_iff.2 (.inr ⟨rfl, .inr ⟨rfl, Nat.le_refl _⟩⟩)

/-- The order of days is transitive. -/
theorem le_trans {a b c : Date} (hab : a.le b = true) (hbc : b.le c = true) :
    a.le c = true := by
  rw [le_iff] at *
  omega

/-- Two days neither of which is after the other are the same. -/
theorem eq_of_le_of_le {a b : Date} (hab : a.le b = true) (hba : b.le a = true) : a = b := by
  rw [le_iff] at hab hba
  have hyear : a.year = b.year := by omega
  have hmonth : a.month = b.month := by omega
  have hday : a.day = b.day := by omega
  cases a
  cases b
  cases hyear
  cases hmonth
  cases hday
  rfl

/-- The day that is made of three numbers has these numbers. -/
theorem ofNumbers_eq_ok {y m n : ℕ} {d : Date} (h : ofNumbers y m n = .ok d) :
    d.year = y ∧ d.month = m ∧ d.day = n := by
  rw [ofNumbers] at h
  split at h
  · cases h
    exact ⟨rfl, rfl, rfl⟩
  · split_ifs at h

/-- The numbers of a day of the calendar make a day. -/
theorem exists_ofNumbers {y m n : ℕ} (h : IsCalendarDay y m n) :
    ∃ d, ofNumbers y m n = .ok d := ⟨⟨y, m, n, h⟩, dif_pos h⟩

/-- A day of a year that does not exist. -/
theorem ofNumbers_eq_error_year {y m n : ℕ} (h : y < 1 ∨ 9999 < y) :
    ofNumbers y m n = .error (.year y) := by
  have hnot : ¬IsCalendarDay y m n := fun hday => by
    obtain ⟨hyear, hyear', -⟩ := hday
    omega
  rw [ofNumbers, dif_neg hnot, if_pos h]

/-! ### Years and months -/

private theorem daysBeforeMonth_le {y m n : ℕ} (h : m ≤ n) :
    daysBeforeMonth y m ≤ daysBeforeMonth y n :=
  monotone_nat_of_le_succ (fun k => Nat.le_add_right (daysBeforeMonth y k) _) h

private theorem daysBeforeMonth_end (y : ℕ) :
    daysBeforeMonth y 13 = if isLeapYear y then 366 else 365 := by
  simp only [daysBeforeMonth, daysInMonth]
  split <;> rfl

/-- A year is over after the days of its months. -/
theorem daysBeforeYear_succ {y : ℕ} (hy : 1 ≤ y) :
    daysBeforeYear (y + 1) = daysBeforeYear y + daysBeforeMonth y 13 := by
  obtain ⟨z, rfl⟩ := Nat.exists_eq_add_of_le' hy
  have hleap : isLeapYear (z + 1) = true ↔
      4 ∣ z + 1 ∧ (¬100 ∣ z + 1 ∨ 400 ∣ z + 1) := by
    simp [isLeapYear, Nat.dvd_iff_mod_eq_zero]
  have hcenturies : z / 100 ≤ z / 4 := Nat.div_le_div_left (by decide) (by decide)
  simp only [daysBeforeYear, Nat.add_sub_cancel, Nat.succ_div, daysBeforeMonth_end, hleap]
  -- Every 400th year is a 100th one, and every 100th one a fourth one.
  by_cases h4 : 4 ∣ z + 1
  · by_cases h100 : 100 ∣ z + 1
    · by_cases h400 : 400 ∣ z + 1
      · simp only [h4, h100, h400, if_true, or_true, and_self]
        omega
      · simp only [h4, h100, h400, if_true, if_false, not_true, or_self, and_false]
        omega
    · have h400 : ¬400 ∣ z + 1 := mt (Nat.dvd_trans (by decide)) h100
      simp only [h4, h100, h400, if_true, if_false, not_false_iff, true_or, and_self]
      omega
  · have h100 : ¬100 ∣ z + 1 := mt (Nat.dvd_trans (by decide)) h4
    have h400 : ¬400 ∣ z + 1 := mt (Nat.dvd_trans (by decide)) h4
    simp only [h4, h100, h400, if_false, false_and]
    omega

private theorem daysBeforeYear_le {y z : ℕ} (h : y ≤ z) : daysBeforeYear y ≤ daysBeforeYear z := by
  refine monotone_nat_of_le_succ (fun k => ?_) h
  cases k with
  | zero => decide
  | succ k =>
    rw [daysBeforeYear_succ (Nat.le_add_left 1 k)]
    exact Nat.le_add_right _ _

variable {a b d e : Date}

/-- The day of the year is not beyond the end of its month, nor that beyond the end of the year. -/
theorem ordinal_le_month (d : Date) :
    d.ordinal ≤ daysBeforeYear d.year + daysBeforeMonth d.year (d.month + 1) := by
  obtain ⟨-, -, -, -, -, hday⟩ := d.valid
  rw [ordinal, daysBeforeMonth]
  omega

/-- A day comes before the year that follows its own. -/
theorem ordinal_le (d : Date) : d.ordinal ≤ daysBeforeYear (d.year + 1) := by
  obtain ⟨hyear, -, -, hmonth, -, -⟩ := d.valid
  have hend : daysBeforeMonth d.year (d.month + 1) ≤ daysBeforeMonth d.year 13 :=
    daysBeforeMonth_le (by omega)
  have hday := ordinal_le_month d
  rw [daysBeforeYear_succ hyear]
  omega

private theorem lt_ordinal (d : Date) : daysBeforeYear d.year < d.ordinal := by
  obtain ⟨-, -, -, -, hday, -⟩ := d.valid
  rw [ordinal]
  omega

/-- Days are counted from one. -/
theorem one_le_ordinal (d : Date) : 1 ≤ d.ordinal := by
  have := lt_ordinal d
  omega

/-! ### Order -/

/-- An earlier day has a smaller number. -/
theorem ordinal_lt (h : b.le a = false) : a.ordinal < b.ordinal := by
  have hlt : a.year < b.year ∨ a.year = b.year ∧
      (a.month < b.month ∨ a.month = b.month ∧ a.day < b.day) := by
    have hle := mt le_iff.2 (by rw [h]; decide)
    omega
  rcases hlt with hyear | ⟨hyear, hmonth | ⟨hmonth, hday⟩⟩
  · have ha := ordinal_le a
    have hb := lt_ordinal b
    have hyears : daysBeforeYear (a.year + 1) ≤ daysBeforeYear b.year := daysBeforeYear_le hyear
    omega
  · obtain ⟨-, -, -, -, hday, -⟩ := b.valid
    have ha := ordinal_le_month a
    have hmonths : daysBeforeMonth a.year (a.month + 1) ≤ daysBeforeMonth a.year b.month :=
      daysBeforeMonth_le hmonth
    rw [ordinal.eq_def b, ← hyear]
    omega
  · rw [ordinal, ordinal, hyear, hmonth]
    omega

/-- Days are in the order in which they are counted. -/
theorem le_iff_ordinal_le : a.le b = true ↔ a.ordinal ≤ b.ordinal := by
  constructor
  · intro h
    cases hba : b.le a with
    | true => rw [eq_of_le_of_le h hba]
    | false => exact (ordinal_lt hba).le
  · intro h
    by_contra hne
    have hlt : b.ordinal < a.ordinal := ordinal_lt (Bool.not_eq_true _ ▸ hne)
    omega

/-! ### Finding a day -/

/-- The search for a year ends at the year that the number lies in, if it starts early enough and
goes far enough. -/
theorem yearFrom_eq {n y fuel year : ℕ} (hn : daysBeforeYear y < n)
    (hn' : n ≤ daysBeforeYear (y + 1)) (hyear : year ≤ y) (hfuel : y ≤ year + fuel) :
    yearFrom n fuel year = y := by
  induction fuel generalizing year with
  | zero => exact Nat.le_antisymm hyear hfuel
  | succ fuel ih =>
    rw [yearFrom]
    rcases hyear.eq_or_lt with rfl | hlt
    · exact if_neg (Nat.not_lt.2 hn')
    · have hbefore : daysBeforeYear (year + 1) ≤ daysBeforeYear y := daysBeforeYear_le hlt
      rw [if_pos (by omega)]
      exact ih hlt (by omega)

/-- The search for a month ends at the month that the day lies in. -/
theorem monthFrom_eq {y m day fuel month n : ℕ} (hday : 1 ≤ day) (hday' : day ≤ daysInMonth y m)
    (hmonth : month ≤ m) (hfuel : m < month + fuel)
    (hn : daysBeforeMonth y month + n = daysBeforeMonth y m + day) :
    monthFrom y fuel month n = (m, day) := by
  induction fuel generalizing month n with
  | zero => omega
  | succ fuel ih =>
    rw [monthFrom]
    rcases hmonth.eq_or_lt with rfl | hlt
    · obtain rfl : n = day := by omega
      exact if_pos hday'
    · have hbefore : daysBeforeMonth y (month + 1) ≤ daysBeforeMonth y m := daysBeforeMonth_le hlt
      rw [daysBeforeMonth] at hbefore
      rw [if_neg (by omega)]
      exact ih hlt (by omega) (by rw [daysBeforeMonth]; omega)

/-- The day of a number is found again. -/
theorem ofOrdinal?_ordinal (d : Date) : ofOrdinal? d.ordinal = some d := by
  obtain ⟨hyear, hyear', hmonth, hmonth', hday, hday'⟩ := d.valid
  have hlow := lt_ordinal d
  have hhigh := ordinal_le d
  have hfound : yearFrom d.ordinal 21 ((d.ordinal - 1) / 366 + 1) = d.year := by
    refine yearFrom_eq hlow hhigh ?_ ?_
    · rw [daysBeforeYear] at hhigh
      omega
    · rw [daysBeforeYear] at hlow
      omega
  have hsplit : monthFrom d.year 12 1 (d.ordinal - daysBeforeYear d.year) = (d.month, d.day) := by
    refine monthFrom_eq hday hday' hmonth (by omega) ?_
    have hfirst : daysBeforeMonth d.year 1 = 0 := rfl
    rw [hfirst, ordinal]
    omega
  rw [ofOrdinal?]
  dsimp only
  rw [hfound, hsplit, ofNumbers, dif_pos d.valid]
  rfl

/-- Days with one number are the same. -/
theorem ordinal_injective : ordinal.Injective := by
  intro a b h
  have ha := ofOrdinal?_ordinal a
  rw [h, ofOrdinal?_ordinal] at ha
  exact (Option.some.inj ha).symm

/-! ### Counting back -/

/-- There is a day before every day but the first one. -/
theorem exists_ordinal_succ_eq (h : 1 < d.ordinal) : ∃ e : Date, e.ordinal + 1 = d.ordinal := by
  obtain ⟨hyear, hyear', hmonth, hmonth', hday, hday'⟩ := d.valid
  by_cases hfirst : 1 < d.day
  · exact ⟨⟨d.year, d.month, d.day - 1, by omega, by omega, by omega, by omega, by omega, by omega⟩,
      by simp only [ordinal]; omega⟩
  by_cases hjanuary : 1 < d.month
  · have hpos : 1 ≤ daysInMonth d.year (d.month - 1) := daysInMonth_pos (by omega) (by omega)
    refine ⟨⟨d.year, d.month - 1, daysInMonth d.year (d.month - 1), by omega, by omega, by omega,
      by omega, hpos, le_rfl⟩, ?_⟩
    have hmonths : daysBeforeMonth d.year d.month =
        daysBeforeMonth d.year (d.month - 1) + daysInMonth d.year (d.month - 1) := by
      conv_lhs => rw [← Nat.sub_add_cancel hmonth]
      rfl
    simp only [ordinal]
    omega
  · have hone : 1 < d.year := by
      by_contra hone
      have hd : d.year = 1 ∧ d.month = 1 ∧ d.day = 1 := by omega
      rw [ordinal, hd.1, hd.2.1, hd.2.2] at h
      revert h
      decide
    refine ⟨⟨d.year - 1, 12, 31, by omega, by omega, by decide, by decide, by decide, by rfl⟩, ?_⟩
    have hyears := daysBeforeYear_succ (y := d.year - 1) (by omega)
    have hdecember : daysBeforeMonth (d.year - 1) 13 =
        daysBeforeMonth (d.year - 1) 12 + 31 := rfl
    have hmonths : daysBeforeMonth d.year d.month = 0 := by
      rw [show d.month = 1 by omega]
      rfl
    rw [Nat.sub_add_cancel hyear] at hyears
    simp only [ordinal]
    omega

/-- Every number up to that of a day is the number of a day. -/
theorem exists_ordinal_eq {k : ℕ} (h : k < d.ordinal) : ∃ e : Date, e.ordinal = d.ordinal - k := by
  induction k with
  | zero => exact ⟨d, rfl⟩
  | succ k ih =>
    obtain ⟨e, he⟩ := ih (by omega)
    obtain ⟨e', he'⟩ := exists_ordinal_succ_eq (d := e) (by omega)
    exact ⟨e', by omega⟩

/-- No day has a number beyond that of the last one. -/
theorem ordinal_le_latest (d : Date) : d.ordinal ≤ latest.ordinal := by
  obtain ⟨-, hyear, -, -, -, -⟩ := d.valid
  have hend : daysBeforeYear (d.year + 1) ≤ daysBeforeYear 10000 := daysBeforeYear_le (by omega)
  have hlast : daysBeforeYear 10000 = latest.ordinal := by decide
  have hle := ordinal_le d
  omega

/-- Counting back from a day subtracts, as long as there are days. -/
theorem exists_back {k : ℕ} (h : k < d.ordinal) :
    ∃ e, d.back k = .ok e ∧ e.ordinal = d.ordinal - k := by
  obtain ⟨e, he⟩ := exists_ordinal_eq h
  have hspan : ¬longestSpan < k := by
    have hle := ordinal_le_latest d
    have hlatest : latest.ordinal ≤ longestSpan := by decide
    omega
  refine ⟨e, ?_, he⟩
  rw [back, if_neg hspan, if_pos h, ← he, ofOrdinal?_ordinal]

/-- Without such a day it is an error. -/
theorem back_eq_error {k : ℕ} (h : d.ordinal ≤ k) : ∃ fault, d.back k = .error fault := by
  rw [back, if_neg (Nat.not_lt.2 h)]
  split <;> exact ⟨_, rfl⟩

/-- Counting back succeeds exactly if there are more days up to the day than are counted, and ends
at the day whose number is that much less. -/
theorem back_eq_ok_iff {k : ℕ} : d.back k = .ok e ↔ e.ordinal + k = d.ordinal := by
  constructor
  · intro h
    have hk : k < d.ordinal := by
      by_contra hnot
      obtain ⟨fault, hfault⟩ := back_eq_error (Nat.not_lt.1 hnot)
      rw [hfault] at h
      cases h
    obtain ⟨e', he', hordinal⟩ := exists_back hk
    obtain rfl : e' = e := Except.ok.inj (he'.symm.trans h)
    omega
  · intro h
    have hpos := one_le_ordinal e
    obtain ⟨e', he', hordinal⟩ := exists_back (d := d) (k := k) (by omega)
    obtain rfl : e' = e := ordinal_injective (by omega)
    exact he'

/-- Going back no days stays where it is. -/
theorem back_zero (d : Date) : d.back 0 = .ok d := back_eq_ok_iff.2 rfl

/-- The last day of a month is the day before the first one of the next month. -/
theorem ofNumbers_back {y m : ℕ} {next : Date} (hm : 1 ≤ m)
    (h : ofNumbers y (m + 1) 1 = .ok next) :
    next.back 1 = ofNumbers y m (daysInMonth y m) := by
  obtain ⟨hy', hm', hd'⟩ := ofNumbers_eq_ok h
  obtain ⟨hyear, hyear', -, hmonth, -, -⟩ := next.valid
  rw [hy'] at hyear hyear'
  rw [hm'] at hmonth
  have hle : m ≤ 12 := by omega
  obtain ⟨last, hlast⟩ := exists_ofNumbers (y := y) (m := m) (n := daysInMonth y m)
    ⟨hyear, hyear', hm, hle, daysInMonth_pos hm hle, Nat.le_refl _⟩
  obtain ⟨hy, hm, hd⟩ := ofNumbers_eq_ok hlast
  rw [hlast, back_eq_ok_iff, ordinal, ordinal, hy', hm', hd', hy, hm, hd, daysBeforeMonth]
  omega

/-- The Monday before a day is a day of the calendar. -/
theorem weekday_lt_ordinal (d : Date) : d.weekday < d.ordinal := by
  have hpos := one_le_ordinal d
  rw [weekday]
  omega

end Date

/-! ### The first day of a period -/

namespace Bucket

/-- Every day has a first day of its period. -/
theorem exists_first (b : Bucket) (d : Date) : ∃ k, b.first d = .ok k := by
  cases b with
  | week =>
    obtain ⟨monday, hmonday, -⟩ := Date.exists_back d.weekday_lt_ordinal
    exact ⟨monday, hmonday⟩
  | _ => exact ⟨_, rfl⟩

private theorem isSome_first (b : Bucket) (d : Date) : (b.first d).toOption.isSome = true := by
  obtain ⟨k, hk⟩ := b.exists_first d
  rw [hk]
  rfl

/-- The first day of the period that holds a day. -/
def start (b : Bucket) (d : Date) : Date := (b.first d).toOption.get (b.isSome_first d)

/-- The first day of a period is there: looking for it does not fail. -/
theorem first_eq (b : Bucket) (d : Date) : b.first d = .ok (b.start d) := by
  obtain ⟨k, hk⟩ := b.exists_first d
  have hstart : b.start d = k := Option.get_of_eq_some _ (congrArg Except.toOption hk)
  rw [hk, hstart]

@[simp] theorem start_day (d : Date) : day.start d = d := rfl

@[simp] theorem start_month (d : Date) : month.start d = d.firstOfMonth := rfl

@[simp] theorem start_year (d : Date) : year.start d = d.firstOfYear := rfl

end Bucket

end LedgerTags

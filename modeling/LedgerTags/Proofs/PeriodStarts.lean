import LedgerTags.Proofs.Grouping

/-!
# The first day of a period closes the calendar

What a period is does not need its first day: two days lie in the same month if they have the same
year and month, and in the same week if some Monday is at most six days before both
(`Bucket.SamePeriod`). The first day of the period of a day is found for every day, also in the
first week of the calendar, since the first day of all is a Monday.

Taking the first day of the period is a closure, turned towards the past (`Bucket.IsClosure`): it
goes no day forward, it does nothing when it is done again, and it keeps the order. Days with the
same first day are those of the same period, so periods are recovered from it
(`Value.bucketStart_isClosure`).
-/

namespace LedgerTags

variable {d e monday : Date}

/-! ### Weeks -/

namespace Date

/-- The day is the Monday, or one of the six days after it. -/
def IsInWeekOf (monday d : Date) : Prop :=
  monday.ordinal ≤ d.ordinal ∧ d.ordinal ≤ monday.ordinal + 6

private theorem weekday_le (d : Date) : d.weekday ≤ 6 :=
  Nat.le_of_lt_succ (Nat.mod_lt _ (by decide))

end Date

namespace Bucket

/-- No day is lost on the way from a day back to its Monday. -/
theorem ordinal_start_week (d : Date) : (week.start d).ordinal + d.weekday = d.ordinal :=
  Date.back_eq_ok_iff.1 (week.first_eq d)

/-- A week starts on a Monday. -/
theorem weekday_start_week (d : Date) : (week.start d).weekday = 0 := by
  have hback := ordinal_start_week d
  rw [Date.weekday] at hback ⊢
  omega

private theorem isInWeekOf_start (d : Date) : (week.start d).IsInWeekOf d := by
  have hback := ordinal_start_week d
  have hle := Date.weekday_le d
  constructor <;> omega

/-- The week of a Monday is that of the days whose week starts on it. -/
theorem start_week_eq_iff (hmonday : monday.weekday = 0) :
    week.start d = monday ↔ monday.IsInWeekOf d := by
  constructor
  · rintro rfl
    exact isInWeekOf_start d
  · rintro ⟨hle, hle'⟩
    refine Date.ordinal_injective ?_
    have hback := ordinal_start_week d
    rw [Date.weekday] at hback hmonday
    omega

/-! ### Periods of all kinds -/

/-- Two days lie in the same period of a kind. A week goes from a Monday to the Sunday after it. -/
def SamePeriod : Bucket → Date → Date → Prop
  | .day, d, e => d = e
  | .week, d, e => ∃ monday : Date, monday.weekday = 0 ∧ monday.IsInWeekOf d ∧ monday.IsInWeekOf e
  | .month, d, e => d.year = e.year ∧ d.month = e.month
  | .year, d, e => d.year = e.year

/-- The first day of a period is not after any day of it. -/
theorem start_le (b : Bucket) (d : Date) : (b.start d).le d = true := by
  obtain ⟨-, -, hmonth, -, hday, -⟩ := d.valid
  cases b with
  | day => exact Date.le_refl d
  | week => exact Date.le_iff_ordinal_le.2 (isInWeekOf_start d).1
  | month => exact Date.le_iff.2 (.inr ⟨rfl, .inr ⟨rfl, hday⟩⟩)
  | year =>
    rw [Date.le_iff]
    dsimp only [start_year, Date.firstOfYear]
    omega

/-- The first day of a period starts its own period. -/
theorem start_start (b : Bucket) (d : Date) : b.start (b.start d) = b.start d := by
  cases b with
  | week =>
    refine (start_week_eq_iff (weekday_start_week d)).2 ⟨le_rfl, Nat.le_add_right _ _⟩
  | _ => rfl

/-- Of two days the earlier one has the earlier period, or both have the same. -/
theorem start_le_start (b : Bucket) (h : d.le e = true) : (b.start d).le (b.start e) = true := by
  cases b with
  | day => exact h
  | week =>
    rw [Date.le_iff_ordinal_le] at h ⊢
    have hd := ordinal_start_week d
    have he := ordinal_start_week e
    rw [Date.weekday] at hd he
    omega
  | month =>
    rw [Date.le_iff] at h ⊢
    dsimp only [start_month, Date.firstOfMonth]
    omega
  | year =>
    rw [Date.le_iff] at h ⊢
    dsimp only [start_year, Date.firstOfYear]
    omega

/-- The first days of two periods are the same exactly if the periods are. -/
theorem start_eq_start_iff (b : Bucket) : b.start d = b.start e ↔ b.SamePeriod d e := by
  cases b with
  | day => exact Iff.rfl
  | week =>
    constructor
    · intro h
      exact ⟨week.start d, weekday_start_week d, isInWeekOf_start d, h ▸ isInWeekOf_start e⟩
    · rintro ⟨monday, hmonday, hd, he⟩
      rw [(start_week_eq_iff hmonday).2 hd, (start_week_eq_iff hmonday).2 he]
  | month => simp [SamePeriod, Date.firstOfMonth]
  | year => simp [SamePeriod, Date.firstOfYear]

/-- A map on days is a closure towards the past, and tells the classes of a relation. -/
structure IsClosure (same : Date → Date → Prop) (close : Date → Date) : Prop where
  le : ∀ d, (close d).le d = true
  idempotent : ∀ d, close (close d) = close d
  monotone : ∀ d e, d.le e = true → (close d).le (close e) = true
  eq_iff : ∀ d e, close d = close e ↔ same d e

private theorem isClosure_start (b : Bucket) : IsClosure b.SamePeriod b.start where
  le := b.start_le
  idempotent := b.start_start
  monotone _ _ := b.start_le_start
  eq_iff _ _ := b.start_eq_start_iff

end Bucket

/-- Every day has a first day of its period, whatever the kind, and taking it is a closure towards
the past that tells the periods. That of a week is the Monday at most six days before, and so many
days before as the day of the week says; the year of the first day of a month is that of the
month. -/
theorem Value.bucketStart_isClosure :
    (∀ b : Bucket,
      (∀ d, Value.bucketStart (.date d) (.text b.toText) = .ok (.date (b.start d))) ∧
      Bucket.IsClosure b.SamePeriod b.start) ∧
    (∀ d, (Bucket.week.start d).weekday = 0 ∧ Date.IsInWeekOf (Bucket.week.start d) d ∧
      (Bucket.week.start d).ordinal + d.weekday = d.ordinal) ∧
    ∀ d, Bucket.year.start (Bucket.month.start d) = Bucket.year.start d :=
  ⟨fun b => ⟨Value.bucketStart_date b, b.isClosure_start⟩,
    fun d => ⟨Bucket.weekday_start_week d, Bucket.isInWeekOf_start d, Bucket.ordinal_start_week d⟩,
    fun _ => rfl⟩

/-- The first week of the calendar starts on its first day, the last one has no Sunday. -/
example : Bucket.week.start { year := 1, month := 1, day := 7 } = Date.earliest ∧
    Bucket.week.start Date.latest = { year := 9999, month := 12, day := 27 } := by decide +kernel

end LedgerTags

import LedgerTags.Proofs.DateText
import LedgerTags.Proofs.Grouping

/-!
# Groups are filters by their periods

The name of the period of a day is its year, its year and month, or all of it
(`Date.periodText`). Read back it is the pattern of the period (`ofText?_periodText`), which has a
span (`exists_period_patternOf`). A day lies in the span exactly if its period starts on the same
day (`agrees_patternOf_iff`): the one way goes by the last day of a month, the other by the first,
and both come down to the year, the month and the day. So a filter by the name of a period keeps
what grouping puts under its first day (`filter_eq_members`).
-/

namespace LedgerTags

open Text

/-- The bucket of the periods of a size. -/
def Granularity.bucket : Granularity → Bucket
  | .year => .year
  | .month => .month
  | .day => .day

/-- The name of the period of a size that a day lies in. -/
def Date.periodText (d : Date) : Granularity → Text
  | .year => ofNatPadded 4 d.year
  | .month => ofNatPadded 4 d.year ++ "-" ++ ofNatPadded 2 d.month
  | .day => d.toText

namespace DatePattern

variable {d e : Date} {g : Granularity}

/-- The pattern of the period of a size that a day lies in. -/
def patternOf (g : Granularity) (d : Date) : DatePattern :=
  match g with
  | .year => .year d.year
  | .month => .month d.year d.month
  | .day => .day d.year d.month d.day

/-- The name of a period says its pattern. -/
theorem ofText?_periodText (g : Granularity) (d : Date) :
    ofText? (d.periodText g) = some (patternOf g d) := by
  obtain ⟨-, hyear, -, hmonth, -, -⟩ := d.valid
  obtain ⟨y, hy, hyear, hytext⟩ := exists_yearText (n := d.year) (by omega)
  cases g with
  | year =>
    have htext : d.periodText .year = digitText y := hytext
    rw [htext, ofText?, trim_of_isPlain (isPlain_digitText hy),
      fields_of_forall (isSeparator_digitText hy)]
    show (yearNumber? _).map DatePattern.year = _
    rw [hyear]
    rfl
  | month =>
    obtain ⟨m, hm, hmonth, hmtext⟩ := exists_shortText (n := d.month) (by omega)
    have htext : d.periodText .month = digitText y ++ ('-' : CodePoint) :: digitText m := by
      rw [Date.periodText, hytext, hmtext, List.append_assoc]
      rfl
    have hplain : ∀ c ∈ digitText y ++ ('-' : CodePoint) :: digitText m, c.IsPlain :=
      List.forall_mem_append.2 ⟨isPlain_digitText hy, List.forall_mem_cons.2 ⟨by decide,
        isPlain_digitText hm⟩⟩
    rw [htext, ofText?, trim_of_isPlain hplain,
      fields_append (isSeparator_digitText hy) (by decide),
      fields_of_forall (isSeparator_digitText hm)]
    show (yearNumber? _).bind (fun y => (shortNumber? _).bind fun m =>
      some (DatePattern.month y m)) = _
    rw [hyear, hmonth]
    rfl
  | day => exact ofText?_toText d

/-- The period of a day exists. -/
theorem exists_period_patternOf (g : Granularity) (d : Date) :
    ∃ period, (patternOf g d).period = .ok (some period) := by
  obtain ⟨hyear, hyear', hmonth, hmonth', -, -⟩ := d.valid
  cases g with
  | year => exact exists_period_year hyear hyear'
  | month => exact exists_period_month hyear hyear' hmonth hmonth'
  | day =>
    have hday : Date.ofNumbers d.year d.month d.day = .ok d := dif_pos d.valid
    rw [patternOf, DatePattern.period, hday]
    exact ⟨_, rfl⟩

/-- A day lies in the period of another one exactly if the periods of both start on the same day. -/
theorem agrees_patternOf_iff :
    (patternOf g d).Agrees e ↔ g.bucket.start e = g.bucket.start d := by
  cases g with
  | year => simp [patternOf, Agrees, Granularity.bucket, Date.firstOfYear]
  | month => simp [patternOf, Agrees, Granularity.bucket, Date.firstOfMonth]
  | day =>
    cases d
    cases e
    simp [patternOf, Agrees, Granularity.bucket]

end DatePattern

/-- The name of the period of a day names the days whose period starts on the same day. -/
theorem Date.exists_period_periodText (g : Granularity) (k : Date) :
    ∃ period, (Value.text (k.periodText g)).toPeriod = .ok (some period) ∧
      ∀ d, period.contains d = decide (g.bucket.start d = g.bucket.start k) := by
  obtain ⟨period, hperiod⟩ := DatePattern.exists_period_patternOf g k
  refine ⟨period, ?_, fun d => ?_⟩
  · rw [Value.toPeriod, Period.ofText, DatePattern.ofText?_periodText]
    dsimp only
    rw [hperiod]
    rfl
  · rw [Bool.eq_iff_iff, (DatePattern.isPeriod_of_period hperiod).contains_iff,
      DatePattern.agrees_patternOf_iff, decide_eq_true_iff]

namespace Query

variable {b : Bucket} {f : Field} {rs : List Record} {keys : List Date} {k : Date}

/-- The members of the group with a key; none if there is no such group. -/
def membersAt (groups : List Group) (start : Value) : List Record :=
  ((groups.find? fun g => Value.sameKey g.1 start).map (·.2)).getD []

/-- Under a key stand the records whose period starts on it. -/
theorem membersAt_map (h : Grouped b f rs keys) (k : Date) :
    membersAt (keys.map (groupAt b f rs)) (.date k) = rs.filter (Record.startsOn b f k) := by
  have hfind : (keys.map (groupAt b f rs)).find? (fun g => Value.sameKey g.1 (.date k)) =
      (keys.find? fun j => decide (j = k)).map (groupAt b f rs) := by
    rw [List.find?_map]
    congr 1
    refine congrArg (List.find? · keys) (funext fun j => ?_)
    exact Value.sameKey_date j k
  rw [membersAt, hfind]
  cases hkey : keys.find? fun j => decide (j = k) with
  | none =>
    have hnone : rs.filter (Record.startsOn b f k) = [] := by
      rw [List.filter_eq_nil_iff]
      intro r hr hstarts
      have hk := List.find?_eq_none.1 hkey k ((h.2 k).2 ⟨r, hr, hstarts⟩)
      simp at hk
    exact hnone.symm
  | some j =>
    have hjk : decide (j = k) = true := List.find?_some (p := fun j => decide (j = k)) hkey
    obtain rfl := of_decide_eq_true hjk
    rfl

/-- A filter by the name of a period keeps the records whose period it is. -/
theorem byDate_periodText (hrs : ∀ r ∈ rs, r.HoldsDay .postDate) (g : Granularity) (k : Date) :
    byDate rs (.text (k.periodText g)) =
      .ok (rs.filter (Record.startsOn g.bucket .postDate (g.bucket.start k))) := by
  obtain ⟨latest, hlatest, -⟩ := exists_latestDate_eq hrs
  obtain ⟨period, hperiod, hcontains⟩ := Date.exists_period_periodText g k
  have hcriterion (latest : Option Value) :
      Criterion.ofDate latest (.value (.text (k.periodText g))) = .ok (.inPeriod period) := by
    rw [Criterion.ofDate, hperiod]
    rfl
  refine byDate_eq_filter hlatest (hcriterion _) fun r hr => ?_
  have hnone := (hrs r hr).day?_eq_none_iff
  rcases hrs r hr with hnull | ⟨d, hd⟩
  · have hpost : r.transaction.postDate = .null := hnull
    rw [Criterion.test, hpost, Record.startsOn, hnone.2 hnull]
    rfl
  · have hpost : r.transaction.postDate = .date d := hd
    rw [Criterion.test, hpost, Record.startsOn, Record.day?_eq_some_iff.2 hd, Option.map_some,
      Period.containsValue, hcontains]
    simp

/-- Grouping by days, months or years puts under the first day of a period what a filter by the name
of the period keeps, nothing if there is no such group. -/
theorem filter_eq_members (hrs : ∀ r ∈ rs, r.HoldsDay .postDate) (g : Granularity)
    (hk : g.bucket.start k = k) :
    ∃ groups, group rs (.text g.bucket.toText) (.text Field.postDate.toText) = .ok groups ∧
      filterNamed rs [(FilterKey.date.toText, .value (.text (k.periodText g)))] false =
        .ok (membersAt groups (.date k)) := by
  obtain ⟨keys, hgroup, -, hgrouped⟩ := exists_group_eq (.inl rfl) hrs g.bucket
  refine ⟨_, hgroup, ?_⟩
  rw [membersAt_map hgrouped]
  conv_rhs => rw [← hk]
  exact byDate_periodText hrs g k

/-- Both ends of the February are in its group and in the filter by its name, its neighbours are
not. -/
theorem filter_eq_members_leapFebruary :
    let rs := leapLedger.records [0, 1, 2, 3, 4]
    (∀ r ∈ rs, r.HoldsDay .postDate) ∧ Granularity.month.bucket.start leapFebruary = leapFebruary ∧
    leapFebruary.periodText .month = "2024-02" ∧
    ∃ groups, group rs (.text "month") (.text "post_date") = .ok groups ∧
      filterNamed rs [("date", .value (.text "2024-02"))] false =
        .ok (membersAt groups (.date leapFebruary)) ∧
      (membersAt groups (.date leapFebruary)).map (·.id) = [0, 4] := by
  intro rs
  have hfirst : Granularity.month.bucket.start leapFebruary = leapFebruary := by decide
  have htext : leapFebruary.periodText .month = "2024-02" := by decide
  obtain ⟨groups, hgroup, hfilter⟩ := filter_eq_members holdsDay_leapLedger .month hfirst
  have hgroup' : group rs (.text "month") (.text "post_date") = .ok groups := hgroup
  have hids : (group rs (.text "month") (.text "post_date")).toOption.map
      (fun groups => (membersAt groups (.date leapFebruary)).map (·.id)) = some [0, 4] := by
    decide +kernel
  rw [hgroup'] at hids
  rw [htext] at hfilter
  exact ⟨holdsDay_leapLedger, hfirst, htext, groups, hgroup', hfilter, Option.some.inj hids⟩

end Query

end LedgerTags

import LedgerTags.Proofs.Composition
import LedgerTags.Proofs.Merging

/-!
# Filtering by the post date

A number of days asks for the records that are at most so many days before the newest one
(`byDate_days`). Counting back goes no further than to the first day of the calendar
(`Criterion.exists_ofDays_date`), so no number is too large.
The newest record is always among those that are kept, so a second filter counts back from the same
day, and the smaller one of the two numbers decides (`recent_days`).
-/

namespace LedgerTags

/-! ### The day of a record -/

namespace Record

/-- The day in a field of a record. -/
def day? (f : Field) (r : Record) : Option Date :=
  match r.transaction.get f with
  | .date d => some d
  | _ => none

/-- A field of a record holds a day or nothing. -/
def HoldsDay (f : Field) (r : Record) : Prop :=
  r.transaction.get f = .null ∨ ∃ d, r.transaction.get f = .date d

variable {f : Field} {r : Record} {d : Date}

/-- The day of a record is the date in its field. -/
theorem day?_eq_some_iff : r.day? f = some d ↔ r.transaction.get f = .date d := by
  rw [day?]
  cases r.transaction.get f <;> simp

/-- In a field for dates, a record has no day exactly if there is nothing in the field. -/
theorem HoldsDay.day?_eq_none_iff (h : r.HoldsDay f) :
    r.day? f = none ↔ r.transaction.get f = .null := by
  rw [day?]
  rcases h with hnull | ⟨d, hd⟩
  · simp [hnull]
  · simp [hd]

end Record

namespace Query

variable {rs : List Record} {r : Record} {d : Date} {latest : Option Value}

/-! ### Filters by the date alone -/

/-- The records that a filter by the date alone keeps. -/
def byDate (rs : List Record) (v : Value) : Outcome (List Record) :=
  filterNamed rs [(FilterKey.date.toText, .value v)] false

private theorem ne_null_of_ofDate {v : Value} {c : Criterion}
    (h : Criterion.ofDate latest (.value v) = .ok c) : v ≠ .null := by
  rintro rfl
  cases h

/-- A filter by the date keeps the records of which its criterion says so. -/
theorem byDate_eq_filter {v : Value} {c : Criterion} {keep : Record → Bool}
    (hlatest : Criterion.latestDate (rs.map (·.transaction)) = .ok latest)
    (hc : Criterion.ofDate latest (.value v) = .ok c)
    (hkeep : ∀ r ∈ rs, c.test r.transaction = .ok (keep r)) :
    byDate rs v = .ok (rs.filter keep) := by
  have hpresent : (Argument.value v).isAbsent = false := by
    rw [← Bool.not_eq_true, Criterion.isAbsent_iff]
    exact ne_null_of_ofDate hc
  have hone (ts : List Transaction) : Criterion.resolve ts [(.date, .value v)] =
      if (Argument.value v).isAbsent then .ok [] else do
        return [← Criterion.ofArgument ts .date (.value v)] := rfl
  have hresolve : Criterion.resolve (rs.map (·.transaction)) [(.date, .value v)] = .ok [c] := by
    rw [hone, hpresent, if_neg Bool.false_ne_true, Criterion.ofArgument, hlatest, ok_bind, hc]
    rfl
  have hnamed : Criteria.ofNamed [(FilterKey.date.toText, .value v)] =
      .ok [(.date, .value v)] := rfl
  rw [byDate, filterNamed_eq_select hnamed hresolve]
  exact select_eq_filter fun r hr => by rw [Criterion.testAll_singleton, hkeep r hr]

/-! ### The newest day -/

/-- The numbers of the post dates. -/
def dayNumbers (rs : List Record) : List ℕ :=
  rs.filterMap fun r => (r.day? .postDate).map Date.ordinal

/-- The number of the newest post date. -/
def newestDay (rs : List Record) : Option ℕ := (dayNumbers rs).max?

private theorem mem_dayNumbers {n : ℕ} :
    n ∈ dayNumbers rs ↔ ∃ r ∈ rs, ∃ d, r.day? .postDate = some d ∧ d.ordinal = n := by
  simp [dayNumbers]

private theorem newestDay_eq_some_iff {n : ℕ} : newestDay rs = some n ↔
    n ∈ dayNumbers rs ∧ ∀ r ∈ rs, ∀ d, r.day? .postDate = some d → d.ordinal ≤ n := by
  rw [newestDay, List.max?_eq_some_iff]
  refine and_congr_right fun _ => ?_
  constructor
  · exact fun h r hr d hd => h _ (mem_dayNumbers.2 ⟨r, hr, d, hd, rfl⟩)
  · intro h m hm
    obtain ⟨r, hr, d, hd, rfl⟩ := mem_dayNumbers.1 hm
    exact h r hr d hd

private theorem newestDay_eq_none_iff :
    newestDay rs = none ↔ ∀ r ∈ rs, r.day? .postDate = none := by
  rw [newestDay, List.max?_eq_none_iff]
  simp [dayNumbers]

/-- The post dates that are there are the days of the records. -/
theorem mem_postDates_iff (hrs : ∀ r ∈ rs, r.HoldsDay .postDate) {v : Value} :
    v ∈ Criterion.postDates (rs.map (·.transaction)) ↔
      ∃ r ∈ rs, ∃ d, r.day? .postDate = some d ∧ v = .date d := by
  rw [Criterion.mem_postDates]
  constructor
  · rintro ⟨hne, t, ht, rfl⟩
    obtain ⟨r, hr, rfl⟩ := List.mem_map.1 ht
    obtain ⟨d, hd⟩ := (hrs r hr).resolve_left hne
    exact ⟨r, hr, d, Record.day?_eq_some_iff.2 hd, hd⟩
  · rintro ⟨r, hr, d, hd, rfl⟩
    have hpost : r.transaction.postDate = .date d := Record.day?_eq_some_iff.1 hd
    exact ⟨by simp, r.transaction, List.mem_map_of_mem hr, hpost⟩

/-- The latest date is the newest post date, if there is one. -/
theorem exists_latestDate_eq (hrs : ∀ r ∈ rs, r.HoldsDay .postDate) :
    ∃ latest : Option Date, Criterion.latestDate (rs.map (·.transaction)) =
        .ok (latest.map .date) ∧ newestDay rs = latest.map Date.ordinal := by
  have hdated : ∀ t ∈ rs.map (·.transaction), Criterion.IsDated t.postDate := by
    rw [List.forall_mem_map]
    intro r hr
    rcases hrs r hr with hnull | ⟨d, hd⟩
    · exact .inl hnull
    · have hpost : r.transaction.postDate = .date d := hd
      exact .inr (by rw [hpost]; rfl)
  have hkinds : ∀ v ∈ Criterion.postDates (rs.map (·.transaction)),
      Criterion.dateKind? v = some none := by
    intro v hv
    obtain ⟨r, -, d, -, rfl⟩ := (mem_postDates_iff hrs).1 hv
    rfl
  obtain ⟨latest, hlatest⟩ := Criterion.exists_latestDate_of_kind hkinds
  rcases Criterion.latestDate_eq_ok hdated hlatest with ⟨rfl, hnil⟩ | ⟨v, hv, rfl, -⟩
  · refine ⟨none, hlatest, newestDay_eq_none_iff.2 fun r hr => ?_⟩
    rw [(hrs r hr).day?_eq_none_iff]
    exact Criterion.null_of_postDates_eq_nil hnil _ (List.mem_map_of_mem hr)
  · obtain ⟨r, hr, d, hd, rfl⟩ := (mem_postDates_iff hrs).1 hv
    refine ⟨some d, hlatest, newestDay_eq_some_iff.2 ⟨mem_dayNumbers.2 ⟨r, hr, d, hd, rfl⟩, ?_⟩⟩
    intro s hs e he
    have hmem := (mem_postDates_iff hrs).2 ⟨s, hs, e, he, rfl⟩
    obtain ⟨e', heq, hle⟩ := Criterion.le_of_latestDate hdated hlatest _ hmem
    cases heq
    exact Date.le_iff_ordinal_le.1 hle

/-! ### A number of days -/

/-- The day of a record is at most `n` days before the newest one. -/
def isRecent (rs : List Record) (n : ℕ) (r : Record) : Bool :=
  match newestDay rs, r.day? .postDate with
  | some newest, some d => decide ((newest : ℤ) - n ≤ d.ordinal)
  | _, _ => false

/-- A filter by a number of days keeps the records that are recent. -/
theorem byDate_days (hrs : ∀ r ∈ rs, r.HoldsDay .postDate) (n : ℕ) :
    byDate rs (.int n) = .ok (rs.filter (isRecent rs n)) := by
  obtain ⟨latest, hlatest, hnewest⟩ := exists_latestDate_eq hrs
  have hofDate (latest : Option Value) : Criterion.ofDate latest (.value (.int n)) =
      Criterion.ofDays n latest := by
    have hnonneg : ¬(n : ℤ) < 0 := by omega
    rw [Criterion.ofDate]
    simp [hnonneg]
  cases latest with
  | none =>
    refine byDate_eq_filter hlatest (hofDate none) fun r hr => ?_
    have hnone := newestDay_eq_none_iff.1 hnewest r hr
    rw [Criterion.test_dates_null ((hrs r hr).day?_eq_none_iff.1 hnone), isRecent, hnewest]
    rfl
  | some d =>
    obtain ⟨first, hfirst, hrange⟩ := Criterion.exists_ofDays_date d n
    refine byDate_eq_filter hlatest ((hofDate _).trans hrange) fun r hr => ?_
    cases hday : r.day? .postDate with
    | none =>
      rw [Criterion.test_dates_null ((hrs r hr).day?_eq_none_iff.1 hday), isRecent, hnewest, hday]
      rfl
    | some e =>
      have hle : e.ordinal ≤ d.ordinal := (newestDay_eq_some_iff.1 hnewest).2 r hr e hday
      have hone := Date.one_le_ordinal e
      have hlow : first.le e = decide ((d.ordinal : ℤ) - n ≤ e.ordinal) := by
        rw [Bool.eq_iff_iff, Date.le_iff_ordinal_le, hfirst, decide_eq_true_iff]
        omega
      rw [Criterion.test_dates (Record.day?_eq_some_iff.1 hday), hlow,
        Date.le_iff_ordinal_le.2 hle, Bool.and_true, isRecent, hnewest, hday]
      rfl

section Recent

variable {m n newest : ℕ}

private theorem isRecent_iff (h : newestDay rs = some newest) (hday : r.day? .postDate = some d) :
    isRecent rs n r = true ↔ (newest : ℤ) - n ≤ d.ordinal := by
  rw [isRecent, h, hday, decide_eq_true_iff]

private theorem isRecent_none (hday : r.day? .postDate = none) : isRecent rs n r = false := by
  rw [isRecent, hday]
  cases newestDay rs <;> rfl

/-- More days keep more records. -/
theorem isRecent_of_le (hmn : m ≤ n) (h : isRecent rs m r = true) : isRecent rs n r = true := by
  cases hnewest : newestDay rs with
  | none => simp [isRecent, hnewest] at h
  | some newest =>
    cases hday : r.day? .postDate with
    | none => simp [isRecent_none hday] at h
    | some d =>
      rw [isRecent_iff hnewest hday] at h ⊢
      omega

/-- The smaller one of two numbers of days decides. -/
theorem isRecent_min : isRecent rs (min m n) r = (isRecent rs m r && isRecent rs n r) := by
  cases hnewest : newestDay rs with
  | none => simp [isRecent, hnewest]
  | some newest =>
    cases hday : r.day? .postDate with
    | none => simp [isRecent_none hday]
    | some d =>
      rw [Bool.eq_iff_iff, Bool.and_eq_true, isRecent_iff hnewest hday, isRecent_iff hnewest hday,
        isRecent_iff hnewest hday]
      omega

/-- The newest record is recent for any number of days. -/
theorem isRecent_newest (hday : r.day? .postDate = some d)
    (hnewest : newestDay rs = some d.ordinal) (n : ℕ) : isRecent rs n r = true := by
  rw [isRecent_iff hnewest hday]
  omega

/-- Among recent records the newest day is the same. -/
theorem newestDay_filter (rs : List Record) (n : ℕ) :
    newestDay (rs.filter (isRecent rs n)) = newestDay rs := by
  cases hnewest : newestDay rs with
  | none =>
    rw [newestDay_eq_none_iff] at hnewest ⊢
    exact fun r hr => hnewest r (List.mem_filter.1 hr).1
  | some newest =>
    obtain ⟨hmem, hle⟩ := newestDay_eq_some_iff.1 hnewest
    obtain ⟨r, hr, d, hd, rfl⟩ := mem_dayNumbers.1 hmem
    have hrecent := isRecent_newest hd hnewest n
    refine newestDay_eq_some_iff.2 ⟨mem_dayNumbers.2 ⟨r, ?_, d, hd, rfl⟩, fun s hs => ?_⟩
    · exact List.mem_filter.2 ⟨hr, hrecent⟩
    · exact hle s (List.mem_filter.1 hs).1

end Recent

/-- The records of the last days: exactly those that are at most so many days before the newest one,
in the order of the collection, for any number of days. More days keep more records, the newest
records are always kept, and of two numbers of days one after the other the smaller one decides. -/
theorem recent_days (hrs : ∀ r ∈ rs, r.HoldsDay .postDate) :
    (∀ n : ℕ, byDate rs (.int n) = .ok (rs.filter (isRecent rs n))) ∧
    ((∀ r ∈ rs, r.day? .postDate = none) → ∀ n : ℕ, byDate rs (.int n) = .ok []) ∧
    (∀ m n : ℕ, m ≤ n → ∃ fewer more, byDate rs (.int m) = .ok fewer ∧
      byDate rs (.int n) = .ok more ∧ fewer.Sublist more) ∧
    (∀ n : ℕ, ∀ r ∈ rs, ∀ d, r.day? .postDate = some d → newestDay rs = some d.ordinal →
      ∃ out, byDate rs (.int n) = .ok out ∧ r ∈ out) ∧
    ∀ m n : ℕ, (byDate rs (.int m) >>= fun kept => byDate kept (.int n)) =
      byDate rs (.int (min m n : ℕ)) := by
  have hkeeps (n : ℕ) : byDate rs (.int n) = .ok (rs.filter (isRecent rs n)) := byDate_days hrs n
  refine ⟨hkeeps, fun hnone n => ?_, fun m n hmn => ?_, fun n r hr d hday hnewest => ?_,
    fun m n => ?_⟩
  · rw [hkeeps, List.filter_eq_nil_iff.2 fun r hr => ?_]
    simp [isRecent_none (hnone r hr)]
  · exact ⟨_, _, hkeeps m, hkeeps n, List.monotone_filter_right rs fun r => isRecent_of_le hmn⟩
  · exact ⟨_, hkeeps n, List.mem_filter.2 ⟨hr, isRecent_newest hday hnewest n⟩⟩
  · have hkept : ∀ r ∈ rs.filter (isRecent rs m), r.HoldsDay .postDate := fun r hr =>
      hrs r (List.mem_filter.1 hr).1
    have hsame : isRecent (rs.filter (isRecent rs m)) n = isRecent rs n := by
      funext r
      rw [isRecent, isRecent, newestDay_filter]
    rw [hkeeps, ok_bind, byDate_days hkept, hsame, List.filter_filter, hkeeps]
    congr 1
    refine List.filter_congr fun r _ => ?_
    rw [isRecent_min, Bool.and_comm]

/-- A transaction on some day. -/
def transactionOn (postDate : Value) : Transaction := { bank := "b", account := .null, postDate }

/-- The first day of a February of 29 days. -/
def leapFebruary : Date where
  year := 2024
  month := 2
  day := 1

/-- Both ends of that February, no day, and the days next to it. -/
def leapLedger : Ledger where
  transactions :=
    [transactionOn (.date { year := 2024, month := 2, day := 29 }), transactionOn .null,
      transactionOn (.date { year := 2024, month := 1, day := 31 }),
      transactionOn (.date { year := 2024, month := 3, day := 1 }),
      transactionOn (.date leapFebruary)]

theorem holdsDay_leapLedger : ∀ r ∈ leapLedger.records [0, 1, 2, 3, 4], r.HoldsDay .postDate := by
  have hall : ∀ t ∈ leapLedger.transactions, t.postDate = .null ∨ ∃ d, t.postDate = .date d := by
    simp [leapLedger, transactionOn]
  intro r hr
  exact hall _ (List.mem_of_getElem? (Ledger.get?_of_mem_records hr))

/-- One day back from the first of March is a leap day; a number of days beyond the calendar keeps
all records with a day. -/
theorem recent_days_leapLedger :
    let rs := leapLedger.records [0, 1, 2, 3, 4]
    (∀ r ∈ rs, r.HoldsDay .postDate) ∧
    (∃ out, byDate rs (.int (1 : ℕ)) = .ok out ∧ out.map (·.id) = [0, 3]) ∧
    ∃ out, byDate rs (.int (1000000000000 : ℕ)) = .ok out ∧ out.map (·.id) = [0, 2, 3, 4] := by
  intro rs
  obtain ⟨hkeeps, -⟩ := recent_days holdsDay_leapLedger
  have hone : (rs.filter (isRecent rs 1)).map (·.id) = [0, 3] := by decide
  have hall : (rs.filter (isRecent rs 1000000000000)).map (·.id) = [0, 2, 3, 4] := by
    decide
  exact ⟨holdsDay_leapLedger, ⟨_, hkeeps 1, hone⟩, _, hkeeps 1000000000000, hall⟩

end Query

end LedgerTags

import LedgerTags.Proofs.Criteria

/-!
# The latest date of a collection

The latest post date is found by comparing each one with the latest so far. Days compare with days,
and dated times with dated times that know their offset as well, or neither does
(`exists_test_dated_iff`). So the search goes well exactly if all post dates are of one kind, and
then it does for any part of the collection (`exists_latestDate_of_subset`). What it finds is one of
them (`latestDate_eq_ok`), and none of the days is later (`le_of_latestDate`).

Any number of days can be counted back from the latest day (`exists_ofDays_date`): a number that is
too large for the calendar is cut before.
-/

namespace LedgerTags.Criterion

/-! ### Kinds of days -/

/-- The kind of a day: without a time, or with one, with an offset or without. -/
def dateKind? : Value → Option (Option Bool)
  | .date _ => some none
  | .dateTime s => some (some s.offset.isSome)
  | _ => none

/-- A post date is absent, or a day with or without a time. -/
def IsDated (v : Value) : Prop := v = .null ∨ (dateKind? v).isSome = true

/-- Two days can be compared exactly if they are of the same kind. -/
theorem exists_test_dated_iff {op : Comparison} {v w : Value} (hv : (dateKind? v).isSome = true)
    (hw : (dateKind? w).isSome = true) :
    (∃ b, Value.test op v w = .ok b) ↔ dateKind? v = dateKind? w := by
  cases v with
  | date d =>
    cases w with
    | date e => exact iff_of_true ⟨_, test_date op d e⟩ rfl
    | dateTime s =>
      refine iff_of_false ?_ nofun
      rintro ⟨b, hb⟩
      cases hb
    | _ => cases hw
  | dateTime s =>
    cases w with
    | date e =>
      refine iff_of_false ?_ nofun
      rintro ⟨b, hb⟩
      cases hb
    | dateTime t =>
      have hkinds : dateKind? (.dateTime s) = dateKind? (.dateTime t) ↔
          s.offset.isSome = t.offset.isSome := by
        simp only [dateKind?, Option.some_inj]
      rw [hkinds, Value.test, DateTime.compare?]
      split
      · next o ho =>
        split at ho
        · next hoffsets => exact iff_of_true ⟨_, rfl⟩ hoffsets
        · cases ho
      · next hnone =>
        split at hnone
        · cases hnone
        · next hoffsets => exact iff_of_false (fun h => by obtain ⟨b, hb⟩ := h; cases hb) hoffsets
    | _ => cases hw
  | _ => cases hv

/-! ### The search -/

/-- The later of the latest value so far and another one. -/
def later (best w : Value) : Outcome Value := do
  return if ← Value.test .gt w best then w else best

private theorem greatest_cons (v : Value) (vs : List Value) :
    greatest (v :: vs) = vs.foldlM later v >>= fun best => pure (some best) := rfl

section Search

variable {v w best : Value} {vs : List Value}

private theorem later_eq_ok (h : later best w = .ok v) :
    ∃ b, Value.test .gt w best = .ok b ∧ v = if b then w else best := by
  obtain ⟨b, hb, h⟩ := bind_eq_ok_iff.1 h
  cases h
  exact ⟨b, hb, rfl⟩

/-- If the search goes well, all values are of one kind, and it ends at one of them. -/
theorem foldlM_later_eq_ok (hbest : (dateKind? best).isSome = true)
    (hvs : ∀ w ∈ vs, (dateKind? w).isSome = true) (h : vs.foldlM later best = .ok v) :
    v ∈ best :: vs ∧ ∀ w ∈ best :: vs, dateKind? w = dateKind? v := by
  induction vs generalizing best with
  | nil =>
    cases h
    exact ⟨List.mem_cons_self, fun w hw => by rw [List.mem_singleton.1 hw]⟩
  | cons w vs ih =>
    obtain ⟨hw, hvs⟩ := List.forall_mem_cons.1 hvs
    rw [List.foldlM_cons] at h
    obtain ⟨next, hnext, h⟩ := bind_eq_ok_iff.1 h
    obtain ⟨b, hb, rfl⟩ := later_eq_ok hnext
    have hsame : dateKind? w = dateKind? best := (exists_test_dated_iff hw hbest).1 ⟨b, hb⟩
    have hkind : dateKind? (if b then w else best) = dateKind? best := by
      split
      · exact hsame
      · rfl
    obtain ⟨hmem, hkinds⟩ := ih (hkind ▸ hbest) hvs h
    obtain ⟨hone, hrest⟩ := List.forall_mem_cons.1 hkinds
    rw [hkind] at hone
    refine ⟨?_, List.forall_mem_cons.2 ⟨hone, List.forall_mem_cons.2 ⟨hsame.trans hone, hrest⟩⟩⟩
    rcases List.mem_cons.1 hmem with rfl | hmem
    · split
      · exact List.mem_cons_of_mem _ List.mem_cons_self
      · exact List.mem_cons_self
    · exact List.mem_cons_of_mem _ (List.mem_cons_of_mem _ hmem)

/-- Among values of one kind the search goes well. -/
theorem exists_foldlM_later {kind : Option Bool} (hvs : ∀ w ∈ best :: vs, dateKind? w = some kind) :
    ∃ v, vs.foldlM later best = .ok v := by
  induction vs generalizing best with
  | nil => exact ⟨best, rfl⟩
  | cons w vs ih =>
    obtain ⟨hbest, hvs⟩ := List.forall_mem_cons.1 hvs
    obtain ⟨hw, hrest⟩ := List.forall_mem_cons.1 hvs
    have htest : ∃ b, Value.test .gt w best = .ok b :=
      (exists_test_dated_iff (by rw [hw]; rfl) (by rw [hbest]; rfl)).2 (hw.trans hbest.symm)
    obtain ⟨b, hb⟩ := htest
    rw [List.foldlM_cons, later, hb, ok_bind, pure_eq_ok, ok_bind]
    refine ih (List.forall_mem_cons.2 ⟨?_, hrest⟩)
    split
    · exact hw
    · exact hbest

/-- The later one of two days is not before either of them. -/
theorem exists_later_date (a b : Date) :
    ∃ d : Date, later (.date a) (.date b) = .ok (.date d) ∧ a.le d = true ∧ b.le d = true := by
  have hgt : Comparison.gt.holds (b.compare a) = !b.le a := by
    rw [Date.le]
    cases b.compare a <;> rfl
  rw [later, test_date, ok_bind, pure_eq_ok, hgt]
  cases hba : b.le a with
  | true => exact ⟨a, rfl, Date.le_refl a, hba⟩
  | false =>
    have hab : a.le b = true := by
      have hnot := mt Date.le_iff.2 (by rw [hba]; decide)
      rw [Date.le_iff]
      omega
    exact ⟨b, rfl, hab, Date.le_refl b⟩

/-- No day is later than the one that the search ends at. -/
theorem le_of_foldlM_later {a d : Date} (hvs : ∀ w ∈ vs, ∃ e, w = .date e)
    (h : vs.foldlM later (.date a) = .ok (.date d)) :
    ∀ e, .date e ∈ Value.date a :: vs → e.le d = true := by
  induction vs generalizing a with
  | nil =>
    cases h
    intro e he
    cases List.mem_singleton.1 he
    exact Date.le_refl d
  | cons w vs ih =>
    obtain ⟨⟨b, rfl⟩, hrest⟩ := List.forall_mem_cons.1 hvs
    obtain ⟨next, hnext, ha, hb⟩ := exists_later_date a b
    rw [List.foldlM_cons, hnext, ok_bind] at h
    have hlatest := ih hrest h
    have hstep : next.le d = true := hlatest next List.mem_cons_self
    intro e he
    rcases List.mem_cons.1 he with heq | he
    · cases heq
      exact Date.le_trans ha hstep
    rcases List.mem_cons.1 he with heq | he
    · cases heq
      exact Date.le_trans hb hstep
    · exact hlatest e (List.mem_cons_of_mem _ he)

end Search

/-! ### Post dates -/

section Collections

variable {ts us : List Transaction} {latest : Option Value}

/-- The post dates that are there. -/
def postDates (ts : List Transaction) : List Value :=
  (ts.map (·.postDate)).filter fun v =>
    match v with
    | .null => false
    | _ => true

private theorem latestDate_eq (ts : List Transaction) :
    latestDate ts = greatest (postDates ts) := rfl

/-- The post dates are those that are there. -/
theorem mem_postDates {v : Value} : v ∈ postDates ts ↔ v ≠ .null ∧ ∃ t ∈ ts, t.postDate = v := by
  rw [postDates, List.mem_filter, List.mem_map, and_comm]
  refine and_congr_left fun _ => ?_
  cases v <;> simp

/-- Fewer transactions have no other post dates. -/
theorem postDates_subset (h : us ⊆ ts) : postDates us ⊆ postDates ts := by
  intro v hv
  obtain ⟨hne, t, ht, rfl⟩ := mem_postDates.1 hv
  exact mem_postDates.2 ⟨hne, t, h ht, rfl⟩

/-- A post date is absent or one of those that are there. -/
theorem null_or_mem_postDates {t : Transaction} (ht : t ∈ ts) :
    t.postDate = .null ∨ t.postDate ∈ postDates ts := by
  by_cases hnull : t.postDate = .null
  · exact .inl hnull
  · exact .inr (mem_postDates.2 ⟨hnull, t, ht, rfl⟩)

/-- Without post dates that are there all of them are absent. -/
theorem null_of_postDates_eq_nil (h : postDates ts = []) : ∀ t ∈ ts, t.postDate = .null := by
  intro t ht
  refine (null_or_mem_postDates ht).resolve_right fun hmem => ?_
  rw [h] at hmem
  cases hmem

/-- Days that are there have a kind. -/
theorem dateKind?_of_mem_postDates (hts : ∀ t ∈ ts, IsDated t.postDate) {v : Value}
    (hv : v ∈ postDates ts) : (dateKind? v).isSome = true := by
  obtain ⟨hne, t, ht, rfl⟩ := mem_postDates.1 hv
  exact (hts t ht).resolve_left hne

/-- The latest date is one of the post dates, which are all of its kind. -/
theorem latestDate_eq_ok (hts : ∀ t ∈ ts, IsDated t.postDate) (h : latestDate ts = .ok latest) :
    (latest = none ∧ postDates ts = []) ∨
      ∃ v ∈ postDates ts, latest = some v ∧ ∀ w ∈ postDates ts, dateKind? w = dateKind? v := by
  have hkinds : ∀ w ∈ postDates ts, (dateKind? w).isSome = true :=
    fun w => dateKind?_of_mem_postDates hts
  rw [latestDate_eq] at h
  cases hdates : postDates ts with
  | nil =>
    rw [hdates] at h
    cases h
    exact .inl ⟨rfl, rfl⟩
  | cons v vs =>
    rw [hdates] at h hkinds
    obtain ⟨hv, hvs⟩ := List.forall_mem_cons.1 hkinds
    obtain ⟨best, hbest, h⟩ := bind_eq_ok_iff.1 (greatest_cons v vs ▸ h)
    cases h
    obtain ⟨hmem, hsame⟩ := foldlM_later_eq_ok hv hvs hbest
    exact .inr ⟨best, hmem, rfl, hsame⟩

/-- The latest date of post dates of one kind is found. -/
theorem exists_latestDate_of_kind {kind : Option Bool}
    (h : ∀ v ∈ postDates ts, dateKind? v = some kind) : ∃ latest, latestDate ts = .ok latest := by
  rw [latestDate_eq]
  cases hdates : postDates ts with
  | nil => exact ⟨none, rfl⟩
  | cons v vs =>
    rw [hdates] at h
    obtain ⟨best, hbest⟩ := exists_foldlM_later h
    exact ⟨some best, by rw [greatest_cons, hbest]; rfl⟩

/-- The latest date of a part of a collection is found if that of the collection is. -/
theorem exists_latestDate_of_subset (hts : ∀ t ∈ ts, IsDated t.postDate)
    (h : latestDate ts = .ok latest) (hsub : us ⊆ ts) : ∃ latest, latestDate us = .ok latest := by
  have hdates := postDates_subset hsub
  rcases latestDate_eq_ok hts h with ⟨-, hnil⟩ | ⟨v, hv, -, hkinds⟩
  · have hnone : ∀ w ∈ postDates us, dateKind? w = some none := by
      intro w hw
      exact absurd (hnil ▸ hdates hw) List.not_mem_nil
    exact exists_latestDate_of_kind hnone
  · obtain ⟨kind, hkind⟩ := Option.isSome_iff_exists.1 (dateKind?_of_mem_postDates hts hv)
    exact exists_latestDate_of_kind fun w hw => (hkinds w (hdates hw)).trans hkind

/-- If the latest date is a day without a time, all post dates are such days, and none is later. -/
theorem le_of_latestDate {d : Date} (hts : ∀ t ∈ ts, IsDated t.postDate)
    (h : latestDate ts = .ok (some (.date d))) :
    ∀ v ∈ postDates ts, ∃ e : Date, v = .date e ∧ e.le d = true := by
  have hdays : ∀ w ∈ postDates ts, ∃ a, w = .date a := by
    rcases latestDate_eq_ok hts h with ⟨hnone, -⟩ | ⟨v, hv, hsome, hkinds⟩
    · cases hnone
    · cases hsome
      intro w hw
      have hkind := hkinds w hw
      cases w with
      | date a => exact ⟨a, rfl⟩
      | _ => cases hkind
  rw [latestDate_eq] at h
  intro v hv
  obtain ⟨e, rfl⟩ := hdays v hv
  refine ⟨e, rfl, ?_⟩
  cases hdates : postDates ts with
  | nil =>
    rw [hdates] at hv
    cases hv
  | cons w vs =>
    rw [hdates] at h hdays hv
    obtain ⟨⟨a, rfl⟩, hvs⟩ := List.forall_mem_cons.1 hdays
    obtain ⟨best, hbest, h⟩ := bind_eq_ok_iff.1 (greatest_cons (.date a) vs ▸ h)
    cases h
    exact le_of_foldlM_later hvs hbest e hv

end Collections

/-! ### Counting back from it -/

section Days

variable {n : ℕ} {latest : Option Value} {c : Criterion}

/-- Any number of days can be counted back from a day, since it is cut at the first day. -/
theorem exists_ofDays_date (d : Date) (n : ℕ) :
    ∃ first : Date, first.ordinal = max 1 (d.ordinal - n) ∧
      ofDays n (some (.date d)) = .ok (.inRange .date (.date first) (.date d)) := by
  have hpos := Date.one_le_ordinal d
  have hearliest : Date.earliest.ordinal = 1 := rfl
  obtain ⟨first, hfirst, hordinal⟩ :=
    Date.exists_back (d := d) (k := min n (d.ordinal - Date.earliest.ordinal)) (by omega)
  refine ⟨first, by omega, ?_⟩
  rw [ofDays, hfirst]
  rfl

/-- No latest day makes counting back fail. -/
theorem exists_ofDays (h : latest = none ∨ ∃ d, latest = some (.date d)) (n : ℕ) :
    ∃ c, ofDays n latest = .ok c := by
  rcases h with rfl | ⟨d, rfl⟩
  · exact ⟨_, rfl⟩
  · obtain ⟨first, -, hfirst⟩ := exists_ofDays_date d n
    exact ⟨_, hfirst⟩

/-- A number of days asks for a range, and is counted back from a day. -/
theorem ofDays_eq_ok (h : ofDays n latest = .ok c) :
    (∃ lo hi, c = .inRange .date lo hi) ∧ ∀ v, latest = some v → ∃ d, v = .date d := by
  rw [ofDays.eq_def] at h
  split at h
  · cases h
    exact ⟨⟨_, _, rfl⟩, nofun⟩
  · next d =>
    obtain ⟨first, -, h⟩ := bind_eq_ok_iff.1 h
    cases h
    refine ⟨⟨_, _, rfl⟩, ?_⟩
    rintro v ⟨⟩
    exact ⟨d, rfl⟩
  · cases h

end Days

end LedgerTags.Criterion

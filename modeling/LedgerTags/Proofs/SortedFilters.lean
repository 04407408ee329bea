import LedgerTags.Proofs.DateFilters
import LedgerTags.Proofs.RecordOrder

/-!
# Sorting and filtering commute

The arguments of a filter ask for the same in two collections with the same members
(`Criterion.exists_resolve_of_same_members`). This includes a number of days: what is left of the
last days of a collection is among the last days of a part of it, and here each collection is a part
of the other. So the filter keeps the same records of both, each in its order
(`exists_keep_of_same_members`).

The records that are kept of a stable sort are the stable sort of the records that are kept
(`IsStableSort.filter`), and there is only one stable sort. So a collection can be sorted before it
is filtered or after (`filterNamed_sort`).
-/

namespace LedgerTags

open Sorting

/-! ### Collections with the same members -/

namespace Criterion

/-- Arguments that a collection understands are understood by one with the same members, and each
test gives the same answer. -/
theorem exists_resolve_of_same_members {ts us : List Transaction} {arguments : Criteria}
    {cs : List Criterion} (hts : ∀ t ∈ ts, IsDated t.postDate) (hsub : us ⊆ ts) (hsub' : ts ⊆ us)
    (h : resolve ts arguments = .ok cs) :
    ∃ cs', resolve us arguments = .ok cs' ∧
      ∀ t ∈ us, ∀ b, testAll t cs = .ok b ↔ testAll t cs' = .ok b := by
  have hus : ∀ t ∈ us, IsDated t.postDate := fun t ht => hts t (hsub ht)
  obtain ⟨cs', hcs', hloose, -⟩ := exists_resolve_of_subset hts hsub h
  obtain ⟨cs'', hcs'', hback, -⟩ := exists_resolve_of_subset hus hsub' hcs'
  -- Back in the first collection the arguments ask for what they asked for before.
  obtain rfl : cs = cs'' := Except.ok.inj (h.symm.trans hcs'')
  refine ⟨cs', hcs', fun t ht b => ?_⟩
  exact (hloose t ht).antisymm (hback t (hsub ht))

end Criterion

namespace Query

variable {rs us kept : List Record} {named : List (Text × Argument)} {negate : Bool} {key : Key}

/-- A filter that applies to a collection applies to one with the same members, and it keeps the
same records of both. -/
theorem exists_keep_of_same_members
    (hrs : ∀ r ∈ rs, Criterion.IsDated r.transaction.postDate) (hsub : us ⊆ rs) (hsub' : rs ⊆ us)
    (h : filterNamed rs named negate = .ok kept) :
    ∃ keep : Record → Bool, kept = rs.filter keep ∧
      filterNamed us named negate = .ok (us.filter keep) := by
  obtain ⟨arguments, cs, hnamed, hresolve, htest, rfl⟩ := filterNamed_eq_ok_iff_bne.1 h
  obtain ⟨cs', hresolve', hsame⟩ := Criterion.exists_resolve_of_same_members
    (List.forall_mem_map.2 hrs) (List.map_subset _ hsub) (List.map_subset _ hsub') hresolve
  have htest' : ∀ r ∈ us,
      Criterion.testAll r.transaction cs' = .ok (Criterion.meets cs r.transaction) := by
    intro r hr
    have hmeets := Criterion.testAll_eq_meets (htest r (hsub hr))
    exact (hsame _ (List.mem_map_of_mem hr) _).1 hmeets
  refine ⟨_, rfl, filterNamed_eq_ok_iff_bne.2
    ⟨arguments, cs', hnamed, hresolve', fun r hr => ⟨_, htest' r hr⟩, ?_⟩⟩
  refine List.filter_congr fun r hr => ?_
  rw [Criterion.meets_of_testAll (htest' r hr)]

/-! ### Sorting before and after a filter -/

/-- Let days, or times of days, be the post dates, and let the values of a key that are there be
totally preordered. Whatever a filter keeps of the records, negated or not, sorting that gives what
the filter keeps of the sorted records; and if the filter fails, it also fails on them. -/
theorem filterNamed_sort {argument : KeyArgument}
    (hrs : ∀ r ∈ rs, Criterion.IsDated r.transaction.postDate) (hcoherent : Record.Coherent rs)
    (hargument : Key.ofArgument argument = .ok key) (h : key.Orders rs)
    (named : List (Text × Argument)) (reverse negate : Bool) :
    ∃ sorted, sort rs argument reverse = .ok sorted ∧
      (∀ kept, filterNamed rs named negate = .ok kept →
        ∃ out, filterNamed sorted named negate = .ok out ∧ sort kept argument reverse = .ok out) ∧
      ∀ e, filterNamed rs named negate = .error e →
        ∃ e', filterNamed sorted named negate = .error e' := by
  obtain ⟨rank, hrank⟩ := h.preordered.exists_rank
  have hsort (us : List Record) : sort us argument reverse = sortBy key reverse us := by
    rw [sort, hargument, ok_bind]
  obtain ⟨sorted, hsorted, hstable⟩ :=
    exists_sortBy_place h hcoherent hrank (List.Subset.refl rs) reverse
  have hsub : sorted ⊆ rs := hstable.perm.subset
  have hsub' : rs ⊆ sorted := hstable.perm.symm.subset
  refine ⟨sorted, by rw [hsort, hsorted], fun kept hkept => ?_, fun e herror => ?_⟩
  · obtain ⟨keep, rfl, hfilter⟩ := exists_keep_of_same_members hrs hsub hsub' hkept
    obtain ⟨out, hout, hpart⟩ :=
      exists_sortBy_place h hcoherent hrank (List.filter_subset_self (p := keep) rs) reverse
    obtain rfl := hpart.unique (hstable.filter keep)
    exact ⟨_, hfilter, by rw [hsort, hout]⟩
  · cases hfilter : filterNamed sorted named negate with
    | error e' => exact ⟨e', rfl⟩
    | ok out =>
      -- What applies to the sorted records applies to the records.
      have hdated : ∀ r ∈ sorted, Criterion.IsDated r.transaction.postDate :=
        fun r hr => hrs r (hsub hr)
      obtain ⟨keep, -, hkept⟩ := exists_keep_of_same_members hdated hsub' hsub hfilter
      rw [herror] at hkept
      cases hkept

private theorem orders_leapLedger :
    (Key.ofField .postDate).Orders (leapLedger.records [0, 1, 2, 3, 4]) := by
  refine .ofField (Value.isPreordered_dates fun v hv => ?_)
  obtain ⟨hv, hpresent⟩ := List.mem_filter.1 hv
  obtain ⟨r, hr, rfl⟩ := List.mem_map.1 hv
  refine (holdsDay_leapLedger r hr).resolve_left fun hnull => ?_
  have hmissing : isMissing ((Key.ofField .postDate).valueAt r) = true := isMissing_iff.2 hnull
  simp [hmissing] at hpresent

/-- The records that are not of the last day and the day before, the newest of them first, and at
the end the one without a day. -/
theorem filterNamed_sort_leapLedger :
    let rs := leapLedger.records [0, 1, 2, 3, 4]
    (∀ r ∈ rs, Criterion.IsDated r.transaction.postDate) ∧ Record.Coherent rs ∧
    (Key.ofField .postDate).Orders rs ∧
    ∃ sorted kept out, sort rs (.value (.text "post_date")) true = .ok sorted ∧
      filterNamed rs [("date", .value (.int 1))] true = .ok kept ∧
      filterNamed sorted [("date", .value (.int 1))] true = .ok out ∧
      sort kept (.value (.text "post_date")) true = .ok out ∧
      kept.map (·.id) = [1, 2, 4] ∧ out.map (·.id) = [4, 2, 1] := by
  intro rs
  have hdated : ∀ r ∈ rs, Criterion.IsDated r.transaction.postDate := by
    intro r hr
    rcases holdsDay_leapLedger r hr with hnull | ⟨d, hd⟩
    · exact .inl hnull
    · have hday : r.transaction.postDate = .date d := hd
      exact .inr (by rw [hday]; rfl)
  have hcoherent : Record.Coherent rs := Ledger.coherent_records leapLedger [0, 1, 2, 3, 4]
  have hargument : Key.ofArgument (.value (.text "post_date")) = .ok (.ofField .postDate) := rfl
  obtain ⟨sorted, hsorted, hkept, -⟩ := filterNamed_sort hdated hcoherent hargument
    orders_leapLedger [("date", .value (.int 1))] true true
  have hids : (filterNamed rs [("date", .value (.int 1))] true).toOption.map
      (fun rs => rs.map (·.id)) = some [1, 2, 4] := by decide +kernel
  have hids' : (filterNamed rs [("date", .value (.int 1))] true >>= fun kept =>
      sort kept (.value (.text "post_date")) true).toOption.map (fun rs => rs.map (·.id)) =
      some [4, 2, 1] := by decide +kernel
  cases hfilter : filterNamed rs [("date", .value (.int 1))] true with
  | error e =>
    rw [hfilter] at hids
    cases hids
  | ok kept =>
    obtain ⟨out, hout, hsort⟩ := hkept kept hfilter
    rw [hfilter] at hids
    rw [hfilter, ok_bind, hsort] at hids'
    exact ⟨hdated, hcoherent, orders_leapLedger, sorted, kept, out, hsorted, rfl, hout, hsort,
      Option.some.inj hids, Option.some.inj hids'⟩

end Query

end LedgerTags

import LedgerTags.Proofs.KeyEquality
import Mathlib.Algebra.BigOperators.Group.List.Basic

/-!
# Tallies

The tally of some keys has the distinct ones, in the order in which they occur first, each with how
often it occurs (`Value.tally`). What equals a key is counted with it, so the counts of the keys
with some property add up to the number of values with that property (`sum_filter_tally`).

The tally of two lists one after the other has the keys of the first list first, then the new keys
of the second one (`distinct_append`), and the counts add up key by key (`countOf_tally`).
-/

namespace LedgerTags.Value

variable {vs ws ds : List Value} {v w k : Value}

/-! ### Distinct values -/

private theorem distinct_append_singleton (vs : List Value) (v : Value) : distinct (vs ++ [v]) =
    if (distinct vs).any (sameKey · v) then distinct vs else distinct vs ++ [v] := by
  simp [distinct, List.foldl_append]

private theorem distinct_subset (vs : List Value) : distinct vs ⊆ vs := by
  induction vs using List.reverseRecOn with
  | nil => exact List.Subset.refl _
  | append_singleton vs v ih =>
    rw [distinct_append_singleton]
    split
    · exact List.subset_append_of_subset_left _ ih
    · exact List.append_subset.2
        ⟨List.subset_append_of_subset_left _ ih, List.subset_append_right _ _⟩

/-- No value of a list equals an earlier one. -/
def Differ (vs : List Value) : Prop := vs.Pairwise fun v w => sameKey v w = false

/-- The distinct keys differ from each other. -/
theorem differ_distinct (vs : List Value) : Differ (distinct vs) := by
  induction vs using List.reverseRecOn with
  | nil => exact .nil
  | append_singleton vs v ih =>
    rw [distinct_append_singleton]
    split
    · exact ih
    · next hnew =>
      rw [Bool.not_eq_true, List.any_eq_false] at hnew
      refine List.pairwise_append.2 ⟨ih, List.pairwise_singleton _ _, fun d hd w hw => ?_⟩
      obtain rfl := List.mem_singleton.1 hw
      exact Bool.eq_false_iff.2 (hnew d hd)

section Keys

variable (hvs : ∀ v ∈ vs, IsKey v)
include hvs

/-- The distinct values of keys are keys. -/
theorem isKey_of_mem_distinct (hv : v ∈ distinct vs) : IsKey v := hvs v (distinct_subset vs hv)

/-- A key equals one of the distinct ones if it equals one of all. -/
theorem any_distinct (hk : IsKey k) :
    (distinct vs).any (sameKey · k) = vs.any (sameKey · k) := by
  induction vs using List.reverseRecOn with
  | nil => rfl
  | append_singleton vs v ih =>
    obtain ⟨hvs, hv⟩ := List.forall_mem_append.1 hvs
    have hv' : IsKey v := hv v List.mem_cons_self
    rw [distinct_append_singleton, List.any_append, ← ih hvs]
    split
    · next hold =>
      obtain ⟨d, hd, hdv⟩ := List.any_eq_true.1 hold
      have hdk := IsKey.sameKey_congr (isKey_of_mem_distinct hvs hd) hv' hk hdv
      rw [Bool.eq_iff_iff, Bool.or_eq_true]
      refine ⟨.inl, fun h => h.elim id fun hvk => List.any_eq_true.2 ⟨d, hd, ?_⟩⟩
      rw [hdk]
      simpa using hvk
    · rw [List.any_append]

private theorem exists_mem_distinct (hv : v ∈ vs) : ∃ d ∈ distinct vs, sameKey d v = true := by
  have hself : vs.any (sameKey · v) = true :=
    List.any_eq_true.2 ⟨v, hv, sameKey_iff.2 (hvs v hv).same_self⟩
  rw [← any_distinct hvs (hvs v hv)] at hself
  exact List.any_eq_true.1 hself

end Keys

/-- Of different keys at most one equals a key. -/
theorem countP_sameKey (hds : ∀ d ∈ ds, IsKey d) (hdiffer : Differ ds) (hk : IsKey k) :
    ds.countP (sameKey · k) = if ds.any (sameKey · k) then 1 else 0 := by
  induction ds with
  | nil => rfl
  | cons d ds ih =>
    obtain ⟨hd, hds⟩ := List.forall_mem_cons.1 hds
    obtain ⟨hfirst, hdiffer⟩ := List.pairwise_cons.1 hdiffer
    rw [List.countP_cons, List.any_cons, ih hds hdiffer]
    by_cases hdk : sameKey d k = true
    · have hnone : ds.any (sameKey · k) = false := by
        rw [List.any_eq_false]
        intro e he hek
        have hde := hfirst e he
        rw [IsKey.sameKey_congr hd hk (hds e he) hdk, hk.sameKey_comm (hds e he), hek] at hde
        cases hde
      simp [hdk, hnone]
    · simp [hdk]

/-- Equal keys equal the same ones of some keys. -/
theorem any_sameKey_congr (hds : ∀ d ∈ ds, IsKey d) (hv : IsKey v) (hw : IsKey w)
    (hvw : sameKey v w = true) : ds.any (sameKey · v) = ds.any (sameKey · w) := by
  rw [Bool.eq_iff_iff, List.any_eq_true, List.any_eq_true]
  refine exists_congr fun d => and_congr_right fun hd => ?_
  rw [hv.sameKey_congr_right hw (hds d hd) hvw]

/-- The distinct values of two lists: those of the first one, then the new ones of the second. -/
theorem distinct_append (hvs : ∀ v ∈ vs, IsKey v) (hws : ∀ w ∈ ws, IsKey w) :
    distinct (vs ++ ws) = distinct vs ++
      (distinct ws).filter fun w => !(distinct vs).any (sameKey · w) := by
  induction ws using List.reverseRecOn with
  | nil => simp [distinct]
  | append_singleton ws w ih =>
    obtain ⟨hws, hw⟩ := List.forall_mem_append.1 hws
    have hw' : IsKey w := hw w List.mem_cons_self
    rw [← List.append_assoc, distinct_append_singleton, ih hws, distinct_append_singleton,
      List.any_append, List.any_filter]
    by_cases hold : (distinct vs).any (sameKey · w) = true
    · rw [if_pos (by rw [hold, Bool.true_or])]
      split
      · rfl
      · rw [List.filter_append, List.filter_cons_of_neg (by simp [hold]), List.filter_nil,
          List.append_nil]
    · -- What equals the next one is new as well.
      have hnew : ∀ e ∈ distinct ws,
          (!(distinct vs).any (sameKey · e) && sameKey e w) = sameKey e w := by
        intro e he
        cases hew : sameKey e w with
        | false => rw [Bool.and_false]
        | true =>
          have hcongr := any_sameKey_congr (fun d => isKey_of_mem_distinct hvs)
            (isKey_of_mem_distinct hws he) hw' hew
          rw [hcongr, Bool.eq_false_iff.2 hold, Bool.not_false, Bool.true_and]
      have hany : ((distinct ws).any fun e => !(distinct vs).any (sameKey · e) && sameKey e w) =
          (distinct ws).any (sameKey · w) := by
        rw [Bool.eq_iff_iff, List.any_eq_true, List.any_eq_true]
        exact exists_congr fun e => and_congr_right fun he => by rw [hnew e he]
      rw [Bool.eq_false_iff.2 hold, Bool.false_or, hany]
      split
      · rfl
      · rw [List.filter_append, List.filter_cons_of_pos (by simp [hold]), List.filter_nil,
          List.append_assoc]

/-! ### Tallies -/

/-- The distinct values, in the order in which they occur first, each with how often it occurs. -/
def tally (vs : List Value) : List (Value × ℕ) :=
  (distinct vs).map fun v => (v, vs.countP (sameKey v))

@[simp] theorem keys_tally (vs : List Value) : (tally vs).map Prod.fst = distinct vs := by
  rw [tally, List.map_map]
  exact List.map_id _

/-- One more value is counted with the key that it equals, or is a new key. -/
theorem tally_append_singleton (hvs : ∀ v ∈ vs, IsKey v) (hv : IsKey v) : tally (vs ++ [v]) =
    if (distinct vs).any (sameKey · v) then
      (tally vs).map fun e => (e.1, e.2 + if sameKey e.1 v then 1 else 0)
    else tally vs ++ [(v, 1)] := by
  have hcount (d : Value) : (vs ++ [v]).countP (sameKey d) =
      vs.countP (sameKey d) + if sameKey d v then 1 else 0 := by
    rw [List.countP_append, List.countP_singleton]
  rw [tally, distinct_append_singleton]
  split
  · rw [tally, List.map_map]
    exact List.map_congr_left fun d _ => by rw [hcount]; rfl
  · next hnew =>
    have hdiffers : ∀ w ∈ vs, sameKey w v = false := by
      rw [any_distinct hvs hv, Bool.not_eq_true, List.any_eq_false] at hnew
      exact fun w hw => Bool.eq_false_iff.2 (hnew w hw)
    have hnone : vs.countP (sameKey v) = 0 := by
      refine List.countP_eq_zero.2 fun w hw => ?_
      rw [hv.sameKey_comm (hvs w hw), hdiffers w hw]
      exact Bool.false_ne_true
    have hself : sameKey v v = true := sameKey_iff.2 hv.same_self
    rw [List.map_append, List.map_singleton, hcount, hnone, hself, tally]
    refine congrArg (· ++ [(v, 1)]) (List.map_congr_left fun d hd => ?_)
    rw [hcount, hdiffers d (distinct_subset vs hd)]
    rfl

/-- The count of a value in a tally, zero if it is none of the keys. -/
def countOf (out : List (Value × ℕ)) (v : Value) : ℕ :=
  ((out.find? fun e => sameKey e.1 v).map Prod.snd).getD 0

/-- A tally counts how often each key occurs. -/
theorem countOf_tally (hvs : ∀ v ∈ vs, IsKey v) (hk : IsKey k) :
    countOf (tally vs) k = vs.countP (sameKey k) := by
  rw [countOf]
  cases hfind : (tally vs).find? fun e => sameKey e.1 k with
  | some e =>
    obtain ⟨d, hd, rfl⟩ := List.mem_map.1 (List.mem_of_find?_eq_some hfind)
    have hdk := List.find?_some hfind
    refine List.countP_congr fun v hv => ?_
    rw [(isKey_of_mem_distinct hvs hd).sameKey_congr hk (hvs v hv) hdk]
  | none =>
    have hnone : (distinct vs).any (sameKey · k) = false := by
      rw [List.any_eq_false]
      intro d hd
      exact List.find?_eq_none.1 hfind _ (List.mem_map_of_mem hd)
    rw [any_distinct hvs hk, List.any_eq_false] at hnone
    refine (List.countP_eq_zero.2 fun v hv => ?_).symm
    rw [hk.sameKey_comm (hvs v hv)]
    exact hnone v hv

/-- Ones summed up over the members that pass count these members. -/
theorem sum_map_ite_one {α : Type} (p : α → Bool) (xs : List α) :
    (xs.map fun x => if p x then 1 else 0).sum = xs.countP p := by
  induction xs with
  | nil => rfl
  | cons x xs ih => rw [List.map_cons, List.sum_cons, ih, List.countP_cons, add_comm]

/-- Related pairs can be counted from either side. -/
theorem sum_map_countP (r : Value → Value → Bool) (ds vs : List Value) :
    (ds.map fun d => vs.countP (r d)).sum = (vs.map fun v => ds.countP (r · v)).sum := by
  induction vs with
  | nil => simp
  | cons v vs ih =>
    simp only [List.countP_cons, List.sum_map_add, ih, List.map_cons, List.sum_cons,
      sum_map_ite_one, add_comm]

/-- The counts of the keys with a property add up to the number of values with it. -/
theorem sum_filter_tally (hvs : ∀ v ∈ vs, IsKey v) {p : Value → Bool}
    (hp : ∀ v ∈ vs, ∀ w ∈ vs, sameKey v w = true → p v = p w) :
    (((tally vs).filter fun e => p e.1).map Prod.snd).sum = vs.countP p := by
  have hcounts : ((tally vs).filter fun e => p e.1).map Prod.snd =
      ((distinct vs).filter p).map fun d => vs.countP (sameKey d) := by
    rw [tally, List.filter_map, List.map_map]
    rfl
  -- Every value equals one of the keys, which has the property if the value has it.
  have hone : ∀ v ∈ vs, ((distinct vs).filter p).countP (sameKey · v) = if p v then 1 else 0 := by
    intro v hv
    have hkeys : ∀ d ∈ (distinct vs).filter p, IsKey d := fun d hd =>
      isKey_of_mem_distinct hvs (List.mem_filter.1 hd).1
    have hdiffer : Differ ((distinct vs).filter p) := (differ_distinct vs).filter p
    have hany : ((distinct vs).filter p).any (sameKey · v) = p v := by
      rw [Bool.eq_iff_iff, List.any_eq_true]
      constructor
      · rintro ⟨d, hd, hdv⟩
        obtain ⟨hd, hpd⟩ := List.mem_filter.1 hd
        rwa [← hp d (distinct_subset vs hd) v hv hdv]
      · intro hpv
        obtain ⟨d, hd, hdv⟩ := exists_mem_distinct hvs hv
        have hpd : p d = true := by rw [hp d (distinct_subset vs hd) v hv hdv, hpv]
        exact ⟨d, List.mem_filter.2 ⟨hd, hpd⟩, hdv⟩
    rw [countP_sameKey hkeys hdiffer (hvs v hv), hany]
  rw [hcounts, sum_map_countP, List.map_congr_left hone, sum_map_ite_one]

end LedgerTags.Value

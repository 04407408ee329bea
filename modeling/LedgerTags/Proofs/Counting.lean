import LedgerTags.Proofs.Sameness
import LedgerTags.Proofs.Sorting
import LedgerTags.Query.Count

/-!
# When counting goes well

A count goes over the records one after the other, and it goes well exactly if each of them
contributes values that can be keys (`exists_countFrom_iff`). For a field that is no collection
these are the values of the field (`exists_count_iff`). Tags can always be counted: texts have an
order, in which the tags of a record are taken, and they can be keys (`exists_count_tags`).
-/

namespace LedgerTags.Query

variable {key : Key} {r : Record} {rs : List Record} {tallies : List Tally} {f : Field}

/-- What a record contributes to a count can be keys. -/
def Contributes (key : Key) (r : Record) : Prop :=
  ∃ k ks, key.of r = .ok k ∧ contributions k = .ok ks ∧
    ∀ k' ∈ ks, Value.checkHashable k'.value = .ok ()

private theorem exists_addAllToTallies_iff {ks : List Key.Keyed} :
    (∃ tallies', addAllToTallies tallies ks = .ok tallies') ↔
      ∀ k ∈ ks, Value.checkHashable k.value = .ok () := by
  induction ks generalizing tallies with
  | nil => exact iff_of_true ⟨tallies, rfl⟩ fun _ hk => absurd hk List.not_mem_nil
  | cons k ks ih =>
    rw [List.forall_mem_cons]
    constructor
    · rintro ⟨tallies', h⟩
      obtain ⟨_, hk, hks⟩ := bind_eq_ok_iff.1 h
      exact ⟨hk, ih.1 ⟨tallies', hks⟩⟩
    · rintro ⟨hk, hrest⟩
      obtain ⟨tallies', hks⟩ := ih.2 hrest
      exact ⟨tallies', bind_eq_ok_iff.2 ⟨(), hk, hks⟩⟩

/-- Counting goes well exactly if every record contributes keys. -/
theorem exists_countFrom_iff :
    (∃ tallies', countFrom key tallies rs = .ok tallies') ↔ ∀ r ∈ rs, Contributes key r := by
  induction rs generalizing tallies with
  | nil => exact iff_of_true ⟨tallies, rfl⟩ fun _ hr => absurd hr List.not_mem_nil
  | cons r rs ih =>
    rw [List.forall_mem_cons]
    constructor
    · rintro ⟨tallies', h⟩
      obtain ⟨k, hk, h⟩ := bind_eq_ok_iff.1 h
      obtain ⟨ks, hks, h⟩ := bind_eq_ok_iff.1 h
      obtain ⟨tallies₁, hadd, hrest⟩ := bind_eq_ok_iff.1 h
      exact ⟨⟨k, ks, hk, hks, exists_addAllToTallies_iff.1 ⟨tallies₁, hadd⟩⟩,
        ih.1 ⟨tallies', hrest⟩⟩
    · rintro ⟨⟨k, ks, hk, hks, hkeys⟩, hrest⟩
      obtain ⟨tallies₁, hadd⟩ := exists_addAllToTallies_iff.2 hkeys
      obtain ⟨tallies', h⟩ := ih.2 hrest
      refine ⟨tallies', bind_eq_ok_iff.2 ⟨k, hk, bind_eq_ok_iff.2 ⟨ks, hks, ?_⟩⟩⟩
      exact bind_eq_ok_iff.2 ⟨tallies₁, hadd, h⟩

/-! ### Counting by a field -/

/-- The name of a field is the key that reads this field. -/
theorem ofArgument_field (f : Field) :
    Key.ofArgument (.value (.text f.toText)) = .ok (.ofField f) := by
  cases f <;> rfl

private theorem exists_count_field_iff : (∃ out, count rs (.value (.text f.toText)) = .ok out) ↔
    ∀ r ∈ rs, Contributes (.ofField f) r := by
  rw [count, ofArgument_field, ok_bind]
  constructor
  · rintro ⟨out, h⟩
    obtain ⟨tallies, htallies, -⟩ := bind_eq_ok_iff.1 h
    exact exists_countFrom_iff.1 ⟨tallies, htallies⟩
  · intro h
    obtain ⟨tallies, htallies⟩ := exists_countFrom_iff.2 h
    exact ⟨_, bind_eq_ok_iff.2 ⟨tallies, htallies, rfl⟩⟩

/-- A value that is no collection counts itself. -/
theorem contributions_eq {k : Key.Keyed} (h : k.value.collection? = none) :
    contributions k = .ok [k] := by
  unfold contributions
  split
  · next hset => rw [hset] at h; cases h
  · next hset => rw [hset] at h; cases h
  · rfl

private theorem contributes_iff (h : (r.transaction.get f).collection? = none) :
    Contributes (.ofField f) r ↔ Value.checkHashable (r.transaction.get f) = .ok () := by
  have hof : (Key.ofField f).of r = .ok ⟨r.transaction.get f, some r.id⟩ := rfl
  have hone : contributions ⟨r.transaction.get f, some r.id⟩ =
      .ok [⟨r.transaction.get f, some r.id⟩] := contributions_eq h
  constructor
  · rintro ⟨k, ks, hk, hks, hkeys⟩
    obtain rfl := Except.ok.inj (hof.symm.trans hk)
    obtain rfl := Except.ok.inj (hone.symm.trans hks)
    exact hkeys _ List.mem_cons_self
  · intro hhash
    refine ⟨_, _, hof, hone, fun k hk => ?_⟩
    obtain rfl := List.mem_singleton.1 hk
    exact hhash

/-- A field that is no collection can be counted exactly if its values can be keys. -/
theorem exists_count_iff (h : ∀ r ∈ rs, (r.transaction.get f).collection? = none) :
    (∃ out, count rs (.value (.text f.toText)) = .ok out) ↔
      ∀ r ∈ rs, Value.checkHashable (r.transaction.get f) = .ok () := by
  rw [exists_count_field_iff]
  exact forall₂_congr fun r hr => contributes_iff (h r hr)

/-- The tags of any records can be counted. -/
theorem exists_count_tags (rs : List Record) :
    ∃ out, count rs (.value (.text Field.tags.toText)) = .ok out := by
  rw [exists_count_field_iff]
  intro r _
  have htexts : ∀ v ∈ r.transaction.tags.toList.map Value.text, ∃ s, v = .text s := by
    intro v hv
    obtain ⟨s, -, rfl⟩ := List.mem_map.1 hv
    exact ⟨s, rfl⟩
  have hcomparable :
      Sorting.Comparable (Value.test .lt) (r.transaction.tags.toList.map Value.text) := by
    intro v hv w hw
    obtain ⟨s, rfl⟩ := htexts v hv
    obtain ⟨t, rfl⟩ := htexts w hw
    exact ⟨_, by rw [Value.test]⟩
  obtain ⟨vs, hsort, hperm⟩ := Sorting.exists_sort hcomparable
  refine ⟨⟨Transaction.tagsValue r.transaction.tags, some r.id⟩, vs.map fun v => ⟨v, none⟩, rfl,
    ?_, fun k hk => ?_⟩
  · exact bind_eq_ok_iff.2 ⟨vs, hsort, rfl⟩
  · obtain ⟨v, hv, rfl⟩ := List.mem_map.1 hk
    obtain ⟨s, rfl⟩ := htexts v (hperm.subset hv)
    exact Value.checkHashable_of_scalar? rfl

end LedgerTags.Query

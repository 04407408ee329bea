import LedgerTags.Proofs.Counting
import LedgerTags.Proofs.Merging
import LedgerTags.Proofs.StableSorting
import LedgerTags.Proofs.ValueOrder
import LedgerTags.Query.Sort
import Mathlib.Data.Bool.Basic
import Mathlib.Data.Prod.Lex

/-!
# Records in the order of a key

A sort by a key returns the stable sort of the records by the place that their values have: first
those that are there, by their rank, ascending or descending, and then those that are missing
(`exists_sortBy_place`). A descending sort is the ascending one of the reversed list, reversed; its
items are marked the other way round, so that missing values come last again.

What a missing value compares as does not matter, since it is never compared with one that is there
(`sortUsing_eq`). Sorting by a second key and then by a first one orders by both (`sort_by_key`).
-/

namespace LedgerTags

open Sorting

variable {key : Key} {rs us : List Record} {r s : Record} {v w : Value} {rank : Value → ℤ}
  {reverse : Bool}

namespace Query

/-- A value is missing exactly if it is null. -/
theorem isMissing_iff : isMissing v = true ↔ v = .null := by
  cases v <;> simp [isMissing]

private theorem isMissing_eq_false (h : v ≠ .null) : isMissing v = false :=
  Bool.eq_false_iff.2 (mt isMissing_iff.1 h)

private theorem eq_null_iff (h : isMissing v = isMissing w) : v = .null ↔ w = .null := by
  rw [← isMissing_iff, h, isMissing_iff]

end Query

/-! ### Keys with values in order -/

namespace Key

/-- The value of a key for a record; null if there is none. -/
def valueAt (key : Key) (r : Record) : Value := (key.value r.transaction).toOption.getD .null

/-- The values of a key that are not missing. -/
def present (key : Key) (rs : List Record) : List Value :=
  (rs.map key.valueAt).filter fun v => !Query.isMissing v

/-- A key has values for the records, and those that are not missing are totally preordered. -/
structure Orders (key : Key) (rs : List Record) : Prop where
  exists_value : ∀ r ∈ rs, ∃ v, key.value r.transaction = .ok v
  /-- Values that are the same thing for all records are the same. -/
  always : key.sharing = .always → ∀ r ∈ rs, ∀ s ∈ rs, key.valueAt r = key.valueAt s
  preordered : Value.IsPreordered (key.present rs)

private theorem present_subset (h : us ⊆ rs) : key.present us ⊆ key.present rs := by
  intro v hv
  obtain ⟨hv, hpresent⟩ := List.mem_filter.1 hv
  exact List.mem_filter.2 ⟨List.map_subset _ h hv, hpresent⟩

private theorem mem_present (hr : r ∈ rs) (h : key.valueAt r ≠ .null) :
    key.valueAt r ∈ key.present rs :=
  List.mem_filter.2 ⟨List.mem_map_of_mem hr, by simp [Query.isMissing_eq_false h]⟩

/-- What the value of a key for a record is the same as. -/
def identityAt (key : Key) (r : Record) : Option ℕ :=
  match key.sharing with
  | .ofRecord => some r.id
  | .always => some 0
  | .never => none

/-- A key keeps the value together with what identifies it. -/
theorem of_eq (h : key.value r.transaction = .ok v) :
    key.of r = .ok ⟨v, key.identityAt r⟩ := by
  rw [Key.of, h]
  rfl

/-- A key that has a value at a record has the value that is noted for it. -/
theorem value_eq_valueAt (h : ∃ v, key.value r.transaction = .ok v) :
    key.value r.transaction = .ok (key.valueAt r) := by
  obtain ⟨v, hv⟩ := h
  rw [valueAt, hv]
  rfl

/-- Values of one record are the same, and those that are the same thing for all records. -/
theorem valueAt_eq_of_identityAt (hcoherent : Record.Coherent rs)
    (halways : key.sharing = .always → key.valueAt r = key.valueAt s) (hr : r ∈ rs) (hs : s ∈ rs)
    (hsome : (key.identityAt r).isSome = true) (hidentity : key.identityAt r = key.identityAt s) :
    key.valueAt r = key.valueAt s := by
  cases hsharing : key.sharing with
  | ofRecord =>
    have hid : r.id = s.id := by simpa [identityAt, hsharing] using hidentity
    rw [valueAt, valueAt, hcoherent r hr s hs hid]
  | always => exact halways hsharing
  | never => simp [identityAt, hsharing] at hsome

namespace Orders

private theorem subset (h : key.Orders rs) (hus : us ⊆ rs) : key.Orders us where
  exists_value r hr := h.exists_value r (hus hr)
  always hshared r hr s hs := h.always hshared r (hus hr) s (hus hs)
  preordered := h.preordered.subset (present_subset hus)

/-- A field has a value for each record. -/
theorem ofField {f : Field} (h : Value.IsPreordered ((Key.ofField f).present rs)) :
    (Key.ofField f).Orders rs where
  exists_value r _ := ⟨r.transaction.get f, rfl⟩
  always hshared := by cases hshared
  preordered := h

/-- Values that are the same thing are the same. -/
theorem valueAt_eq (h : key.Orders rs) (hcoherent : Record.Coherent rs) (hr : r ∈ rs) (hs : s ∈ rs)
    (hsome : (key.identityAt r).isSome = true) (hidentity : key.identityAt r = key.identityAt s) :
    key.valueAt r = key.valueAt s :=
  valueAt_eq_of_identityAt hcoherent (fun hshared => h.always hshared r hr s hs) hr hs hsome
    hidentity

end Orders

end Key

namespace Query

/-! ### The order of the values -/

/-- A value may stand before another in a sort: the missing ones come last, and of two that are
there the later one is not below the earlier one, or not above it in a descending sort. -/
def InOrder (reverse : Bool) (v w : Value) : Prop :=
  w = .null ∨ v ≠ .null ∧
    Value.test .lt (if reverse then v else w) (if reverse then w else v) = .ok false

/-- Two values are both missing, or none of them is below the other. -/
def Tied (v w : Value) : Prop :=
  v = .null ∧ w = .null ∨ v ≠ .null ∧ w ≠ .null ∧
    Value.test .lt v w = .ok false ∧ Value.test .lt w v = .ok false

/-- The place of a value: behind those that are there if it is missing, else by its rank. -/
def placeOf (rank : Value → ℤ) (reverse : Bool) (v : Value) : Bool ×ₗ ℤ :=
  toLex (isMissing v, if reverse then -rank v else rank v)

private theorem placeOf_le_iff (hrank : Value.IsRank rank (key.present rs)) (hr : r ∈ rs)
    (hs : s ∈ rs) : placeOf rank reverse (key.valueAt r) ≤ placeOf rank reverse (key.valueAt s) ↔
      InOrder reverse (key.valueAt r) (key.valueAt s) := by
  rw [placeOf, placeOf, Prod.Lex.toLex_le_toLex, InOrder]
  by_cases hw : key.valueAt s = .null
  · by_cases hv : key.valueAt r = .null
    · simp [hv, hw]
    · simp [hw, isMissing]
  · by_cases hv : key.valueAt r = .null
    · simp [hv, hw, isMissing]
    · have hmem := Key.mem_present hr hv
      have hmem' := Key.mem_present hs hw
      cases reverse with
      | false =>
        have htest := hrank _ hmem' _ hmem
        simp [hv, hw, isMissing_eq_false, htest]
      | true =>
        have htest := hrank _ hmem _ hmem'
        simp [hv, hw, isMissing_eq_false, htest]

private theorem tied_iff (hrank : Value.IsRank rank (key.present rs)) (hr : r ∈ rs) (hs : s ∈ rs) :
    Tied (key.valueAt r) (key.valueAt s) ↔
      placeOf rank reverse (key.valueAt r) = placeOf rank reverse (key.valueAt s) := by
  rw [le_antisymm_iff, placeOf_le_iff hrank hr hs, placeOf_le_iff hrank hs hr, Tied, InOrder,
    InOrder]
  cases reverse <;> grind

private theorem eq_null_of_same_null (h : Value.same .null v = .ok true) : v = .null := by
  rw [Value.same.eq_def] at h
  cases v with
  | null => rfl
  | _ => cases h

/-- Equal values are tied, two missing ones among them. -/
theorem tied_of_same (h : key.Orders rs) (hr : r ∈ rs) (hs : s ∈ rs)
    (hsame : Value.same (key.valueAt r) (key.valueAt s) = .ok true)
    (hback : Value.same (key.valueAt s) (key.valueAt r) = .ok true) :
    Tied (key.valueAt r) (key.valueAt s) := by
  by_cases hv : key.valueAt r = .null
  · exact .inl ⟨hv, eq_null_of_same_null (hv ▸ hsame)⟩
  have hw : key.valueAt s ≠ .null := fun hw => hv (eq_null_of_same_null (hw ▸ hback))
  obtain ⟨b, hb⟩ := h.preordered.exists_test _ (Key.mem_present hr hv) _ (Key.mem_present hs hw)
  obtain ⟨c, hc⟩ := h.preordered.exists_test _ (Key.mem_present hs hw) _ (Key.mem_present hr hv)
  obtain rfl := Value.test_lt_of_same hsame hb
  obtain rfl := Value.test_lt_of_same hback hc
  exact .inr ⟨hv, hw, hb, hc⟩

/-! ### The order of the items -/

/-- The item of a record. -/
def itemOf (key : Key) (reverse : Bool) (r : Record) : SortItem :=
  ⟨isMissing (key.valueAt r) != reverse, ⟨key.valueAt r, key.identityAt r⟩, r⟩

/-- The place of an item in the ascending sort of the items. -/
def itemPlace (rank : Value → ℤ) (i : SortItem) : Bool ×ₗ ℤ := toLex (i.behind, rank i.keyed.value)

private theorem itemOf_injective (key : Key) (reverse : Bool) : (itemOf key reverse).Injective :=
  fun _ _ h => congrArg SortItem.record h

/-- If the key has a value at every record, each record is noted with its value. -/
theorem mapM_sortItem (h : ∀ r ∈ rs, ∃ v, key.value r.transaction = .ok v) (reverse : Bool) :
    rs.mapM (sortItem key reverse) = .ok (rs.map (itemOf key reverse)) := by
  rw [mapM_eq_ok_iff, List.forall₂_map_right_iff, List.forall₂_same]
  intro r hr
  rw [sortItem, Key.of_eq (Key.value_eq_valueAt (h r hr))]
  rfl

/-- Keyed values that are both there or both missing are compared by their ranks. -/
theorem keyed_less (h : key.Orders rs) (hcoherent : Record.Coherent rs)
    (hrank : Value.IsRank rank (key.present rs)) (hr : r ∈ rs) (hs : s ∈ rs)
    (hmissing : isMissing (key.valueAt r) = isMissing (key.valueAt s)) :
    (do if ← Key.Keyed.same ⟨key.valueAt r, key.identityAt r⟩ ⟨key.valueAt s, key.identityAt s⟩
          then return false else Value.test .lt (key.valueAt r) (key.valueAt s) : Outcome Bool) =
      .ok (decide (rank (key.valueAt r) < rank (key.valueAt s))) := by
  have hequal : key.valueAt r = key.valueAt s →
      decide (rank (key.valueAt r) < rank (key.valueAt s)) = false := fun heq => by simp [heq]
  rw [Key.Keyed.same]
  split
  · next hsame =>
    rw [Bool.and_eq_true, beq_iff_eq] at hsame
    rw [hequal (h.valueAt_eq hcoherent hr hs hsame.1 hsame.2)]
    rfl
  by_cases hv : key.valueAt r = .null
  · have hw : key.valueAt s = .null := (eq_null_iff hmissing).1 hv
    rw [hequal (hv.trans hw.symm), hv, hw, Value.same_null]
    rfl
  · have hw : key.valueAt s ≠ .null := mt (eq_null_iff hmissing).2 hv
    have htest := hrank _ (Key.mem_present hr hv) _ (Key.mem_present hs hw)
    obtain ⟨b, hb⟩ := h.preordered.exists_same _ (Key.mem_present hr hv) _ (Key.mem_present hs hw)
    rw [hb, ok_bind]
    cases b with
    | true =>
      rw [Value.test_lt_of_same hb htest]
      rfl
    | false => exact htest

/-- The items of records are compared by their places. -/
theorem follows_before (h : key.Orders rs) (hcoherent : Record.Coherent rs)
    (hrank : Value.IsRank rank (key.present rs)) (reverse : Bool) :
    Follows SortItem.before (itemPlace rank) (rs.map (itemOf key reverse)) := by
  rw [Follows, List.forall_mem_map]
  intro r hr
  rw [List.forall_mem_map]
  intro s hs
  have hplace : itemPlace rank (itemOf key reverse r) < itemPlace rank (itemOf key reverse s) ↔
      (itemOf key reverse r).behind < (itemOf key reverse s).behind ∨
        (itemOf key reverse r).behind = (itemOf key reverse s).behind ∧
          rank (key.valueAt r) < rank (key.valueAt s) := Prod.Lex.toLex_lt_toLex
  rw [SortItem.before]
  split
  · next hbehind =>
    have hmissing : isMissing (key.valueAt r) = isMissing (key.valueAt s) :=
      Bool.xor_left_inj.1 hbehind
    have hless : (itemPlace rank (itemOf key reverse r) < itemPlace rank (itemOf key reverse s)) ↔
        rank (key.valueAt r) < rank (key.valueAt s) := by simp [hplace, hbehind]
    rw [decide_eq_decide.2 hless]
    exact keyed_less h hcoherent hrank hr hs hmissing
  · next hbehind =>
    have hless : (itemPlace rank (itemOf key reverse r) < itemPlace rank (itemOf key reverse s)) ↔
        (itemOf key reverse r).behind = false := by
      rw [hplace]
      revert hbehind
      cases (itemOf key reverse r).behind <;> cases (itemOf key reverse s).behind <;> simp
    simp [hless]

/-! ### Sorting -/

/-- The records of a part of a collection are sorted stably by the places of their values. -/
theorem exists_sortBy_place (h : key.Orders rs) (hcoherent : Record.Coherent rs)
    (hrank : Value.IsRank rank (key.present rs)) (hus : us ⊆ rs) (reverse : Bool) :
    ∃ out, sortBy key reverse us = .ok out ∧
      IsStableSort (fun r => placeOf rank reverse (key.valueAt r)) us out := by
  have hfollows : Follows SortItem.before (itemPlace rank) (us.map (itemOf key reverse)) :=
    (follows_before h hcoherent hrank reverse).subset (List.map_subset _ hus)
  have hitems := mapM_sortItem (h.subset hus).exists_value reverse
  cases reverse with
  | false =>
    obtain ⟨items, hsort, hstable⟩ := exists_stableSort hfollows
    obtain ⟨out, rfl, hout⟩ := hstable.exists_map (itemOf_injective key false)
    refine ⟨out, ?_, hout.congr fun r _ s _ => ?_⟩
    · simp [sortBy, hitems, hsort, itemOf, Function.comp_def]
    · simp [itemPlace, itemOf, placeOf, Prod.Lex.toLex_le_toLex]
  | true =>
    have hback : Follows SortItem.before (itemPlace rank) (us.reverse.map (itemOf key true)) :=
      hfollows.subset (List.map_subset _ (List.reverse_perm us).subset)
    obtain ⟨items, hsort, hstable⟩ := exists_stableSort hback
    obtain ⟨out, rfl, hout⟩ := hstable.exists_map (itemOf_injective key true)
    refine ⟨out.reverse, ?_, hout.reverse.congr fun r _ s _ => ?_⟩
    · rw [List.map_reverse] at hsort
      simp [sortBy, hitems, hsort, itemOf, Function.comp_def]
    · simp [itemPlace, itemOf, placeOf, Prod.Lex.toLex_le_toLex]
      cases isMissing (key.valueAt r) <;> cases isMissing (key.valueAt s) <;> simp

/-! ### Missing values are not compared -/

/-- Whether two values are the same thing, or equal by `same`. -/
def sameUsing (same : Value → Value → Outcome Bool) (a b : Key.Keyed) : Outcome Bool :=
  if a.identity.isSome && a.identity == b.identity then .ok true else same a.value b.value

/-- Whether an item comes strictly before another, if values are compared by `same` and `less`. -/
def SortItem.beforeUsing (same less : Value → Value → Outcome Bool) (a b : SortItem) :
    Outcome Bool :=
  if a.behind = b.behind then do
    if ← sameUsing same a.keyed b.keyed then return false else less a.keyed.value b.keyed.value
  else .ok (!a.behind)

/-- The sort by a key, if values are compared by `same` and `less`. -/
def sortUsing (same less : Value → Value → Outcome Bool) (key : Key) (reverse : Bool)
    (rs : List Record) : Outcome (List Record) := do
  let items ← rs.mapM (sortItem key reverse)
  let items := if reverse then items.reverse else items
  let items ← Sorting.sort (SortItem.beforeUsing same less) items
  let items := if reverse then items.reverse else items
  return items.map (·.record)

private theorem behind_of_mem_mapM {items : List SortItem} {i : SortItem}
    (h : rs.mapM (sortItem key reverse) = .ok items) (hi : i ∈ items) :
    i.behind = (isMissing i.keyed.value != reverse) := by
  obtain ⟨r, -, hr⟩ := exists_of_mem_mapM h hi
  obtain ⟨keyed, -, hr⟩ := bind_eq_ok_iff.1 hr
  cases hr
  rfl

/-- A sort asks for equality and order of values that are there only, apart from two missing values
being the same. -/
theorem sortUsing_eq {same less : Value → Value → Outcome Bool}
    (h : ∀ v w, v ≠ .null → w ≠ .null → same v w = Value.same v w ∧ less v w = Value.test .lt v w)
    (hnull : same .null .null = .ok true) (key : Key) (reverse : Bool) (rs : List Record) :
    sortUsing same less key reverse rs = sortBy key reverse rs := by
  rw [sortUsing, sortBy]
  cases hitems : rs.mapM (sortItem key reverse) with
  | error e => rfl
  | ok items =>
    have hagree : Agree (SortItem.beforeUsing same less) SortItem.before items := by
      intro i hi j hj
      rw [SortItem.beforeUsing, SortItem.before, sameUsing, Key.Keyed.same]
      split
      · next hbehind =>
        rw [behind_of_mem_mapM hitems hi, behind_of_mem_mapM hitems hj] at hbehind
        have hmissing : isMissing i.keyed.value = isMissing j.keyed.value :=
          Bool.xor_left_inj.1 hbehind
        by_cases hv : i.keyed.value = .null
        · have hw : j.keyed.value = .null := (eq_null_iff hmissing).1 hv
          rw [hv, hw, hnull, Value.same_null]
          split <;> rfl
        · have hw : j.keyed.value ≠ .null := mt (eq_null_iff hmissing).2 hv
          obtain ⟨hsame, hless⟩ := h _ _ hv hw
          rw [hsame, hless]
      · rfl
    simp only [ok_bind]
    rw [sort_congr (hagree.subset (ite_reverse_subset reverse items))]

/-! ### Sorting by one key and by two -/

/-- Records in the order of a key, those whose values are tied in the order in which they were. -/
structure IsSorted (key : Key) (reverse : Bool) (rs out : List Record) : Prop where
  perm : out.Perm rs
  ordered : out.Pairwise fun r s => InOrder reverse (key.valueAt r) (key.valueAt s)
  stable : ∀ part : List Record, part.Sublist rs →
    (part.Pairwise fun r s => Tied (key.valueAt r) (key.valueAt s)) → part.Sublist out
  keeps_equal : ∀ r s, [r, s].Sublist rs →
    Value.same (key.valueAt r) (key.valueAt s) = .ok true →
    Value.same (key.valueAt s) (key.valueAt r) = .ok true → [r, s].Sublist out

private theorem IsSorted.of_isStableSort (h : key.Orders rs)
    (hrank : Value.IsRank rank (key.present rs)) (hus : us ⊆ rs) {out : List Record}
    (hstable : IsStableSort (fun r => placeOf rank reverse (key.valueAt r)) us out) :
    IsSorted key reverse us out := by
  have hkept : ∀ part : List Record, part.Sublist us →
      (part.Pairwise fun r s => Tied (key.valueAt r) (key.valueAt s)) → part.Sublist out := by
    intro part hpart htied
    have hplaces : part.Pairwise fun r s =>
        placeOf rank reverse (key.valueAt r) = placeOf rank reverse (key.valueAt s) :=
      htied.imp_of_mem fun hr hs ht =>
        (tied_iff hrank (hus (hpart.subset hr)) (hus (hpart.subset hs))).1 ht
    exact hstable.sublist hpart hplaces
  refine ⟨hstable.perm, ?_, hkept, fun r s hpair hsame hback => ?_⟩
  · exact hstable.ordered.imp_of_mem fun hr hs hle =>
      (placeOf_le_iff hrank (hus (hstable.mem_iff.1 hr)) (hus (hstable.mem_iff.1 hs))).1 hle
  · have hr : r ∈ rs := hus (hpair.subset List.mem_cons_self)
    have hs : s ∈ rs := hus (hpair.subset (List.mem_cons_of_mem r List.mem_cons_self))
    exact hkept [r, s] hpair (List.pairwise_pair.2 (tied_of_same h hr hs hsame hback))

/-- Sorting by a key gives a permutation of the records in which missing values come last, those
that are there ascend or descend, and tied ones keep their order. What a missing value compares as
does not matter. Sorting by a second key before orders the records that are tied by the first
one. -/
theorem sort_by_key {argument : KeyArgument} (hcoherent : Record.Coherent rs)
    (hargument : Key.ofArgument argument = .ok key) (h : key.Orders rs) (reverse : Bool) :
    (∃ out, sort rs argument reverse = .ok out ∧ IsSorted key reverse rs out) ∧
    (∀ same less : Value → Value → Outcome Bool,
      (∀ v w, v ≠ .null → w ≠ .null → same v w = Value.same v w ∧ less v w = Value.test .lt v w) →
      same .null .null = .ok true →
      sortUsing same less key reverse rs = sort rs argument reverse) ∧
    ∀ (argument' : KeyArgument) (key' : Key) (reverse' : Bool),
      Key.ofArgument argument' = .ok key' → key'.Orders rs →
      ∃ mid out, sort rs argument' reverse' = .ok mid ∧ sort mid argument reverse = .ok out ∧
        out.Perm rs ∧ out.Pairwise fun r s =>
          InOrder reverse (key.valueAt r) (key.valueAt s) ∧
          (Tied (key.valueAt r) (key.valueAt s) →
            InOrder reverse' (key'.valueAt r) (key'.valueAt s)) := by
  obtain ⟨rank, hrank⟩ := h.preordered.exists_rank
  have hsort (us : List Record) : sort us argument reverse = sortBy key reverse us := by
    rw [sort, hargument, ok_bind]
  refine ⟨?_, fun same less hagree hnull => ?_, fun argument' key' reverse' hargument' h' => ?_⟩
  · obtain ⟨out, hout, hstable⟩ :=
      exists_sortBy_place h hcoherent hrank (List.Subset.refl rs) reverse
    exact ⟨out, by rw [hsort, hout], .of_isStableSort h hrank (List.Subset.refl rs) hstable⟩
  · rw [hsort, sortUsing_eq hagree hnull]
  · obtain ⟨rank', hrank'⟩ := h'.preordered.exists_rank
    obtain ⟨mid, hmid, hstableMid⟩ :=
      exists_sortBy_place h' hcoherent hrank' (List.Subset.refl rs) reverse'
    have hmidSubset : mid ⊆ rs := hstableMid.perm.subset
    obtain ⟨out, hout, hstable⟩ := exists_sortBy_place h hcoherent hrank hmidSubset reverse
    have hmem : ∀ r ∈ out, r ∈ rs := fun r hr => hmidSubset (hstable.perm.subset hr)
    have hfirst := IsSorted.of_isStableSort h hrank hmidSubset hstable
    have hsecond := IsSorted.of_isStableSort h' hrank' (List.Subset.refl rs) hstableMid
    refine ⟨mid, out, by rw [sort, hargument', ok_bind, hmid], by rw [hsort, hout],
      hstable.perm.trans hstableMid.perm, hfirst.ordered.and ?_⟩
    refine (hstable.pairwise_of_rank_eq hsecond.ordered).imp_of_mem fun hr hs himp htied => ?_
    exact himp ((tied_iff hrank (hmem _ hr) (hmem _ hs)).1 htied)

/-- Five amounts, three of them with a name. -/
def namedLedger : Ledger where
  transactions :=
    [sampleOf (.finite false 10 0) "Rent", sampleOf (.finite false 5 0) .null,
      sampleOf (.finite false 20 0) "Food", sampleOf (.finite false 50 (-1)) "Rent",
      sampleOf (.finite false 7 0) .null]

private theorem orders_namedLedger :
    (Key.ofField .name).Orders (namedLedger.records [0, 1, 2, 3, 4]) ∧
    (Key.ofField .amount).Orders (namedLedger.records [0, 1, 2, 3, 4]) := by
  have hmem : ∀ r ∈ namedLedger.records [0, 1, 2, 3, 4],
      r.transaction ∈ namedLedger.transactions := fun r hr =>
    List.mem_of_getElem? (Ledger.get?_of_mem_records hr)
  have hnames : ∀ t ∈ namedLedger.transactions, t.name = .null ∨ ∃ s, t.name = .text s := by
    simp [namedLedger, sampleOf]
  have hamounts : ∀ t ∈ namedLedger.transactions, ∃ q, t.amount.quantity? = some q := by
    simp [namedLedger, sampleOf, Value.quantity?, Decimal.quantity?]
  constructor
  · refine .ofField (Value.isPreordered_texts fun v hv => ?_)
    obtain ⟨hv, hpresent⟩ := List.mem_filter.1 hv
    obtain ⟨r, hr, rfl⟩ := List.mem_map.1 hv
    refine (hnames _ (hmem r hr)).resolve_left fun hnull => ?_
    have hmissing : isMissing ((Key.ofField .name).valueAt r) = true := isMissing_iff.2 hnull
    simp [hmissing] at hpresent
  · refine .ofField (Value.isPreordered_numbers fun v hv => ?_)
    obtain ⟨r, hr, rfl⟩ := List.mem_map.1 (List.mem_filter.1 hv).1
    exact hamounts _ (hmem r hr)

/-- Descending names, the records without one at the end; by amount before, those of one name in the
order of the amounts. -/
theorem sort_by_key_sample :
    let rs := namedLedger.records [0, 1, 2, 3, 4]
    Record.Coherent rs ∧ (Key.ofField .name).Orders rs ∧ (Key.ofField .amount).Orders rs ∧
    (∃ out, sort rs (.value (.text "name")) true = .ok out ∧ out.map (·.id) = [0, 3, 2, 1, 4] ∧
      IsSorted (.ofField .name) true rs out) ∧
    ∃ mid out, sort rs (.value (.text "amount")) false = .ok mid ∧
      sort mid (.value (.text "name")) true = .ok out ∧ mid.map (·.id) = [1, 3, 4, 0, 2] ∧
      out.map (·.id) = [3, 0, 2, 1, 4] := by
  intro rs
  have hcoherent : Record.Coherent rs := Ledger.coherent_records namedLedger [0, 1, 2, 3, 4]
  obtain ⟨hname, hamount⟩ := orders_namedLedger
  have hargument : Key.ofArgument (.value (.text "name")) = .ok (.ofField .name) := rfl
  obtain ⟨⟨out, hout, hsorted⟩, -, hboth⟩ := sort_by_key hcoherent hargument hname true
  obtain ⟨mid, out', hmid, hout', -, -⟩ :=
    hboth (.value (.text "amount")) (.ofField .amount) false rfl hamount
  have hids : (sort rs (.value (.text "name")) true).toOption.map (fun rs => rs.map (·.id)) =
      some [0, 3, 2, 1, 4] := by decide +kernel
  have hmidIds : (sort rs (.value (.text "amount")) false).toOption.map
      (fun rs => rs.map (·.id)) = some [1, 3, 4, 0, 2] := by decide +kernel
  have hids' : (sort rs (.value (.text "amount")) false >>= fun mid =>
      sort mid (.value (.text "name")) true).toOption.map (fun rs => rs.map (·.id)) =
      some [3, 0, 2, 1, 4] := by decide +kernel
  rw [hout] at hids
  rw [hmid] at hmidIds
  rw [hmid, ok_bind, hout'] at hids'
  exact ⟨hcoherent, hname, hamount, ⟨out, hout, Option.some.inj hids, hsorted⟩, mid, out', hmid,
    hout', Option.some.inj hmidIds, Option.some.inj hids'⟩

end Query

end LedgerTags

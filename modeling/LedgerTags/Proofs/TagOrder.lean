import LedgerTags.Proofs.KeyEquality
import LedgerTags.Proofs.RecordOrder
import LedgerTags.Proofs.TagSets

/-!
# Records in the order of their tags

Tag sets are compared by inclusion. This is no total preorder: of two sets none of which includes
the other one, a third set may include the one and not the other.

A sort by tags goes well all the same, with the records in another order, and of two neighbours in
it the later one never belongs before the earlier one (`exists_sort_tags`). For records further
apart that is so, whichever records of a collection are sorted, exactly if not being properly
included carries over from one record to another (`Levelled`, `sort_by_tags`), as it does among
nested tag sets (`levelled_of_nested`). Where it does not, there are three records without a pair of
neighbours to put right, which are returned as they are although the last one belongs before the
first one (`tags_out_of_order`).
-/

namespace LedgerTags

open Sorting

namespace TagSet

variable {s t : TagSet}

instance : HasSubset TagSet := ⟨fun s t => ∀ x ∈ s, x ∈ t⟩

instance : HasSSubset TagSet := ⟨fun s t => s ⊆ t ∧ ¬t ⊆ s⟩

instance (s t : TagSet) : Decidable (s ⊆ t) :=
  inferInstanceAs (Decidable (∀ x ∈ s.toList, x ∈ t))

instance (s t : TagSet) : Decidable (s ⊂ t) := inferInstanceAs (Decidable (s ⊆ t ∧ ¬t ⊆ s))

private theorem not_ssubset_of_ssubset (h : s ⊂ t) : ¬t ⊂ s := fun hback => h.2 hback.1

/-- A part is a proper one if it has fewer members. -/
theorem ssubset_iff : s ⊂ t ↔ s.toList.length < t.toList.length ∧ s ⊆ t := by
  constructor
  · rintro ⟨hsubset, hback⟩
    have hpart : s.toList.Subperm t.toList := List.subperm_of_subset s.nodup_toList hsubset
    refine ⟨lt_of_not_ge fun hlength => hback ?_, hsubset⟩
    exact (hpart.perm_of_length_le hlength).symm.subset
  · rintro ⟨hlength, hsubset⟩
    refine ⟨hsubset, fun hback => ?_⟩
    have hpart : t.toList.Subperm s.toList := List.subperm_of_subset t.nodup_toList hback
    exact absurd hpart.length_le (not_le.2 hlength)

end TagSet

namespace Value

private theorem included_texts {ss ts : List Text} :
    included (ss.map .text) (ts.map .text) = true ↔ ss ⊆ ts := by
  simp [included, sameKey_text, List.subset_def]

/-- Values of tag sets are compared by proper inclusion. -/
theorem test_lt_tags (s t : TagSet) :
    test .lt (Transaction.tagsValue s) (Transaction.tagsValue t) = .ok (decide (s ⊂ t)) := by
  rw [Transaction.tagsValue, Transaction.tagsValue, test, testSets, Except.ok.injEq,
    Bool.eq_iff_iff, Bool.and_eq_true, included_texts, decide_eq_true_iff, decide_eq_true_iff,
    List.length_map, List.length_map, TagSet.ssubset_iff]
  rfl

/-- Tag sets can be asked for equality. -/
theorem exists_same_tags (s t : TagSet) :
    ∃ b, same (Transaction.tagsValue s) (Transaction.tagsValue t) = .ok b := by
  have htexts : ∀ v ∈ s.toList.map text, ∀ w ∈ t.toList.map text, ∃ b, same v w = .ok b := by
    intro v hv w hw
    obtain ⟨x, -, rfl⟩ := List.mem_map.1 hv
    obtain ⟨y, -, rfl⟩ := List.mem_map.1 hw
    exact ⟨_, by rw [same]⟩
  rw [Transaction.tagsValue, Transaction.tagsValue, same]
  split
  · exact exists_allAmong htexts
  · exact ⟨false, rfl⟩

end Value

namespace Query

variable {rs us : List Record} {r s : Record} {reverse : Bool}

/-- The tags of the first record are properly included in those of the second one. -/
def fewerTags (r s : Record) : Bool := decide (r.transaction.tags ⊂ s.transaction.tags)

/-- The later one of two records does not belong before the earlier one by their tags: its tags are
not properly included in those of the earlier one, or the other way round in a descending sort. -/
def TagsInOrder (reverse : Bool) (r s : Record) : Prop :=
  if reverse then ¬r.transaction.tags ⊂ s.transaction.tags
  else ¬s.transaction.tags ⊂ r.transaction.tags

instance (reverse : Bool) (r s : Record) : Decidable (TagsInOrder reverse r s) :=
  inferInstanceAs (Decidable (if reverse then _ else _))

/-- Not being properly included carries over: tags that are not properly included in those of a
second record, which are not in those of a third one, are not in those of the third one either. -/
def Levelled (rs : List Record) : Prop :=
  ∀ r ∈ rs, ∀ s ∈ rs, ∀ t ∈ rs, ¬r.transaction.tags ⊂ s.transaction.tags →
    ¬s.transaction.tags ⊂ t.transaction.tags → ¬r.transaction.tags ⊂ t.transaction.tags

/-- Nested tag sets are levelled. -/
theorem levelled_of_nested (h : ∀ r ∈ rs, ∀ s ∈ rs, r.transaction.tags ⊆ s.transaction.tags ∨
    s.transaction.tags ⊆ r.transaction.tags) : Levelled rs := by
  intro r hr s hs t ht hrs hst hrt
  have hsr : s.transaction.tags ⊆ r.transaction.tags :=
    (h r hr s hs).elim (fun hsubset => of_not_not fun hnot => hrs ⟨hsubset, hnot⟩) id
  have hts : t.transaction.tags ⊆ s.transaction.tags :=
    (h s hs t ht).elim (fun hsubset => of_not_not fun hnot => hst ⟨hsubset, hnot⟩) id
  exact hrt.2 fun x hx => hsr x (hts x hx)

/-- Items of records are compared by their tags. -/
theorem before_tags (hcoherent : Record.Coherent rs) (reverse : Bool) (hr : r ∈ rs) (hs : s ∈ rs) :
    SortItem.before (itemOf (.ofField .tags) reverse r) (itemOf (.ofField .tags) reverse s) =
      .ok (fewerTags r s) := by
  have htest : Value.test .lt ((Key.ofField .tags).valueAt r) ((Key.ofField .tags).valueAt s) =
      .ok (fewerTags r s) := Value.test_lt_tags r.transaction.tags s.transaction.tags
  have hbehind : (itemOf (.ofField .tags) reverse r).behind =
      (itemOf (.ofField .tags) reverse s).behind := rfl
  rw [SortItem.before, if_pos hbehind, Key.Keyed.same]
  split
  -- Values of one record are the same.
  · next hsame =>
    have hid : r.id = s.id := by simpa [itemOf, Key.identityAt, Key.ofField] using hsame
    have hnone : fewerTags r s = false := by
      rw [fewerTags, hcoherent r hr s hs hid]
      exact decide_eq_false fun h => h.2 h.1
    rw [hnone]
    rfl
  · obtain ⟨b, hb⟩ := Value.exists_same_tags r.transaction.tags s.transaction.tags
    have hsame : Value.same ((Key.ofField .tags).valueAt r) ((Key.ofField .tags).valueAt s) =
        .ok b := hb
    simp only [itemOf, hsame, ok_bind]
    cases b with
    | true =>
      rw [Value.test_lt_of_same hsame htest]
      rfl
    | false => exact htest

/-- A sort by tags is a sort of the records by inclusion of their tags. -/
theorem sort_tags_eq (hcoherent : Record.Coherent rs) (reverse : Bool) :
    sort rs (.value (.text "tags")) reverse = do
      let out ← Sorting.sort (fun r s => .ok (fewerTags r s)) (if reverse then rs.reverse else rs)
      return if reverse then out.reverse else out := by
  let item : Record → SortItem := itemOf (.ofField .tags) reverse
  have hitems : rs.mapM (sortItem (.ofField .tags) reverse) = .ok (rs.map item) :=
    mapM_sortItem (fun r _ => ⟨_, rfl⟩) reverse
  have hmirror : Mirrors item id SortItem.before fun r s => SortItem.before (item r) (item s) :=
    fun r s => (carry_id _).symm
  have hagree : Agree (fun r s => SortItem.before (item r) (item s))
      (fun r s => .ok (fewerTags r s)) rs := fun r hr s hs => before_tags hcoherent reverse hr hs
  have hturned : (if reverse then (rs.map item).reverse else rs.map item) =
      (if reverse then rs.reverse else rs).map item := by cases reverse <;> simp
  have hsorted := sort_congr (hagree.subset (ite_reverse_subset reverse rs))
  have hsort : sort rs (.value (.text "tags")) reverse = sortBy (.ofField .tags) reverse rs := rfl
  rw [hsort, sortBy, hitems, ok_bind]
  dsimp only
  rw [hturned, sort_map hmirror, hsorted]
  cases Sorting.sort (fun r s => .ok (fewerTags r s)) (if reverse then rs.reverse else rs) with
  | error e => rfl
  | ok out => cases reverse <;> simp [carry, item, itemOf, Function.comp_def]

private theorem asymmetric_fewerTags (rs : List Record) :
    Asymmetric (fun r s => (.ok (fewerTags r s) : Outcome Bool)) rs := by
  intro r _ s _ h
  have hfewer : r.transaction.tags ⊂ s.transaction.tags := of_decide_eq_true (Except.ok.inj h)
  exact congrArg Except.ok (decide_eq_false (TagSet.not_ssubset_of_ssubset hfewer))

/-- Neighbours are in order after a sort by tags. -/
theorem exists_sort_tags (hcoherent : Record.Coherent rs) (reverse : Bool) :
    ∃ out, sort rs (.value (.text "tags")) reverse = .ok out ∧ out.Perm rs ∧
      out.IsChain (TagsInOrder reverse) := by
  have hcomparable : Comparable (fun r s => (.ok (fewerTags r s) : Outcome Bool))
      (if reverse then rs.reverse else rs) := fun r _ s _ => ⟨_, rfl⟩
  obtain ⟨out, hout, hperm⟩ := exists_sort hcomparable
  have hascends : out.IsChain fun r s => (.ok (fewerTags s r) : Outcome Bool) = .ok false :=
    (sort_arranges hout).ascends (asymmetric_fewerTags _)
  have horder : out.IsChain fun r s => ¬s.transaction.tags ⊂ r.transaction.tags :=
    hascends.imp fun r s h => of_decide_eq_false (Except.ok.inj h)
  refine ⟨if reverse then out.reverse else out, ?_, ?_, ?_⟩
  · rw [sort_tags_eq hcoherent, hout]
    rfl
  · cases reverse with
    | false => exact hperm
    | true => exact (List.reverse_perm out).trans (hperm.trans (List.reverse_perm rs))
  · cases reverse with
    | false => exact horder
    | true => exact List.isChain_reverse.2 horder

/-- What holds of neighbours and carries over from one member to the next holds of all members in
their order. -/
theorem pairwise_of_isChain {α : Type} {R : α → α → Prop} {xs : List α} (h : xs.IsChain R)
    (htrans : ∀ x ∈ xs, ∀ y ∈ xs, ∀ z ∈ xs, R x y → R y z → R x z) : xs.Pairwise R := by
  have hmem : xs.IsChain fun x y => x ∈ xs ∧ y ∈ xs ∧ R x y := List.IsChain.iff_mem.1 h
  have hcarries : IsTrans α fun x y => x ∈ xs ∧ y ∈ xs ∧ R x y :=
    ⟨fun x y z hxy hyz => ⟨hxy.1, hyz.2.1, htrans x hxy.1 y hxy.2.1 z hyz.2.1 hxy.2.2 hyz.2.2⟩⟩
  exact (List.isChain_iff_pairwise.1 hmem).imp fun h => h.2.2

private theorem Levelled.trans (h : Levelled rs) {reverse : Bool} {r s t : Record} (hr : r ∈ rs)
    (hs : s ∈ rs) (ht : t ∈ rs) (hrs : TagsInOrder reverse r s) (hst : TagsInOrder reverse s t) :
    TagsInOrder reverse r t := by
  cases reverse with
  | false => exact h t ht s hs r hr hst hrs
  | true => exact h r hr s hs t ht hrs hst

/-- A list whose neighbours are in order is returned as it is. -/
theorem sort_tags_of_isChain (hcoherent : Record.Coherent rs)
    (h : rs.IsChain (TagsInOrder reverse)) : sort rs (.value (.text "tags")) reverse = .ok rs := by
  have hascends : Ascends (fun r s => (.ok (fewerTags r s) : Outcome Bool))
      (if reverse then rs.reverse else rs) := by
    cases reverse with
    | false => exact h.imp fun r s hrs => congrArg Except.ok (decide_eq_false hrs)
    | true =>
      exact List.isChain_reverse.2 (h.imp fun r s hrs => congrArg Except.ok (decide_eq_false hrs))
  rw [sort_tags_eq hcoherent, sort_of_ascends hascends]
  cases reverse <;> simp

/-- If every part of a collection is put in order, then the collection is levelled, since three
records of which the neighbours are in order are returned as they are. -/
theorem levelled_of_pairwise (hcoherent : Record.Coherent rs)
    (h : ∀ us ⊆ rs, ∃ out, sort us (.value (.text "tags")) reverse = .ok out ∧
      out.Pairwise (TagsInOrder reverse)) : Levelled rs := by
  have hthree : ∀ r ∈ rs, ∀ s ∈ rs, ∀ t ∈ rs, TagsInOrder reverse r s → TagsInOrder reverse s t →
      TagsInOrder reverse r t := by
    intro r hr s hs t ht hrs hst
    have hsubset : [r, s, t] ⊆ rs := by simp [hr, hs, ht]
    have hchain : [r, s, t].IsChain (TagsInOrder reverse) := by simp [hrs, hst]
    obtain ⟨out, hout, hordered⟩ := h [r, s, t] hsubset
    rw [sort_tags_of_isChain (hcoherent.subset hsubset) hchain] at hout
    cases hout
    exact (List.pairwise_cons.1 hordered).1 t (by simp)
  intro r hr s hs t ht hrs hst
  cases reverse with
  | false => exact hthree t ht s hs r hr hst hrs
  | true => exact hthree r hr s hs t ht hrs hst

/-- A sort by tags goes well, with the records in another order in which neighbours are in order,
and all records are in order, whichever list of records of the collection is sorted, exactly if the
collection is levelled. -/
theorem sort_by_tags (l : Ledger) (ids : List ℕ) (reverse : Bool) :
    (∃ out, sort (l.records ids) (.value (.text "tags")) reverse = .ok out ∧
      out.Perm (l.records ids) ∧ out.IsChain (TagsInOrder reverse)) ∧
    ((∀ us ⊆ l.records ids, ∃ out, sort us (.value (.text "tags")) reverse = .ok out ∧
      out.Perm us ∧ out.Pairwise (TagsInOrder reverse)) ↔ Levelled (l.records ids)) := by
  have hcoherent : Record.Coherent (l.records ids) := Ledger.coherent_records l ids
  refine ⟨exists_sort_tags hcoherent reverse, fun h => ?_, fun hlevelled us hus => ?_⟩
  · have hparts : ∀ us ⊆ l.records ids, ∃ out, sort us (.value (.text "tags")) reverse = .ok out ∧
        out.Pairwise (TagsInOrder reverse) := fun us hus =>
      (h us hus).imp fun out hout => ⟨hout.1, hout.2.2⟩
    exact levelled_of_pairwise hcoherent hparts
  · obtain ⟨out, hout, hperm, hchain⟩ := exists_sort_tags (hcoherent.subset hus) reverse
    refine ⟨out, hout, hperm, pairwise_of_isChain hchain fun r hr s hs t ht => ?_⟩
    have hmem {r : Record} (hr : r ∈ out) : r ∈ l.records ids := hus (hperm.subset hr)
    exact hlevelled.trans (hmem hr) (hmem hs) (hmem ht)

/-- Three records of which the first one has the tag of the last one as well. -/
def taggedLedger : Ledger where
  transactions :=
    [{ bank := "b", account := .null, postDate := .null, tags := .ofList ["a", "b"] },
      { bank := "b", account := .null, postDate := .null, tags := .ofList ["c"] },
      { bank := "b", account := .null, postDate := .null, tags := .ofList ["a"] }]

/-- The first one stays first, since neither it nor the last one is compared with anything but the
record between them, whose tags are not included in theirs nor theirs in these; and the other way
round in a descending sort. -/
theorem tags_out_of_order :
    (sort (taggedLedger.records [0, 1, 2]) (.value (.text "tags")) false =
        .ok (taggedLedger.records [0, 1, 2]) ∧
      ¬(taggedLedger.records [0, 1, 2]).Pairwise (TagsInOrder false)) ∧
    sort (taggedLedger.records [2, 1, 0]) (.value (.text "tags")) true =
        .ok (taggedLedger.records [2, 1, 0]) ∧
      ¬(taggedLedger.records [2, 1, 0]).Pairwise (TagsInOrder true) := by
  refine ⟨⟨sort_tags_of_isChain (Ledger.coherent_records _ _) ?_, ?_⟩,
    sort_tags_of_isChain (Ledger.coherent_records _ _) ?_, ?_⟩
  all_goals decide

end Query

end LedgerTags

import LedgerTags.Proofs.Merging
import Mathlib.Data.List.Sort
import Mathlib.Tactic.SplitIfs

/-!
# The laws of merging

`IsMerge rs out` says what the merge of the records `rs` is: their keys in the order in which they
occur first, and for each key the first among the best of its duplicates. There is only one such
list (`IsMerge.unique`).

A part of the records can be replaced by its merge without changing the merge of all of them
(`IsMerge.replace`): the first record of each key stands where it stood among the others, and
whoever is best in the part is best in its merge. Records that have occurred already can be added
at the end (`IsMerge.append`). So merging is associative, and a merge absorbs what has gone into
it (`merge_laws`).
-/

namespace LedgerTags

namespace Query

variable {rs us xs ys m out out' : List Record} {r s : Record}

/-! ### The best of two parts -/

/-- Of two records with one key only one is the best. -/
theorem IsBest.unique (hr : IsBest rs r) (hs : IsBest rs s) (hkey : r.key = s.key) : r = s := by
  obtain ⟨before, after, rfl, hbefore, hafter⟩ := hr
  obtain ⟨before', after', hsplit, hbefore', hafter'⟩ := hs
  -- If one stood before the other, it would be worse, and it would not be worse.
  rcases List.append_eq_append_iff.1 hsplit with ⟨mid, rfl, hmid⟩ | ⟨mid, rfl, hmid⟩
  · rcases List.cons_eq_append_iff.1 hmid with ⟨rfl, hmid⟩ | ⟨mid', rfl, rfl⟩
    · exact (List.cons.inj hmid).1
    · have hle := hafter s (by simp) hkey.symm
      have hlt := hbefore' r (by simp) hkey
      omega
  · rcases List.cons_eq_append_iff.1 hmid with ⟨rfl, hmid⟩ | ⟨mid', rfl, rfl⟩
    · exact (List.cons.inj hmid).1.symm
    · have hle := hafter' r (by simp) hkey
      have hlt := hbefore s (by simp) hkey.symm
      omega

/-- The best record of two parts is the best one of the first part and not worse than those of the
second, or the best one of the second part and better than those of the first. -/
theorem isBest_append_iff : IsBest (xs ++ ys) r ↔
    (IsBest xs r ∧ ∀ s ∈ ys, s.key = r.key →
      s.transaction.populated ≤ r.transaction.populated) ∨
    (IsBest ys r ∧ ∀ s ∈ xs, s.key = r.key →
      s.transaction.populated < r.transaction.populated) := by
  constructor
  · rintro ⟨before, after, hsplit, hbefore, hafter⟩
    rcases List.append_eq_append_iff.1 hsplit with ⟨mid, rfl, hmid⟩ | ⟨mid, rfl, hmid⟩
    · obtain ⟨hxs, hmid'⟩ := List.forall_mem_append.1 hbefore
      exact .inr ⟨⟨mid, after, hmid, hmid', hafter⟩, hxs⟩
    · rcases List.cons_eq_append_iff.1 hmid with ⟨rfl, rfl⟩ | ⟨mid', rfl, rfl⟩
      · rw [List.append_nil]
        exact .inr ⟨⟨[], after, rfl, List.forall_mem_nil _, hafter⟩, hbefore⟩
      · obtain ⟨hmid', hys⟩ := List.forall_mem_append.1 hafter
        exact .inl ⟨⟨before, mid', rfl, hbefore, hmid'⟩, hys⟩
  · rintro (⟨⟨before, after, rfl, hbefore, hafter⟩, hys⟩ |
      ⟨⟨before, after, rfl, hbefore, hafter⟩, hxs⟩)
    · exact ⟨before, after ++ ys, by simp, hbefore, List.forall_mem_append.2 ⟨hafter, hys⟩⟩
    · exact ⟨xs ++ before, after, by simp, List.forall_mem_append.2 ⟨hxs, hbefore⟩, hafter⟩

/-- A part of a list can be replaced by a list with the same members in the order in which they
occur first; what occurs first in the whole list still does. -/
theorem idxOf_lt_of_replace {κ : Type} [BEq κ] [LawfulBEq κ] {before part part' after : List κ}
    {k l : κ}
    (hmem : ∀ k, k ∈ part' ↔ k ∈ part)
    (hpart : ∀ k, ∀ l ∈ part, part'.idxOf k < part'.idxOf l → part.idxOf k < part.idxOf l)
    (h : (before ++ part' ++ after).idxOf k < (before ++ part' ++ after).idxOf l) :
    (before ++ part ++ after).idxOf k < (before ++ part ++ after).idxOf l := by
  have hlength {xs : List κ} {k : κ} (hk : k ∈ xs) : xs.idxOf k < xs.length :=
    List.idxOf_lt_length_of_mem hk
  simp only [List.idxOf_append, List.mem_append, hmem, List.length_append] at h ⊢
  split_ifs at h ⊢ <;> grind only

/-! ### What a merge is -/

/-- The keys of some records in the order in which they occur first, and for each of them the first
among the best of its duplicates. -/
structure IsMerge (rs out : List Record) : Prop where
  mem_keys : ∀ k, k ∈ out.map Record.key ↔ k ∈ rs.map Record.key
  ordered : out.Pairwise fun r s =>
    (rs.map Record.key).idxOf r.key < (rs.map Record.key).idxOf s.key
  best : ∀ r ∈ out, IsBest rs r

namespace IsMerge

private theorem subset (h : IsMerge rs out) : out ⊆ rs := fun r hr => (h.best r hr).mem

/-- Each record has a survivor that is not worse. -/
theorem exists_survivor (h : IsMerge rs out) (hr : r ∈ rs) :
    ∃ s ∈ out, s.key = r.key ∧ r.transaction.populated ≤ s.transaction.populated := by
  obtain ⟨s, hs, hkey⟩ := List.mem_map.1 ((h.mem_keys r.key).2 (List.mem_map_of_mem hr))
  exact ⟨s, hs, hkey, (h.best s hs).populated_le hr hkey.symm⟩

/-- What is better than the survivors is better than the records. -/
theorem forall_lt (h : IsMerge rs out) {k : List (Option Scalar)} {n : ℕ}
    (hout : ∀ s ∈ out, s.key = k → s.transaction.populated < n) :
    ∀ s ∈ rs, s.key = k → s.transaction.populated < n := by
  intro s hs hkey
  obtain ⟨u, hu, hukey, hle⟩ := h.exists_survivor hs
  exact hle.trans_lt (hout u hu (hukey.trans hkey))

/-- Records have one merge. -/
theorem unique (h : IsMerge rs out) (h' : IsMerge rs out') : out = out' := by
  have hmem {out out' : List Record} {r : Record} (h : IsMerge rs out) (h' : IsMerge rs out')
      (hr : r ∈ out) : r ∈ out' := by
    obtain ⟨s, hs, hkey, -⟩ := h'.exists_survivor (h.subset hr)
    rwa [(h.best r hr).unique (h'.best s hs) hkey.symm]
  have hirrefl : Std.Irrefl fun r s : Record =>
      (rs.map Record.key).idxOf r.key < (rs.map Record.key).idxOf s.key := ⟨fun r => lt_irrefl _⟩
  have hantisymm : Std.Antisymm fun r s : Record =>
      (rs.map Record.key).idxOf r.key < (rs.map Record.key).idxOf s.key :=
    ⟨fun r s hlt hgt => (lt_asymm hlt hgt).elim⟩
  exact List.Pairwise.eq_of_mem_iff h.ordered h'.ordered fun r => ⟨hmem h h', hmem h' h⟩

/-- What comes first in the merge comes first in the records. -/
theorem idxOf_lt (h : IsMerge rs out) {k l : List (Option Scalar)} (hl : l ∈ rs.map Record.key)
    (hlt : (out.map Record.key).idxOf k < (out.map Record.key).idxOf l) :
    (rs.map Record.key).idxOf k < (rs.map Record.key).idxOf l := by
  have hordered : (out.map Record.key).Pairwise fun k l =>
      (rs.map Record.key).idxOf k < (rs.map Record.key).idxOf l := List.pairwise_map.2 h.ordered
  have hl' := List.idxOf_lt_length_of_mem ((h.mem_keys l).2 hl)
  have hplaces := List.pairwise_iff_getElem.1 hordered _ _ (hlt.trans hl') hl' hlt
  rwa [List.getElem_idxOf, List.getElem_idxOf] at hplaces

/-- A part of the records can be replaced by its merge. -/
theorem replace (front back : List Record) (h : IsMerge xs m)
    (hout : IsMerge (front ++ m ++ back) out) : IsMerge (front ++ xs ++ back) out where
  mem_keys k := by
    have hkeys := h.mem_keys k
    simp only [hout.mem_keys, List.map_append, List.mem_append, hkeys]
  ordered := by
    refine hout.ordered.imp fun hlt => ?_
    rw [List.map_append, List.map_append] at hlt ⊢
    exact idxOf_lt_of_replace h.mem_keys (fun k l => h.idxOf_lt) hlt
  best r hr := by
    have hbest := hout.best r hr
    rw [List.append_assoc, isBest_append_iff] at hbest ⊢
    rcases hbest with ⟨hfront, hrest⟩ | ⟨hrest, hfront⟩
    · obtain ⟨hm, hback⟩ := List.forall_mem_append.1 hrest
      have hxs := h.forall_lt fun s hs hkey => Nat.lt_succ_of_le (hm s hs hkey)
      refine .inl ⟨hfront, List.forall_mem_append.2 ⟨fun s hs hkey => ?_, hback⟩⟩
      exact Nat.le_of_lt_succ (hxs s hs hkey)
    · refine .inr ⟨?_, hfront⟩
      rw [isBest_append_iff] at hrest ⊢
      rcases hrest with ⟨hm, hback⟩ | ⟨hback, hm⟩
      · exact .inl ⟨h.best r hm.mem, hback⟩
      · exact .inr ⟨hback, h.forall_lt hm⟩

/-- Records that have occurred can be added at the end. -/
theorem append (h : IsMerge rs out) (hsub : ys ⊆ rs) : IsMerge (rs ++ ys) out where
  mem_keys k := by
    rw [h.mem_keys, List.map_append, List.mem_append]
    exact ⟨.inl, fun hk => hk.elim id fun hk => List.map_subset _ hsub hk⟩
  ordered := by
    refine h.ordered.imp_of_mem fun hr hs hlt => ?_
    rwa [List.map_append, List.idxOf_append_of_mem (List.mem_map_of_mem (h.subset hr)),
      List.idxOf_append_of_mem (List.mem_map_of_mem (h.subset hs))]
  best r hr := by
    refine isBest_append_iff.2 (.inl ⟨h.best r hr, fun s hs hkey => ?_⟩)
    exact (h.best r hr).populated_le (hsub hs) hkey

/-- In whatever order the records stand, the survivors of a key have the same of name, notes and
tags. -/
theorem populated_eq (h : IsMerge rs out) (h' : IsMerge us out') (hsub : us ⊆ rs) (hsub' : rs ⊆ us)
    (hr : r ∈ out) (hs : s ∈ out') (hkey : r.key = s.key) :
    r.transaction.populated = s.transaction.populated := by
  refine le_antisymm ?_ ?_
  · exact (h'.best s hs).populated_le (hsub' (h.subset hr)) hkey
  · exact (h.best r hr).populated_le (hsub (h'.subset hs)) hkey.symm

end IsMerge

/-! ### The laws -/

section Laws

variable {a b c : List Record}

/-- A merge of records that are keyed and coherent is the merge of all of them. -/
theorem exists_merge_eq (hkeyed : ∀ r ∈ rs, r.transaction.IsKeyed) (hcoherent : Record.Coherent rs)
    (ha : a ⊆ rs) (hb : b ⊆ rs) : ∃ out, merge a b = .ok out ∧ IsMerge (a ++ b) out := by
  have hsub : a ++ b ⊆ rs := List.append_subset.2 ⟨ha, hb⟩
  obtain ⟨kept, hplace, hsurvive⟩ :
      ∃ kept, placeAll [] (a ++ b) = .ok kept ∧ Survive (a ++ b) kept :=
    survive_placeAll .nil (fun r hr => hkeyed r (hsub hr)) (hcoherent.subset hsub)
  have hkeys : (kept.map (·.record)).map Record.key = kept.map (·.record.key) := List.map_map
  have hordered : ((kept.map (·.record)).map Record.key).Pairwise fun k l =>
      ((a ++ b).map Record.key).idxOf k < ((a ++ b).map Record.key).idxOf l := by
    rw [hkeys]
    exact hsurvive.ordered
  refine ⟨kept.map (·.record), by rw [merge, hplace]; rfl, fun k => ?_, ?_, ?_⟩
  · rw [hkeys]
    refine ⟨hsurvive.mem_keys, fun hk => ?_⟩
    obtain ⟨r, hr, rfl⟩ := List.mem_map.1 hk
    exact List.mem_map.2 (hsurvive.complete r hr)
  · exact hordered.of_map Record.key fun _ _ hlt => hlt
  · exact List.forall_mem_map.2 hsurvive.best

/-- Merging is associative. A merge with itself, with nothing, or with what has gone into it changes
nothing. If the two collections change places, the keys stay the same, and so does how much of name,
notes and tags the survivor of each key has. -/
theorem merge_laws (hkeyed : ∀ r ∈ a ++ b ++ c, r.transaction.IsKeyed)
    (hcoherent : Record.Coherent (a ++ b ++ c)) :
    ∃ m, merge a b = .ok m ∧
      (∃ n out, merge b c = .ok n ∧ merge m c = .ok out ∧ merge a n = .ok out) ∧
      merge m m = .ok m ∧ merge m [] = .ok m ∧ merge m a = .ok m ∧ merge m b = .ok m ∧
      ∃ m', merge b a = .ok m' ∧ (∀ k, k ∈ m.map Record.key ↔ k ∈ m'.map Record.key) ∧
        ∀ r ∈ m, ∀ s ∈ m', r.key = s.key →
          r.transaction.populated = s.transaction.populated := by
  have ha : a ⊆ a ++ b ++ c := by simp
  have hb : b ⊆ a ++ b ++ c := by simp
  have hc : c ⊆ a ++ b ++ c := by simp
  obtain ⟨m, hm, hmerge⟩ := exists_merge_eq hkeyed hcoherent ha hb
  have hsub : m ⊆ a ++ b ++ c :=
    List.Subset.trans hmerge.subset (List.append_subset.2 ⟨ha, hb⟩)
  -- A merge with records that have occurred is the merge itself.
  have habsorb (ys : List Record) (hys : ys ⊆ a ++ b) : merge m ys = .ok m := by
    have hall : ys ⊆ a ++ b ++ c :=
      List.Subset.trans hys (List.append_subset.2 ⟨ha, hb⟩)
    obtain ⟨out, hout, hmerge'⟩ := exists_merge_eq hkeyed hcoherent hsub hall
    have hwhole : IsMerge (a ++ b ++ ys) out := hmerge.replace [] ys hmerge'
    rw [hout, hwhole.unique (hmerge.append hys)]
  refine ⟨m, hm, ?_, habsorb m hmerge.subset, habsorb [] (List.nil_subset _),
    habsorb a (List.subset_append_left a b), habsorb b (List.subset_append_right a b), ?_⟩
  · obtain ⟨n, hn, hmergeN⟩ := exists_merge_eq hkeyed hcoherent hb hc
    have hsubN : n ⊆ a ++ b ++ c :=
      List.Subset.trans hmergeN.subset (List.append_subset.2 ⟨hb, hc⟩)
    obtain ⟨out, hout, hleft⟩ := exists_merge_eq hkeyed hcoherent hsub hc
    obtain ⟨out', hout', hright⟩ := exists_merge_eq hkeyed hcoherent ha hsubN
    have hleft' : IsMerge (a ++ b ++ c) out := hmerge.replace [] c hleft
    have hright' : IsMerge (a ++ (b ++ c) ++ []) out' :=
      hmergeN.replace a [] (by rwa [List.append_nil])
    rw [List.append_nil, ← List.append_assoc] at hright'
    exact ⟨n, out, hn, hout, hleft'.unique hright' ▸ hout'⟩
  · obtain ⟨m', hm', hmerge'⟩ := exists_merge_eq hkeyed hcoherent hb ha
    have hswap : b ++ a ⊆ a ++ b := List.append_subset.2 ⟨by simp, by simp⟩
    have hswap' : a ++ b ⊆ b ++ a := List.append_subset.2 ⟨by simp, by simp⟩
    refine ⟨m', hm', fun k => ?_, fun r hr s hs => hmerge.populated_eq hmerge' hswap hswap' hr hs⟩
    rw [hmerge.mem_keys, hmerge'.mem_keys]
    exact ⟨fun hk => List.map_subset _ hswap' hk, fun hk => List.map_subset _ hswap hk⟩

/-- The duplicates of the withdrawal of ten stand in the first two collections, and the third one
brings them again, in another order. -/
theorem merge_laws_sample :
    let a := sampleLedger.records [0, 1]
    let b := sampleLedger.records [2, 3, 0]
    let c := sampleLedger.records [3, 2]
    (∀ r ∈ a ++ b ++ c, r.transaction.IsKeyed) ∧ Record.Coherent (a ++ b ++ c) ∧
    ∃ m n out, merge a b = .ok m ∧ merge b c = .ok n ∧ merge m c = .ok out ∧ merge a n = .ok out ∧
      m.map (·.id) = [2, 1] ∧ n.map (·.id) = [2, 3] ∧ out.map (·.id) = [2, 1] := by
  intro a b c
  have hrecords : a ++ b ++ c = sampleLedger.records [0, 1, 2, 3, 0, 3, 2] := rfl
  have hkeyed : ∀ r ∈ a ++ b ++ c, r.transaction.IsKeyed := hrecords ▸ sampleLedger_isKeyed _
  have hcoherent : Record.Coherent (a ++ b ++ c) := hrecords ▸ Ledger.coherent_records _ _
  obtain ⟨m, hm, ⟨n, out, hn, hout, hassoc⟩, -⟩ := merge_laws hkeyed hcoherent
  have hids : (merge a b).toOption.map (fun rs => rs.map (·.id)) = some [2, 1] := by
    decide +kernel
  have hidsN : (merge b c).toOption.map (fun rs => rs.map (·.id)) = some [2, 3] := by
    decide +kernel
  have hidsOut : (merge a b >>= (merge · c)).toOption.map (fun rs => rs.map (·.id)) =
      some [2, 1] := by
    decide +kernel
  rw [hm] at hids
  rw [hn] at hidsN
  rw [hm, ok_bind, hout] at hidsOut
  exact ⟨hkeyed, hcoherent, m, n, out, hm, hn, hout, hassoc, Option.some.inj hids,
    Option.some.inj hidsN, Option.some.inj hidsOut⟩

end Laws

end Query

end LedgerTags

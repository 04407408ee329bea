import LedgerTags.Proofs.Sorting
import Mathlib.Data.Set.List
import Mathlib.Order.Lattice

/-!
# Sorting is stable

`IsStableSort rank xs ys` says that `ys` is the stable sort of `xs`: its ranks ascend, and the
members of each rank are those of `xs`, in their order. There is only one such list
(`IsStableSort.unique`), so two procedures that sort stably return the same.

A sort whose comparison asks for the order of a rank (`Follows`) returns the stable sort
(`exists_stableSort`). A run that ascends is the stable sort of itself, and a strictly descending
one, in which no two members are of one rank, that of itself turned round. Merging keeps the members
of each rank in their order (`Merges.isStableSort`): a block from the second run goes before the
rest of the first one only if its ranks are all below the ranks there.
-/

namespace LedgerTags.Sorting

variable {ε α β γ : Type}

/-! ### The stable sort of a list -/

section StableSort

variable [LinearOrder β] {rank : α → β} {xs ys zs : List α} {x y : α}

/-- The ranks of `ys` ascend, and the members of each rank are those of `xs` in their order. -/
structure IsStableSort (rank : α → β) (xs ys : List α) : Prop where
  ordered : ys.Pairwise fun x y => rank x ≤ rank y
  filter_rank : ∀ b, (ys.filter fun x => rank x = b) = xs.filter fun x => rank x = b

/-- No member is below the first one of an ordered list. -/
theorem rank_head_le (h : (x :: xs).Pairwise fun x y => rank x ≤ rank y) (hy : y ∈ x :: xs) :
    rank x ≤ rank y := by
  rcases List.mem_cons.1 hy with rfl | hy
  · exact le_rfl
  · exact (List.pairwise_cons.1 h).1 y hy

private theorem mem_of_filter_rank
    (h : ∀ b, (xs.filter fun x => rank x = b) = ys.filter fun x => rank x = b) (hx : x ∈ xs) :
    x ∈ ys := by
  have hmem : x ∈ xs.filter fun y => rank y = rank x := List.mem_filter.2 ⟨hx, by simp⟩
  rw [h] at hmem
  exact (List.mem_filter.1 hmem).1

/-- Ordered lists with the same members of each rank, in the same order, are equal. -/
theorem eq_of_filter_rank (hxs : xs.Pairwise fun x y => rank x ≤ rank y)
    (hys : ys.Pairwise fun x y => rank x ≤ rank y)
    (h : ∀ b, (xs.filter fun x => rank x = b) = ys.filter fun x => rank x = b) : xs = ys := by
  induction xs generalizing ys with
  | nil =>
    refine (List.eq_nil_iff_forall_not_mem.2 fun y hy => ?_).symm
    cases mem_of_filter_rank (fun b => (h b).symm) hy
  | cons x xs ih =>
    cases ys with
    | nil => cases mem_of_filter_rank h List.mem_cons_self
    | cons y ys =>
      have hxy : rank x ≤ rank y :=
        rank_head_le hxs (mem_of_filter_rank (fun b => (h b).symm) List.mem_cons_self)
      have hyx : rank y ≤ rank x := rank_head_le hys (mem_of_filter_rank h List.mem_cons_self)
      have hrank : rank x = rank y := le_antisymm hxy hyx
      -- The first ones are the first of the same rank, so they are equal.
      have hfirst := h (rank x)
      rw [List.filter_cons_of_pos (by simp), List.filter_cons_of_pos (by simp [hrank])] at hfirst
      obtain ⟨rfl, -⟩ := List.cons.inj hfirst
      refine congrArg (x :: ·) (ih hxs.tail hys.tail fun b => ?_)
      have hb := h b
      by_cases hx : rank x = b
      · rw [List.filter_cons_of_pos (by simpa using hx),
          List.filter_cons_of_pos (by simpa using hx)] at hb
        exact (List.cons.inj hb).2
      · rwa [List.filter_cons_of_neg (by simpa using hx),
          List.filter_cons_of_neg (by simpa using hx)] at hb

namespace IsStableSort

/-- A list has one stable sort. -/
theorem unique (h : IsStableSort rank xs ys) (h' : IsStableSort rank xs zs) : ys = zs :=
  eq_of_filter_rank h.ordered h'.ordered fun b => (h.filter_rank b).trans (h'.filter_rank b).symm

/-- Sorting keeps the members. -/
theorem mem_iff (h : IsStableSort rank xs ys) : x ∈ ys ↔ x ∈ xs :=
  ⟨mem_of_filter_rank h.filter_rank, mem_of_filter_rank fun b => (h.filter_rank b).symm⟩

/-- Each element occurs as often as in the list, since it does among those of its rank. -/
theorem perm (h : IsStableSort rank xs ys) : ys.Perm xs := by
  classical
  rw [List.perm_iff_count]
  intro x
  have hcount (zs : List α) : (zs.filter fun z => rank z = rank x).count x = zs.count x :=
    List.count_filter (decide_eq_true rfl)
  rw [← hcount ys, ← hcount xs, h.filter_rank]

/-- Ranks in the same order give the same stable sort. -/
theorem congr {δ : Type} [LinearOrder δ] {rank' : α → δ} (h : IsStableSort rank xs ys)
    (hle : ∀ x ∈ xs, ∀ y ∈ xs, rank x ≤ rank y ↔ rank' x ≤ rank' y) :
    IsStableSort rank' xs ys where
  ordered := h.ordered.imp_of_mem fun hx hy =>
    (hle _ (h.mem_iff.1 hx) _ (h.mem_iff.1 hy)).1
  filter_rank b := by
    by_cases hb : ∃ x ∈ xs, rank' x = b
    · obtain ⟨x, hx, rfl⟩ := hb
      have heq : ∀ y ∈ xs, rank' y = rank' x ↔ rank y = rank x := fun y hy => by
        rw [le_antisymm_iff, le_antisymm_iff, hle y hy x hx, hle x hx y hy]
      have hfilter (zs : List α) (hzs : ∀ z ∈ zs, z ∈ xs) :
          (zs.filter fun y => rank' y = rank' x) = zs.filter fun y => rank y = rank x :=
        List.filter_congr fun z hz => decide_eq_decide.2 (heq z (hzs z hz))
      rw [hfilter ys fun z => h.mem_iff.1, hfilter xs fun z => id, h.filter_rank]
    · have hnone (zs : List α) (hzs : ∀ z ∈ zs, z ∈ xs) :
          (zs.filter fun y => rank' y = b) = [] := by
        rw [List.filter_eq_nil_iff]
        intro z hz hzb
        exact hb ⟨z, hzs z hz, of_decide_eq_true hzb⟩
      rw [hnone ys fun z => h.mem_iff.1, hnone xs fun z => id]

/-- The stable sort of the reversed list, reversed, descends stably. -/
theorem reverse (h : IsStableSort rank xs.reverse ys) :
    IsStableSort (fun x => OrderDual.toDual (rank x)) xs ys.reverse where
  ordered := List.pairwise_reverse.2 h.ordered
  filter_rank b := by
    have hb := h.filter_rank (OrderDual.ofDual b)
    rw [List.filter_reverse] at hb
    have hdual (zs : List α) : (zs.filter fun x => OrderDual.toDual (rank x) = b) =
        zs.filter fun x => rank x = OrderDual.ofDual b :=
      List.filter_congr fun z _ => decide_eq_decide.2 Iff.rfl
    rw [hdual, hdual, List.filter_reverse, hb, List.reverse_reverse]

/-- The stable sort of the images of a list is the image of its stable sort. -/
theorem exists_map {f : γ → α} {us : List γ} (hf : f.Injective)
    (h : IsStableSort rank (us.map f) ys) :
    ∃ vs, ys = vs.map f ∧ IsStableSort (rank ∘ f) us vs := by
  have himages : ys ∈ Set.range (List.map f) := by
    rw [Set.range_list_map]
    intro y hy
    obtain ⟨u, -, hu⟩ := List.mem_map.1 (h.mem_iff.1 hy)
    exact ⟨u, hu⟩
  obtain ⟨vs, rfl⟩ := himages
  have hordered := h.ordered
  rw [List.pairwise_map] at hordered
  refine ⟨vs, rfl, hordered, fun b => ?_⟩
  have hb := h.filter_rank b
  rw [List.filter_map, List.filter_map] at hb
  exact List.map_injective_iff.2 hf hb

/-- A part whose members are of one rank keeps its order. -/
theorem sublist (h : IsStableSort rank xs ys) {part : List α} (hpart : part.Sublist xs)
    (hrank : part.Pairwise fun x y => rank x = rank y) : part.Sublist ys := by
  cases part with
  | nil => exact List.nil_sublist _
  | cons x part =>
    have hfirst : ∀ y ∈ part, rank x = rank y := (List.pairwise_cons.1 hrank).1
    have hself : ((x :: part).filter fun y => rank y = rank x) = x :: part := by
      simpa using fun y hy => (hfirst y hy).symm
    have hfilter := hpart.filter fun y => rank y = rank x
    rw [hself, ← h.filter_rank] at hfilter
    exact hfilter.trans List.filter_sublist

/-- A part of the stable sort is the stable sort of the part. -/
theorem filter (h : IsStableSort rank xs ys) (keep : α → Bool) :
    IsStableSort rank (xs.filter keep) (ys.filter keep) where
  ordered := h.ordered.filter keep
  filter_rank b := by rw [List.filter_comm, h.filter_rank, List.filter_comm]

/-- What holds of the members of a list in their order still holds of those of one rank. -/
theorem pairwise_of_rank_eq {R : α → α → Prop} (h : IsStableSort rank xs ys) (hxs : xs.Pairwise R) :
    ys.Pairwise fun x y => rank x = rank y → R x y := by
  rw [List.pairwise_iff_forall_sublist]
  intro x y hpair heq
  have hself : ([x, y].filter fun z => rank z = rank y) = [x, y] := by simp [heq]
  have hfilter := hpair.filter fun z => rank z = rank y
  rw [hself, h.filter_rank] at hfilter
  exact List.pairwise_iff_forall_sublist.1 hxs (hfilter.trans List.filter_sublist)

end IsStableSort

end StableSort

/-! ### The comparison asks for the order of a rank -/

section Procedure

variable [LinearOrder β] {rank : α → β} {lt : α → α → Except ε Bool} {xs ys ts ns out : List α}

/-- Among the members of a list the comparison says whether one rank is below another. -/
def Follows (lt : α → α → Except ε Bool) (rank : α → β) (xs : List α) : Prop :=
  ∀ x ∈ xs, ∀ y ∈ xs, lt x y = .ok (decide (rank x < rank y))

/-- A comparison that follows a rank on some members follows it on fewer of them. -/
theorem Follows.subset (h : Follows lt rank xs) (hys : ys ⊆ xs) : Follows lt rank ys :=
  fun x hx y hy => h x (hys hx) y (hys hy)

private theorem Follows.lt_of_ok (h : Follows lt rank xs) {x y : α} (hx : x ∈ xs) (hy : y ∈ xs)
    (hlt : lt x y = .ok true) : rank x < rank y := by
  rw [h x hx y hy] at hlt
  exact of_decide_eq_true (Except.ok.inj hlt)

private theorem Follows.le_of_ok (h : Follows lt rank xs) {x y : α} (hx : x ∈ xs) (hy : y ∈ xs)
    (hlt : lt x y = .ok false) : rank y ≤ rank x := by
  rw [h x hx y hy] at hlt
  exact not_lt.1 (of_decide_eq_false (Except.ok.inj hlt))

/-- In an ascending run the ranks ascend. -/
theorem Ascends.pairwise (h : Ascends lt xs) (hlt : Follows lt rank xs) :
    xs.Pairwise fun x y => rank x ≤ rank y :=
  List.isChain_iff_pairwise.1 (h.imp_of_mem_imp fun _ _ hx hy => hlt.le_of_ok hy hx)

/-- In a strictly descending run no two members have one rank. -/
theorem Descends.pairwise (h : Descends lt xs) (hlt : Follows lt rank xs) :
    xs.Pairwise fun x y => rank y < rank x :=
  List.isChain_iff_pairwise.1 (h.imp_of_mem_imp fun _ _ hx hy => hlt.lt_of_ok hy hx)

/-- A list without two members of one rank is the stable sort of itself turned round. -/
theorem isStableSort_of_strict (h : xs.Pairwise fun x y => rank x < rank y) :
    IsStableSort rank xs.reverse xs where
  ordered := h.imp le_of_lt
  filter_rank b := by
    have hfilter : (xs.filter fun x => rank x = b).Pairwise fun _ _ => False := by
      refine (h.filter _).imp_of_mem fun hx hy hlt => ?_
      have hx := of_decide_eq_true (List.mem_filter.1 hx).2
      have hy := of_decide_eq_true (List.mem_filter.1 hy).2
      rw [hx, hy] at hlt
      exact lt_irrefl b hlt
    rw [List.filter_reverse]
    -- The rank has one member at most.
    rcases hone : xs.filter (fun x => rank x = b) with _ | ⟨x, _ | ⟨y, zs⟩⟩
    · rfl
    · rfl
    · rw [hone] at hfilter
      exact ((List.pairwise_cons.1 hfilter).1 y List.mem_cons_self).elim

namespace IsStableSort

/-- A block that is not above a list stays before it. -/
theorem append_left (h : IsStableSort rank ns out) (hts : ts.Pairwise fun x y => rank x ≤ rank y)
    (hbelow : ∀ x ∈ ts, ∀ y ∈ ns, rank x ≤ rank y) : IsStableSort rank (ts ++ ns) (ts ++ out) where
  ordered := List.pairwise_append.2
    ⟨hts, h.ordered, fun x hx y hy => hbelow x hx y (h.mem_iff.1 hy)⟩
  filter_rank b := by rw [List.filter_append, List.filter_append, h.filter_rank]

/-- Two blocks without a common rank may change places. -/
theorem swap (h : IsStableSort rank (ts ++ (ns ++ xs)) out)
    (hne : ∀ x ∈ ts, ∀ y ∈ ns, rank x ≠ rank y) : IsStableSort rank (ns ++ (ts ++ xs)) out where
  ordered := h.ordered
  filter_rank b := by
    have hnone : (ts.filter fun x => rank x = b) = [] ∨ (ns.filter fun x => rank x = b) = [] := by
      by_contra! hboth
      obtain ⟨x, hx⟩ := List.exists_mem_of_ne_nil _ hboth.1
      obtain ⟨y, hy⟩ := List.exists_mem_of_ne_nil _ hboth.2
      obtain ⟨hx, hxb⟩ := List.mem_filter.1 hx
      obtain ⟨hy, hyb⟩ := List.mem_filter.1 hy
      exact hne x hx y hy ((of_decide_eq_true hxb).trans (of_decide_eq_true hyb).symm)
    rw [h.filter_rank]
    simp only [List.filter_append]
    rcases hnone with hnone | hnone <;> simp [hnone]

end IsStableSort

/-- No member is above the last one of an ordered list. -/
theorem rank_le_last {front : List α} {x y : α}
    (h : (front ++ [x]).Pairwise fun x y => rank x ≤ rank y) (hy : y ∈ front ++ [x]) :
    rank y ≤ rank x := by
  rcases List.mem_append.1 hy with hy | hy
  · exact (List.pairwise_append.1 h).2.2 y hy x (List.mem_singleton_self x)
  · rw [List.mem_singleton.1 hy]

/-- Merging ordered lists sorts them stably. -/
theorem Merges.isStableSort (h : Merges lt ts ns out) (hlt : Follows lt rank (ts ++ ns))
    (hts : ts.Pairwise fun x y => rank x ≤ rank y) (hns : ns.Pairwise fun x y => rank x ≤ rank y) :
    IsStableSort rank (ts ++ ns) out := by
  induction h with
  | nil_left ns => exact ⟨hns, fun _ => rfl⟩
  | nil_right ts => exact ⟨hts, fun _ => by rw [List.append_nil]⟩
  | @first front x n ts ns out hx _ ih =>
    have hxn : rank x ≤ rank n := hlt.le_of_ok (by simp) (by simp) hx
    rw [List.append_cons front x ts] at hts hlt ⊢
    rw [List.append_cons front x out]
    obtain ⟨hblock, hrest, hcross⟩ := List.pairwise_append.1 hts
    rw [List.append_assoc] at hlt ⊢
    have hout := ih (hlt.subset (List.subset_append_right _ _)) hrest hns
    refine hout.append_left hblock fun z hz y hy => ?_
    rcases List.mem_append.1 hy with hy | hy
    · exact hcross z hz y hy
    · exact ((rank_le_last hblock hz).trans hxn).trans (rank_head_le hns hy)
  | @second front y t ts ns out hy _ ih =>
    have hyt : rank y < rank t := hlt.lt_of_ok (by simp) (by simp) hy
    rw [List.append_cons front y ns] at hns hlt ⊢
    rw [List.append_cons front y out]
    obtain ⟨hblock, hrest, hcross⟩ := List.pairwise_append.1 hns
    have hbelow : ∀ z ∈ front ++ [y], ∀ u ∈ t :: ts, rank z < rank u := fun z hz u hu =>
      ((rank_le_last hblock hz).trans_lt hyt).trans_le (rank_head_le hts hu)
    have hrests : t :: ts ++ ns ⊆ t :: ts ++ (front ++ [y] ++ ns) :=
      ((List.suffix_append (front ++ [y]) ns).sublist.append_left (t :: ts)).subset
    have hout := ih (hlt.subset hrests) hts hrest
    refine (hout.append_left hblock fun z hz u hu => ?_).swap fun z hz u hu => (hbelow z hz u hu).ne
    rcases List.mem_append.1 hu with hu | hu
    · exact (hbelow z hz u hu).le
    · exact hcross z hz u hu

/-- Arranging by a comparison that follows a rank sorts by that rank, stably. -/
theorem Arranges.isStableSort (h : Arranges lt xs ys) (hlt : Follows lt rank xs) :
    IsStableSort rank xs ys := by
  induction h with
  | ascending h => exact ⟨h.pairwise hlt, fun _ => rfl⟩
  | @descending xs h =>
    have hstrict : xs.reverse.Pairwise fun x y => rank x < rank y :=
      List.pairwise_reverse.2 (h.pairwise hlt)
    simpa using isStableSort_of_strict hstrict
  | @merge xs ys as bs out has hbs hmerges ih ih' =>
    have hfirst := ih (hlt.subset (List.subset_append_left xs ys))
    have hsecond := ih' (hlt.subset (List.subset_append_right xs ys))
    have hout := hmerges.isStableSort (hlt.subset (has.perm.append hbs.perm).subset) hfirst.ordered
      hsecond.ordered
    refine ⟨hout.ordered, fun b => ?_⟩
    rw [hout.filter_rank, List.filter_append, List.filter_append, hfirst.filter_rank,
      hsecond.filter_rank]

/-- A sort that goes by a rank returns the stable sort. -/
theorem exists_stableSort (hlt : Follows lt rank xs) :
    ∃ ys, sort lt xs = .ok ys ∧ IsStableSort rank xs ys := by
  obtain ⟨ys, hsort, -⟩ : ∃ ys, sort lt xs = .ok ys ∧ ys.Perm xs :=
    exists_sort fun x hx y hy => ⟨_, hlt x hx y hy⟩
  exact ⟨ys, hsort, (sort_arranges hsort).isStableSort hlt⟩

end Procedure

end LedgerTags.Sorting

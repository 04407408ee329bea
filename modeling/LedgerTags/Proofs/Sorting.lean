import LedgerTags.Proofs.Comparing
import LedgerTags.Proofs.RunMerging
import Mathlib.Data.List.Chain

/-!
# What sorting returns

Whatever the comparison says, a sort that goes well has cut its list into runs, has turned those
that descend strictly, and has merged neighbouring ones until one was left (`Arranges`,
`sort_arranges`). So it returns the members of its list in another order (`perm_of_sort`), and if no
two of them are below each other, then no member of the result is below the one before it
(`Arranges.ascends`). A list that is so already is returned as it is (`sort_of_ascends`).

Members of the list are compared only, so a sort goes well if any two of them can be compared
(`exists_sort`).
-/

namespace LedgerTags.Sorting

variable {ε α : Type} {lt : α → α → Except ε Bool} {xs ys run sorted rest last : List α}

/-- Turned round or not, a list has the same members. -/
theorem ite_reverse_subset (reverse : Bool) (xs : List α) :
    (if reverse then xs.reverse else xs) ⊆ xs := by
  cases reverse with
  | true => exact (List.reverse_perm xs).subset
  | false => exact List.Subset.refl xs

/-! ### Runs that are merged -/

/-- No element is below the one before it. -/
def Ascends (lt : α → α → Except ε Bool) (xs : List α) : Prop :=
  xs.IsChain fun x y => lt y x = .ok false

/-- Each element is below the one before it. -/
def Descends (lt : α → α → Except ε Bool) (xs : List α) : Prop :=
  xs.IsChain fun x y => lt y x = .ok true

/-- The second list has the members of the first one, cut into runs that ascend or are turned, and
merged. -/
inductive Arranges (lt : α → α → Except ε Bool) : List α → List α → Prop
  | ascending {xs : List α} : Ascends lt xs → Arranges lt xs xs
  | descending {xs : List α} : Descends lt xs → Arranges lt xs xs.reverse
  | merge {xs ys as bs out : List α} :
      Arranges lt xs as → Arranges lt ys bs → Merges lt as bs out → Arranges lt (xs ++ ys) out

/-- Arranging keeps the members. -/
theorem Arranges.perm (h : Arranges lt xs ys) : ys.Perm xs := by
  induction h with
  | ascending _ => exact .refl _
  | descending _ => exact List.reverse_perm _
  | merge _ _ hmerges ih ih' => exact hmerges.perm.trans (ih.append ih')

/-- An ascending run is left as it is. -/
theorem ascending_ascends {last : α} {p : List α × List α}
    (hrun : (last :: run).IsChain fun x y => lt x y = .ok false)
    (h : ascending lt last run xs = .ok p) :
    p.1 ++ p.2 = (last :: run).reverse ++ xs ∧ p.1 ≠ [] ∧ Ascends lt p.1 := by
  induction xs generalizing last run with
  | nil =>
    cases h
    exact ⟨rfl, by simp, List.isChain_reverse.2 hrun⟩
  | cons x xs ih =>
    obtain ⟨b, hb, h⟩ := bind_eq_ok_iff.1 h
    cases b with
    | true =>
      cases h
      exact ⟨rfl, by simp, List.isChain_reverse.2 hrun⟩
    | false =>
      obtain ⟨hparts, hne, hordered⟩ := ih (List.isChain_cons_cons.2 ⟨hb, hrun⟩) h
      refine ⟨?_, hne, hordered⟩
      rw [hparts, List.reverse_cons, List.append_assoc, List.singleton_append]

/-- A strictly descending run is turned. -/
theorem descending_descends {last : α} {p : List α × List α}
    (hrun : (last :: run).IsChain fun x y => lt x y = .ok true)
    (h : descending lt last run xs = .ok p) :
    p.1.reverse ++ p.2 = (last :: run).reverse ++ xs ∧ p.1 ≠ [] ∧ Descends lt p.1.reverse := by
  induction xs generalizing last run with
  | nil =>
    cases h
    exact ⟨rfl, by simp, List.isChain_reverse.2 hrun⟩
  | cons x xs ih =>
    obtain ⟨b, hb, h⟩ := bind_eq_ok_iff.1 h
    cases b with
    | true =>
      obtain ⟨hparts, hne, hordered⟩ := ih (List.isChain_cons_cons.2 ⟨hb, hrun⟩) h
      refine ⟨?_, hne, hordered⟩
      rw [hparts, List.reverse_cons, List.append_assoc, List.singleton_append]
    | false =>
      cases h
      exact ⟨rfl, by simp, List.isChain_reverse.2 hrun⟩

/-- The run at the start of a list. -/
theorem firstRun_arranges (h : firstRun lt xs = .ok (run, rest)) :
    ∃ front, xs = front ++ rest ∧ (xs ≠ [] → front ≠ []) ∧ Arranges lt front run := by
  rcases xs with _ | ⟨x, _ | ⟨y, xs⟩⟩
  · cases h
    exact ⟨[], rfl, id, .ascending .nil⟩
  · cases h
    exact ⟨[x], rfl, id, .ascending (.singleton x)⟩
  · obtain ⟨b, hb, h⟩ := bind_eq_ok_iff.1 h
    cases b with
    | true =>
      have hpair : [y, x].IsChain fun x y => lt x y = .ok true := List.isChain_pair.2 hb
      obtain ⟨hparts, hne, hrun⟩ := descending_descends hpair h
      have hturned : Arranges lt run.reverse run := by simpa using Arranges.descending hrun
      exact ⟨run.reverse, hparts.symm, fun _ => List.reverse_ne_nil_iff.2 hne, hturned⟩
    | false =>
      have hpair : [y, x].IsChain fun x y => lt x y = .ok false := List.isChain_pair.2 hb
      obtain ⟨hparts, hne, hrun⟩ := ascending_ascends hpair h
      exact ⟨run, hparts.symm, fun _ => hne, .ascending hrun⟩

private theorem insertAll_arranges (hrun : Arranges lt xs run)
    (h : insertAll lt run ys = .ok sorted) : Arranges lt (xs ++ ys) sorted := by
  induction ys generalizing xs run with
  | nil =>
    cases h
    rwa [List.append_nil]
  | cons y ys ih =>
    obtain ⟨run', hinsert, h⟩ := bind_eq_ok_iff.1 h
    have hstep : Arranges lt (xs ++ [y]) run' :=
      .merge hrun (.ascending (.singleton y)) (insert_merges hinsert)
    simpa using ih hstep h

private theorem nextRun_arranges {least : ℕ} (h : nextRun lt least xs = .ok (run, rest)) :
    ∃ front, xs = front ++ rest ∧ (xs ≠ [] → front ≠ []) ∧ Arranges lt front run := by
  obtain ⟨⟨run', rest'⟩, hfirst, h⟩ := bind_eq_ok_iff.1 h
  obtain ⟨run'', hinsert, h⟩ := bind_eq_ok_iff.1 h
  cases h
  obtain ⟨front, rfl, hne, hrun⟩ := firstRun_arranges hfirst
  refine ⟨front ++ rest'.take (least - run'.length), ?_, fun hxs => ?_,
    insertAll_arranges hrun hinsert⟩
  · rw [List.append_assoc, List.take_append_drop]
  · exact List.append_ne_nil_of_left_ne_nil (hne hxs) _

/-! ### The runs that are left -/

/-- Runs that are left, nearest first, each of which has the members of its part of a list. -/
inductive Pending (lt : α → α → Except ε Bool) : List (List α) → List α → Prop
  | nil : Pending lt [] []
  | cons {runs : List (List α)} {run front xs : List α} :
      Pending lt runs front → Arranges lt xs run → Pending lt (run :: runs) (front ++ xs)

private theorem Pending.arranges (h : Pending lt [run] xs) : Arranges lt xs run := by
  obtain _ | ⟨_ | _, hrun⟩ := h
  simpa using hrun

private theorem Pending.merge {as bs out : List α} {runs : List (List α)}
    (h : Pending lt (bs :: as :: runs) xs) (hmerges : Merges lt as bs out) :
    Pending lt (out :: runs) xs := by
  obtain _ | ⟨_ | ⟨hfront, has⟩, hbs⟩ := h
  rw [List.append_assoc]
  exact .cons hfront (.merge has hbs hmerges)

private theorem collapse_pending {depth patience patience' : ℕ} {runs runs' : List (List α × ℕ)}
    {last' : List α} (hpending : Pending lt (last :: runs.map (·.1)) xs)
    (h : collapse lt depth runs last patience = .ok (runs', last', patience')) :
    Pending lt (last' :: runs'.map (·.1)) xs := by
  induction runs generalizing last patience with
  | nil =>
    cases h
    exact hpending
  | cons p runs ih =>
    obtain ⟨before, parted⟩ := p
    rw [collapse] at h
    split at h
    · obtain ⟨⟨merged, patience''⟩, hmerged, h⟩ := bind_eq_ok_iff.1 h
      exact ih (hpending.merge (mergeRuns_merges hmerged)) h
    · cases h
      exact hpending

private theorem collect_pending {total least fuel patience patience' : ℕ} {runs : List (List α × ℕ)}
    {runs' : List (List α)} {last' : List α} (hfuel : ys.length ≤ fuel)
    (hpending : Pending lt (last :: runs.map (·.1)) xs)
    (h : collect lt total least fuel runs last patience ys = .ok (runs', last', patience')) :
    Pending lt (last' :: runs') (xs ++ ys) := by
  induction fuel generalizing runs last patience xs ys with
  | zero =>
    obtain rfl := List.length_eq_zero_iff.1 (Nat.le_zero.1 hfuel)
    cases h
    simpa using hpending
  | succ fuel ih =>
    cases ys with
    | nil =>
      cases h
      simpa using hpending
    | cons y ys =>
      obtain ⟨⟨run, rest⟩, hrun, h⟩ := bind_eq_ok_iff.1 h
      obtain ⟨⟨runs'', last'', patience''⟩, hcollapse, h⟩ := bind_eq_ok_iff.1 h
      obtain ⟨front, hys, hne, harranges⟩ := nextRun_arranges hrun
      have hlength : rest.length ≤ fuel := by
        have hfront := List.length_pos_iff.2 (hne (List.cons_ne_nil y ys))
        have hparts := congrArg List.length hys
        rw [List.length_append] at hparts
        omega
      rw [hys, ← List.append_assoc]
      exact ih hlength ((collapse_pending hpending hcollapse).cons harranges) h

private theorem mergeAll_arranges {fuel patience : ℕ} {runs : List (List α)} 
    (hfuel : runs.length ≤ fuel) (hpending : Pending lt (last :: runs) xs)
    (h : mergeAll lt fuel runs last patience = .ok ys) : Arranges lt xs ys := by
  induction fuel generalizing runs last patience with
  | zero =>
    obtain rfl := List.length_eq_zero_iff.1 (Nat.le_zero.1 hfuel)
    cases h
    exact hpending.arranges
  | succ fuel ih =>
    rcases runs with _ | ⟨run, _ | ⟨run', runs⟩⟩
    · cases h
      exact hpending.arranges
    · obtain ⟨⟨merged, patience'⟩, hmerged, h⟩ := bind_eq_ok_iff.1 h
      cases h
      exact (hpending.merge (mergeRuns_merges hmerged)).arranges
    · have hshort (run : List α) : (run :: runs).length ≤ fuel := Nat.le_of_succ_le_succ hfuel
      rw [mergeAll] at h
      split at h
      · obtain ⟨⟨merged, patience'⟩, hmerged, h⟩ := bind_eq_ok_iff.1 h
        obtain _ | ⟨hbefore, hlast⟩ := hpending
        have hmerge : Merges lt run' run merged := mergeRuns_merges hmerged
        exact ih (hshort merged) (.cons (hbefore.merge hmerge) hlast) h
      · obtain ⟨⟨merged, patience'⟩, hmerged, h⟩ := bind_eq_ok_iff.1 h
        exact ih (hshort run') (hpending.merge (mergeRuns_merges hmerged)) h

/-- A sort cuts its list into runs and merges them. -/
theorem sort_arranges (h : sort lt xs = .ok ys) : Arranges lt xs ys := by
  obtain ⟨⟨run, rest⟩, hrun, h⟩ := bind_eq_ok_iff.1 h
  obtain ⟨⟨runs, last, patience⟩, hcollect, h⟩ := bind_eq_ok_iff.1 h
  obtain ⟨front, hparts, -, harranges⟩ := nextRun_arranges hrun
  have hfirst : Pending lt [run] front := by simpa using Pending.nil.cons harranges
  rw [hparts]
  exact mergeAll_arranges (Nat.le_refl _) (collect_pending (Nat.le_refl _) hfirst hcollect) h

/-- A sorted list has the members of the list. -/
theorem perm_of_sort (h : sort lt xs = .ok ys) : ys.Perm xs := (sort_arranges h).perm

/-! ### Neighbours -/

/-- No two elements of a list are below each other. -/
def Asymmetric (lt : α → α → Except ε Bool) (xs : List α) : Prop :=
  ∀ x ∈ xs, ∀ y ∈ xs, lt x y = .ok true → lt y x = .ok false

private theorem Asymmetric.subset (h : Asymmetric lt xs) (hys : ys ⊆ xs) : Asymmetric lt ys :=
  fun x hx y hy => h x (hys hx) y (hys hy)

/-- Merging begins with the first element of one of the lists. -/
theorem Merges.head? {ts ns out : List α} (h : Merges lt ts ns out) :
    out.head? = ts.head? ∨ out.head? = ns.head? := by
  cases h with
  | nil_left => exact .inr rfl
  | nil_right => exact .inl rfl
  | first front _ _ => left; cases front <;> rfl
  | second front _ _ => right; cases front <;> rfl

/-- Merging keeps neighbours in order. -/
theorem Merges.ascends {ts ns out : List α} (h : Merges lt ts ns out)
    (hlt : Asymmetric lt (ts ++ ns)) (hts : Ascends lt ts) (hns : Ascends lt ns) :
    Ascends lt out := by
  induction h with
  | nil_left ns => exact hns
  | nil_right ts => exact hts
  | @first front x n ts ns out hx h ih =>
    obtain ⟨hfront, hrest⟩ := List.isChain_split.1 hts
    have hrests : ts ++ n :: ns <:+ front ++ x :: ts ++ n :: ns := ⟨front ++ [x], by simp⟩
    have hout := ih (hlt.subset hrests.subset) hrest.tail hns
    refine List.isChain_split.2 ⟨hfront, hout.cons fun z hz => ?_⟩
    rcases h.head? with hhead | hhead
    · exact hrest.rel_head? (hhead ▸ hz)
    · obtain rfl : n = z := by simpa [hhead] using hz
      exact hx
  | @second front y t ts ns out hy h ih =>
    obtain ⟨hfront, hrest⟩ := List.isChain_split.1 hns
    have hrests : ns <:+ front ++ y :: ns := ⟨front ++ [y], by simp⟩
    have hout := ih (hlt.subset (hrests.sublist.append_left (t :: ts)).subset) hts hrest.tail
    refine List.isChain_split.2 ⟨hfront, hout.cons fun z hz => ?_⟩
    rcases h.head? with hhead | hhead
    · obtain rfl : t = z := by simpa [hhead] using hz
      exact hlt y (by simp) t (by simp) hy
    · exact hrest.rel_head? (hhead ▸ hz)

/-- What is arranged ascends, if no two members come before each other. -/
theorem Arranges.ascends (h : Arranges lt xs ys) (hlt : Asymmetric lt xs) : Ascends lt ys := by
  induction h with
  | ascending h => exact h
  | @descending xs h =>
    exact List.isChain_reverse.2 (h.imp_of_mem_imp fun x y hx hy => hlt y hy x hx)
  | @merge xs ys as bs out has hbs hmerges ih ih' =>
    refine hmerges.ascends (hlt.subset ?_) (ih (hlt.subset ?_)) (ih' (hlt.subset ?_))
    · exact (has.perm.append hbs.perm).subset
    · exact List.subset_append_left xs ys
    · exact List.subset_append_right xs ys

/-! ### Success -/

/-- Any two members of a list can be compared. -/
def Comparable (lt : α → α → Except ε Bool) (xs : List α) : Prop :=
  ∀ x ∈ xs, ∀ y ∈ xs, ∃ b, lt x y = .ok b

/-- If some members can be compared, so can fewer of them. -/
theorem Comparable.subset (h : Comparable lt xs) (hys : ys ⊆ xs) : Comparable lt ys :=
  fun x hx y hy => h x (hys hx) y (hys hy)

/-- A list any two members of which can be compared is sorted. -/
theorem exists_sort (h : Comparable lt xs) : ∃ ys, sort lt xs = .ok ys ∧ ys.Perm xs := by
  cases hsort : sort lt xs with
  | ok ys => exact ⟨ys, rfl, perm_of_sort hsort⟩
  | error e =>
    obtain ⟨x, hx, y, hy, herror⟩ := exists_of_sort_error hsort
    obtain ⟨b, hb⟩ := h x hx y hy
    rw [herror] at hb
    cases hb

/-! ### Lists in order -/

private theorem ascending_of_ascends {last : α} {run : List α} (h : Ascends lt (last :: xs)) :
    ascending lt last run xs = .ok ((last :: run).reverse ++ xs, []) := by
  induction xs generalizing last run with
  | nil => simp [ascending]
  | cons x xs ih =>
    obtain ⟨hx, hrest⟩ := List.isChain_cons_cons.1 h
    rw [ascending, hx, ok_bind, if_neg Bool.false_ne_true, ih hrest]
    simp

private theorem firstRun_of_ascends (h : Ascends lt xs) : firstRun lt xs = .ok (xs, []) := by
  rcases xs with _ | ⟨x, _ | ⟨y, xs⟩⟩
  · rfl
  · rfl
  · obtain ⟨hy, hrest⟩ := List.isChain_cons_cons.1 h
    rw [firstRun, hy, ok_bind, if_neg Bool.false_ne_true, ascending_of_ascends hrest]
    rfl

/-- A list in which no member is below the one before it is returned as it is. -/
theorem sort_of_ascends (h : Ascends lt xs) : sort lt xs = .ok xs := by
  have hnext (least : ℕ) : nextRun lt least xs = .ok (xs, []) := by
    rw [nextRun, firstRun_of_ascends h, ok_bind]
    simp [insertAll]
  rw [sort, hnext, ok_bind]
  rfl

end LedgerTags.Sorting

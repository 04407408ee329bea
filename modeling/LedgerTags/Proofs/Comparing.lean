import LedgerTags.Proofs.Outcome
import LedgerTags.Sorting

/-!
# What a sort looks at

A sort sees its elements through the comparison only: elements that are images of others, under a
comparison that says the same of the images, are sorted as the others are (`sort_map`), and a
comparison that fails makes the sort fail with that error.

With the members of a list as the others, a sort depends on the comparison at its members alone
(`sort_congr`), and every error of a sort is an error of the comparison at two members
(`exists_of_sort_error`).
-/

namespace LedgerTags.Sorting

variable {δ ε α γ X Y X' Y' : Type}

/-! ### Images of outcomes -/

/-- An outcome with its result and its error replaced. -/
def carry (g : δ → ε) (f : X → Y) : Except δ X → Except ε Y
  | .ok x => .ok (f x)
  | .error e => .error (g e)

/-- Two computations of which each step is the image of the other's. -/
theorem carry_bind {g : δ → ε} {f : X → Y} {f' : X' → Y'} {m : Except δ X}
    {c : X → Except δ X'} {c' : Y → Except ε Y'} (h : ∀ x, c' (f x) = carry g f' (c x)) :
    (carry g f m >>= c') = carry g f' (m >>= c) := by
  cases m with
  | error e => rfl
  | ok x => exact h x

theorem carry_id (m : Except ε X) : carry id id m = m := by cases m <;> rfl

/-- What is left of a turn of a merge, with the images of the elements. -/
def Turn.map (f : γ → α) (turn : Turn γ) : Turn α where
  count := turn.count
  moved := turn.moved.map f
  first := turn.first.map f
  second := turn.second.map f

section Images

variable {lt : α → α → Except ε Bool} {lt' : γ → γ → Except δ Bool} {f : γ → α} {g : δ → ε}
  {s : Sides ε α} {s' : Sides δ γ}

/-- A comparison says of the images of two elements what another says of the elements. -/
def Mirrors (f : γ → α) (g : δ → ε) (lt : α → α → Except ε Bool) (lt' : γ → γ → Except δ Bool) :
    Prop :=
  ∀ x y, lt (f x) (f y) = carry g id (lt' x y)

/-! ### Runs and places -/

private theorem ascending_map (h : Mirrors f g lt lt') (last : γ) (run xs : List γ) :
    ascending lt (f last) (run.map f) (xs.map f) =
      carry g (Prod.map (List.map f) (List.map f)) (ascending lt' last run xs) := by
  induction xs generalizing last run with
  | nil => simp [ascending, carry]
  | cons x xs ih =>
    rw [List.map_cons, ascending, ascending, h]
    refine carry_bind fun b => ?_
    cases b with
    | true => simp [carry]
    | false => exact ih x (last :: run)

private theorem descending_map (h : Mirrors f g lt lt') (last : γ) (run xs : List γ) :
    descending lt (f last) (run.map f) (xs.map f) =
      carry g (Prod.map (List.map f) (List.map f)) (descending lt' last run xs) := by
  induction xs generalizing last run with
  | nil => rfl
  | cons x xs ih =>
    rw [List.map_cons, descending, descending, h]
    refine carry_bind fun b => ?_
    cases b with
    | true => exact ih x (last :: run)
    | false => rfl

private theorem firstRun_map (h : Mirrors f g lt lt') (xs : List γ) :
    firstRun lt (xs.map f) =
      carry g (Prod.map (List.map f) (List.map f)) (firstRun lt' xs) := by
  rcases xs with _ | ⟨x, _ | ⟨y, xs⟩⟩
  · rfl
  · rfl
  · rw [List.map_cons, List.map_cons, firstRun, firstRun, h]
    refine carry_bind fun b => ?_
    cases b with
    | true => exact descending_map h y [x] xs
    | false => exact ascending_map h y [x] xs

private theorem place_map (h : Mirrors f g lt lt') (pivot : γ) (fuel : ℕ) (sorted : List γ) :
    place lt (f pivot) fuel (sorted.map f) = carry g id (place lt' pivot fuel sorted) := by
  induction fuel generalizing sorted with
  | zero => rfl
  | succ fuel ih =>
    rw [place, place, List.length_map, ← List.map_drop, ← List.map_take]
    cases sorted.drop (sorted.length / 2) with
    | nil => rfl
    | cons x after =>
      simp only [List.map_cons, h pivot x, ih]
      refine carry_bind fun b => ?_
      cases b with
      | true => rfl
      | false => exact carry_bind fun _ => rfl

private theorem insert_map (h : Mirrors f g lt lt') (sorted : List γ) (x : γ) :
    insert lt (sorted.map f) (f x) = carry g (List.map f) (insert lt' sorted x) := by
  rw [insert, insert, List.length_map, place_map h]
  exact carry_bind fun n => by simp [carry]

private theorem insertAll_map (h : Mirrors f g lt lt') (sorted xs : List γ) :
    insertAll lt (sorted.map f) (xs.map f) = carry g (List.map f) (insertAll lt' sorted xs) := by
  induction xs generalizing sorted with
  | nil => rfl
  | cons x xs ih =>
    rw [List.map_cons, insertAll, insertAll, insert_map h]
    exact carry_bind fun sorted' => ih sorted'

private theorem nextRun_map (h : Mirrors f g lt lt') (least : ℕ) (xs : List γ) :
    nextRun lt least (xs.map f) =
      carry g (Prod.map (List.map f) (List.map f)) (nextRun lt' least xs) := by
  rw [nextRun, nextRun, firstRun_map h]
  refine carry_bind fun p => ?_
  simp only [Prod.map, List.length_map, ← List.map_take, ← List.map_drop, insertAll_map h]
  exact carry_bind fun _ => rfl

/-! ### Searches -/

private theorem Mirrors.notBelow (h : Mirrors f g lt lt') :
    Mirrors f g (notBelow lt) (notBelow lt') := by
  intro x y
  rw [Sorting.notBelow, h]
  exact carry_bind fun _ => rfl

private theorem Mirrors.flip (h : Mirrors f g lt lt') : Mirrors f g (flip lt) (flip lt') :=
  fun x y => h y x

private theorem leap_map (h : Mirrors f g lt lt') (pivot : γ) (fuel width : ℕ) (xs : List γ) :
    leap lt (f pivot) fuel width (xs.map f) = carry g id (leap lt' pivot fuel width xs) := by
  induction fuel generalizing width xs with
  | zero => rfl
  | succ fuel ih =>
    rw [leap, leap, List.length_map, ← List.map_drop, ← List.map_take]
    cases xs.drop width with
    | nil => exact place_map h pivot _ _
    | cons x after =>
      simp only [List.map_cons, h pivot x, ih, place_map h]
      refine carry_bind fun b => ?_
      cases b with
      | true => rfl
      | false => exact carry_bind fun _ => rfl

private theorem leapBack_map (h : Mirrors f g lt lt') (pivot : γ) (fuel width : ℕ) (xs : List γ) :
    leapBack lt (f pivot) fuel width (xs.map f) =
      carry g id (leapBack lt' pivot fuel width xs) := by
  induction fuel generalizing width xs with
  | zero => rfl
  | succ fuel ih =>
    rw [leapBack, leapBack, List.length_map, ← List.map_drop, ← List.map_take, ← List.map_reverse,
      ← List.map_reverse]
    cases xs.drop width with
    | nil => exact place_map h pivot _ _
    | cons x before =>
      simp only [List.map_cons, h pivot x, ih, place_map h, List.length_map]
      refine carry_bind fun b => ?_
      cases b with
      | true => rfl
      | false => exact carry_bind fun _ => rfl

private theorem gallop_map (h : Mirrors f g lt lt') (pivot : γ) (xs : List γ) :
    gallop lt (f pivot) (xs.map f) = carry g id (gallop lt' pivot xs) := by
  cases xs with
  | nil => rfl
  | cons x xs =>
    rw [List.map_cons, gallop, gallop, h, List.length_map, leap_map h]
    refine carry_bind fun b => ?_
    cases b with
    | true => rfl
    | false => exact carry_bind fun _ => rfl

private theorem gallopBack_map (h : Mirrors f g lt lt') (pivot : γ) (xs : List γ) :
    gallopBack lt (f pivot) (xs.map f) = carry g id (gallopBack lt' pivot xs) := by
  cases xs with
  | nil => rfl
  | cons x xs =>
    rw [List.map_cons, gallopBack, gallopBack, h, List.length_map, leapBack_map h]
    refine carry_bind fun b => ?_
    cases b <;> rfl

/-! ### Merges -/

/-- The two sides of a merge of images say what those of the merge of the elements say. -/
structure Sides.Mirrors (f : γ → α) (g : δ → ε) (s : Sides ε α) (s' : Sides δ γ) : Prop where
  less : Sorting.Mirrors f g s.less s'.less
  inFirst : ∀ n ts, s.inFirst (f n) (ts.map f) = carry g id (s'.inFirst n ts)
  inSecond : ∀ t ns, s.inSecond (f t) (ns.map f) = carry g id (s'.inSecond t ns)
  firstBegins : s.firstBegins = s'.firstBegins

private theorem Mirrors.forward (h : Mirrors f g lt lt') :
    Sides.Mirrors f g (.forward lt) (.forward lt') where
  less := h
  inFirst := gallop_map h
  inSecond := gallop_map h.notBelow
  firstBegins := rfl

private theorem Mirrors.backward (h : Mirrors f g lt lt') :
    Sides.Mirrors f g (.backward lt) (.backward lt') where
  less := h.flip
  inFirst n ts := by
    simp only [Sides.backward, gallopBack_map h.notBelow, List.length_map]
    exact carry_bind fun _ => rfl
  inSecond t ns := by
    simp only [Sides.backward, gallopBack_map h, List.length_map]
    exact carry_bind fun _ => rfl
  firstBegins := rfl

namespace Sides

private theorem searchFirst_map (h : s.Mirrors f g s') (ts : List γ) (n : γ) (ns : List γ) :
    s.searchFirst (ts.map f) (f n) (ns.map f) = carry g (Turn.map f) (s'.searchFirst ts n ns) := by
  rw [searchFirst, searchFirst, h.inFirst]
  refine carry_bind fun k => ?_
  simp only [id, ← List.map_drop, ← List.map_take, List.length_map]
  split <;> simp [carry, Turn.map]

private theorem searchSecond_map (h : s.Mirrors f g s') (t : γ) (ts ns : List γ) :
    s.searchSecond (f t) (ts.map f) (ns.map f) =
      carry g (Turn.map f) (s'.searchSecond t ts ns) := by
  rw [searchSecond, searchSecond, h.inSecond]
  refine carry_bind fun k => ?_
  simp only [id, ← List.map_drop, ← List.map_take, List.isEmpty_map]
  split <;> simp [carry, Turn.map]

private theorem compare_map (h : s.Mirrors f g s') (firsts seconds patience : ℕ) (t : γ)
    (ts : List γ) (n : γ) (ns : List γ) :
    s.compare firsts seconds patience (f t) (ts.map f) (f n) (ns.map f) =
      carry g (Prod.map id (Prod.map id (Turn.map f)))
        (s'.compare firsts seconds patience t ts n ns) := by
  rw [compare, compare, h.less]
  refine carry_bind fun b => ?_
  cases b <;> rfl

private theorem search_map (h : s.Mirrors f g s') (inFirst : Bool) (t : γ) (ts : List γ) (n : γ)
    (ns : List γ) :
    s.search inFirst (f t) (ts.map f) (f n) (ns.map f) =
      carry g (Turn.map f) (s'.search inFirst t ts n ns) := by
  cases inFirst with
  | true => exact searchFirst_map h (t :: ts) n ns
  | false => exact searchSecond_map h t ts (n :: ns)

private theorem turn_map (h : s.Mirrors f g s') (mode : Mode) (patience : ℕ) (t : γ) (ts : List γ)
    (n : γ) (ns : List γ) :
    s.turn mode patience (f t) (ts.map f) (f n) (ns.map f) =
      carry g (Prod.map id (Prod.map id (Turn.map f))) (s'.turn mode patience t ts n ns) := by
  cases mode with
  | single firsts seconds => exact compare_map h firsts seconds patience t ts n ns
  | leave => exact compare_map h 0 0 (patience + 1) t ts n ns
  | _ =>
    simp only [turn, h.firstBegins, search_map h]
    exact carry_bind fun _ => rfl

private theorem merge_map (h : s.Mirrors f g s') (fuel : ℕ) (mode : Mode) (patience : ℕ)
    (ts ns : List γ) :
    s.merge fuel mode patience (ts.map f) (ns.map f) =
      carry g (Prod.map (List.map f) id) (s'.merge fuel mode patience ts ns) := by
  induction fuel generalizing mode patience ts ns with
  | zero => simp [merge, carry]
  | succ fuel ih =>
    rcases ts with _ | ⟨t, _ | ⟨u, ts⟩⟩
    · simp [merge, carry]
    · simp [merge, carry]
    rcases ns with _ | ⟨n, ns⟩
    · simp [merge, carry]
    · have hturn := turn_map h mode patience t (u :: ts) n ns
      simp only [List.map_cons] at hturn ⊢
      rw [merge, merge, hturn]
      refine carry_bind fun p => ?_
      simp only [Prod.map, Turn.map, id, ih]
      exact carry_bind fun _ => by simp [carry]

end Sides

private theorem mergeAcross_map (h : Mirrors f g lt lt') (patience : ℕ) (t : γ) (ts : List γ)
    (n : γ) (ns : List γ) :
    mergeAcross lt patience (f t) (ts.map f) (f n) (ns.map f) =
      carry g (Prod.map (List.map f) id) (mergeAcross lt' patience t ts n ns) := by
  rw [mergeAcross, mergeAcross]
  simp only [← List.map_cons, ← List.map_reverse, List.length_map, Sides.merge_map h.forward,
    Sides.merge_map h.backward]
  split
  · exact carry_bind fun _ => rfl
  · exact carry_bind fun _ => by simp [carry]

private theorem mergeRuns_map (h : Mirrors f g lt lt') (patience : ℕ) (ts ns : List γ) :
    mergeRuns lt patience (ts.map f) (ns.map f) =
      carry g (Prod.map (List.map f) id) (mergeRuns lt' patience ts ns) := by
  cases ns with
  | nil => rfl
  | cons n ns =>
    rw [List.map_cons, mergeRuns, mergeRuns, gallop_map h]
    refine carry_bind fun i => ?_
    simp only [id, ← List.map_cons, ← List.map_drop, ← List.map_reverse]
    cases (ts.drop i).reverse with
    | nil => simp [carry]
    | cons t before =>
      rw [List.map_cons (f := f)]
      dsimp only
      rw [gallopBack_map h.notBelow]
      refine carry_bind fun j => ?_
      simp only [id, ← List.map_take]
      cases (n :: ns).take j with
      | nil => simp [carry]
      | cons n' after =>
        rw [List.map_cons (f := f)]
        dsimp only
        rw [mergeAcross_map h]
        exact carry_bind fun _ => by simp [carry]

/-! ### The whole sort -/

private theorem collapse_map (h : Mirrors f g lt lt') (depth : ℕ) (runs : List (List γ × ℕ))
    (run : List γ) (patience : ℕ) :
    collapse lt depth (runs.map (Prod.map (List.map f) id)) (run.map f) patience =
      carry g (Prod.map (List.map (Prod.map (List.map f) id)) (Prod.map (List.map f) id))
        (collapse lt' depth runs run patience) := by
  induction runs generalizing run patience with
  | nil => rfl
  | cons p runs ih =>
    obtain ⟨before, parted⟩ := p
    rw [List.map_cons, Prod.map, collapse, collapse]
    dsimp only [id]
    split
    · rw [mergeRuns_map h]
      exact carry_bind fun merged => ih merged.1 merged.2
    · rfl

private theorem collect_map (h : Mirrors f g lt lt') (total least fuel : ℕ)
    (runs : List (List γ × ℕ)) (run : List γ) (patience : ℕ) (xs : List γ) :
    collect lt total least fuel (runs.map (Prod.map (List.map f) id)) (run.map f) patience
        (xs.map f) =
      carry g (Prod.map (List.map (List.map f)) (Prod.map (List.map f) id))
        (collect lt' total least fuel runs run patience xs) := by
  induction fuel generalizing runs run patience xs with
  | zero => simp [collect, carry]
  | succ fuel ih =>
    cases xs with
    | nil => simp [collect, carry]
    | cons x xs =>
      have hrun := nextRun_map h least (x :: xs)
      rw [List.map_cons] at hrun ⊢
      rw [collect, collect, hrun]
      refine carry_bind fun p => ?_
      simp only [Prod.map, List.length_cons, List.length_map, collapse_map h]
      exact carry_bind fun q => ih ((q.2.1, _) :: q.1) p.1 q.2.2 p.2

private theorem mergeAll_map (h : Mirrors f g lt lt') (fuel : ℕ) (runs : List (List γ))
    (run : List γ) (patience : ℕ) :
    mergeAll lt fuel (runs.map (List.map f)) (run.map f) patience =
      carry g (List.map f) (mergeAll lt' fuel runs run patience) := by
  induction fuel generalizing runs run patience with
  | zero => cases runs <;> rfl
  | succ fuel ih =>
    rcases runs with _ | ⟨run', _ | ⟨run'', runs⟩⟩
    · rfl
    · simp only [List.map_cons, List.map_nil, mergeAll, mergeRuns_map h]
      exact carry_bind fun _ => rfl
    · simp only [List.map_cons, mergeAll, List.length_map, mergeRuns_map h]
      split
      · exact carry_bind fun merged => ih (merged.1 :: runs) run merged.2
      · exact carry_bind fun merged => ih (run'' :: runs) merged.1 merged.2

/-- The images of elements are sorted as the elements are. -/
theorem sort_map (h : Mirrors f g lt lt') (xs : List γ) :
    sort lt (xs.map f) = carry g (List.map f) (sort lt' xs) := by
  rw [sort, sort, List.length_map, nextRun_map h]
  refine carry_bind fun p => ?_
  have hcollect := collect_map h xs.length (leastRun 0 xs.length xs.length) p.2.length [] p.1
    usualPatience p.2
  rw [List.map_nil] at hcollect
  simp only [Prod.map, List.length_map, hcollect]
  exact carry_bind fun q => by simp only [Prod.map, id, List.length_map, mergeAll_map h]

end Images

/-! ### The members of a list -/

section Members

variable {lt lt' : α → α → Except ε Bool} {xs ys : List α}

/-- Two comparisons say the same of the members of a list. -/
def Agree (lt lt' : α → α → Except ε Bool) (xs : List α) : Prop :=
  ∀ x ∈ xs, ∀ y ∈ xs, lt x y = lt' x y

/-- Two comparisons that agree on some members agree on fewer of them. -/
theorem Agree.subset (h : Agree lt lt' xs) (hys : ys ⊆ xs) : Agree lt lt' ys :=
  fun x hx y hy => h x (hys hx) y (hys hy)

/-- A list is sorted as the list of its members is. -/
theorem sort_eq_carry {δ : Type} {g : δ → ε} {lt' : {x // x ∈ xs} → {x // x ∈ xs} → Except δ Bool}
    (h : ∀ x y : {x // x ∈ xs}, lt x y = carry g id (lt' x y)) :
    sort lt xs = carry g (List.map Subtype.val) (sort lt' xs.attach) := by
  have hattach := sort_map h xs.attach
  rwa [List.attach_map_subtype_val] at hattach

/-- A sort depends on what the comparison says of the members of the list. -/
theorem sort_congr (h : Agree lt lt' xs) : sort lt xs = sort lt' xs := by
  have hlt : sort lt xs = _ := sort_eq_carry fun x y => (carry_id (lt x y)).symm
  have hlt' : sort lt' xs = _ :=
    sort_eq_carry fun x y => (h x x.2 y y.2).symm.trans (carry_id (lt x y)).symm
  rw [hlt, hlt']

/-- Where a sort fails, the comparison of two members does, with the same error. -/
theorem exists_of_sort_error {e : ε} (h : sort lt xs = .error e) :
    ∃ x ∈ xs, ∃ y ∈ xs, lt x y = .error e := by
  let δ := {e : ε // ∃ x ∈ xs, ∃ y ∈ xs, lt x y = .error e}
  let lt' (x y : {x // x ∈ xs}) : Except δ Bool :=
    match hlt : lt x y with
    | .ok b => .ok b
    | .error e => .error ⟨e, x, x.2, y, y.2, hlt⟩
  have hmirror (x y : {x // x ∈ xs}) : lt x y = carry Subtype.val id (lt' x y) := by
    simp only [lt']
    split <;> assumption
  rw [sort_eq_carry hmirror] at h
  cases hsort : sort lt' xs.attach with
  | ok ys => simp [hsort, carry] at h
  | error e' =>
    rw [hsort] at h
    cases h
    exact e'.2

end Members

end LedgerTags.Sorting

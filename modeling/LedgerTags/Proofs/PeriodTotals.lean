import LedgerTags.Proofs.CommandRuns
import LedgerTags.Proofs.DecimalSums
import LedgerTags.Proofs.FieldKinds
import LedgerTags.Proofs.PeriodGroups
import LedgerTags.Proofs.RoundTrip

/-!
# Totals of periods

A total is the sum of some amounts, rounded after each of them. It is exact if no sum on the way has
to be rounded (`RunsUp`, `total_of_runsUp`). Every part of some records has its exact total in every
order exactly if no part of the amounts has a sum that has to be rounded (`AddsUp`,
`addsUp_iff_total`), and that is so if all amounts together have 28 digits at most in terms of a
common unit (`addsUp_of_unit`).

So the totals that the command prints for the periods of a file are exact, do not depend on the
order of its lines, and add up from months to years (`group_totals_exact`). Without the condition
the order matters (`total_loses_one`).
-/

namespace LedgerTags

open Decimal Quantity

/-! ### Sums that need no rounding -/

/-- A list of amounts can be summed up from its start without a sum that has to be rounded. -/
def RunsUp (amounts : List ℚ) : Prop := ∀ n, IsRepresentable |(amounts.take n).sum|

/-- No part of some amounts, in whatever order, has a sum that has to be rounded. -/
def AddsUp (amounts : List ℚ) : Prop :=
  ∀ part : List ℚ, part.Subperm amounts → IsRepresentable |part.sum|

section Amounts

variable {amounts amounts' : List ℚ}

private theorem AddsUp.runsUp (h : AddsUp amounts) : RunsUp amounts :=
  fun n => h _ (List.take_sublist n amounts).subperm

private theorem AddsUp.mono (h : AddsUp amounts) (hsub : amounts'.Subperm amounts) :
    AddsUp amounts' :=
  fun _ hpart => h _ (hpart.trans hsub)

private theorem abs_sum_le (amounts : List ℚ) : |amounts.sum| ≤ (amounts.map (|·|)).sum := by
  induction amounts with
  | nil => simp
  | cons a amounts ih =>
    rw [List.sum_cons, List.map_cons, List.sum_cons]
    exact (abs_add_le a amounts.sum).trans (add_le_add_right ih |a|)

private theorem exists_int_sum {u : ℚ} (h : ∀ a ∈ amounts, ∃ k : ℤ, a = k * u) :
    ∃ k : ℤ, amounts.sum = k * u := by
  induction amounts with
  | nil => exact ⟨0, by simp⟩
  | cons a amounts ih =>
    obtain ⟨⟨j, hj⟩, hrest⟩ := List.forall_mem_cons.1 h
    obtain ⟨k, hk⟩ := ih hrest
    exact ⟨j + k, by rw [List.sum_cons, hj, hk]; push_cast; ring⟩

/-- Amounts that are multiples of a unit add up as long as all of them together, whatever their
signs, are less than the unit with 28 more digits. -/
theorem addsUp_of_unit {g : ℤ} (hlow : tinyExponent ≤ g) (hhigh : g + precision ≤ maxExponent + 1)
    (hunit : ∀ a ∈ amounts, ∃ k : ℤ, a = k * 10 ^ g)
    (hsize : (amounts.map (|·|)).sum < 10 ^ (g + precision)) : AddsUp amounts := by
  intro part hpart
  have hten : (0 : ℚ) < 10 ^ g := zpow_pos (by norm_num) g
  obtain ⟨k, hk⟩ := exists_int_sum fun a ha => hunit a (hpart.subset ha)
  have hle : |part.sum| ≤ (amounts.map (|·|)).sum := by
    refine (abs_sum_le part).trans ?_
    obtain ⟨part', hperm, hsub⟩ := hpart
    rw [← (hperm.map _).sum_eq]
    exact (hsub.map _).sum_le_sum (by simp)
  have habs : |part.sum| = k.natAbs * 10 ^ g := by
    rw [hk, abs_mul, abs_of_pos hten, Nat.cast_natAbs, Int.cast_abs]
  have hcount : k.natAbs < 10 ^ precision := by
    have h := hle.trans_lt hsize
    rw [habs, zpow_add₀ (by norm_num), zpow_natCast, mul_comm (10 ^ g)] at h
    exact_mod_cast lt_of_mul_lt_mul_right h hten.le
  refine ⟨k.natAbs, g, habs, hcount, hlow, fun _ => ?_⟩
  have hdigits : digitCount k.natAbs ≤ precision := digitCount_le (by decide) hcount
  have hpos := digitCount_pos k.natAbs
  rw [adjusted]
  omega

end Amounts

/-! ### Amounts of records -/

/-- The exact amount of a transaction, zero if it is not finite. -/
def Transaction.exactAmount (t : Transaction) : ℚ :=
  match t.amount with
  | .decimal (.finite s c e) => signed s (c * 10 ^ e)
  | _ => 0

/-- The amount of a transaction is a finite number. -/
def Transaction.HasFiniteAmount (t : Transaction) : Prop :=
  ∃ s c e, t.amount = .decimal (.finite s c e)

namespace Query

variable {rs : List Record} {r : Record} {x : Decimal} {q : ℚ}

/-- The exact amounts of some records. -/
def amounts (rs : List Record) : List ℚ := rs.map (·.transaction.exactAmount)

private theorem addAmount_of_isRepresentable (hx : x.HasValue q)
    (hr : r.transaction.HasFiniteAmount) (h : IsRepresentable |q + r.transaction.exactAmount|) :
    ∃ y, addAmount x r = .ok y ∧ y.HasValue (q + r.transaction.exactAmount) := by
  obtain ⟨s, c, e, hamount⟩ := hr
  have hexact : r.transaction.exactAmount = signed s (c * 10 ^ e) := by
    rw [Transaction.exactAmount, hamount]
  rw [hexact] at h ⊢
  have hquantity : (Decimal.finite s c e).quantity? = some (ofRat (signed s (c * 10 ^ e))) := rfl
  obtain ⟨y, hy, hvalue⟩ := add_of_isRepresentable hx.quantity hquantity h
  refine ⟨y, ?_, hvalue⟩
  rw [addAmount, hamount]
  show (x.add (.finite s c e)).mapError Error.ofDecimal = _
  rw [hy]
  rfl

private theorem foldlM_addAmount (hx : x.HasValue q) (hrs : ∀ r ∈ rs, r.transaction.HasFiniteAmount)
    (h : ∀ n, IsRepresentable |q + ((amounts rs).take n).sum|) :
    ∃ y, rs.foldlM addAmount x = .ok y ∧ y.HasValue (q + (amounts rs).sum) := by
  induction rs generalizing x q with
  | nil => exact ⟨x, rfl, by simpa [amounts] using hx⟩
  | cons r rs ih =>
    obtain ⟨hr, hrs⟩ := List.forall_mem_cons.1 hrs
    have hfirst := h 1
    simp only [amounts, List.map_cons, List.take_succ_cons, List.take_zero, List.sum_cons,
      List.sum_nil, add_zero] at hfirst
    obtain ⟨y, hy, hvalue⟩ := addAmount_of_isRepresentable hx hr hfirst
    obtain ⟨z, hz, hsum⟩ := ih hvalue hrs fun n => by
      have hnext := h (n + 1)
      rw [amounts, List.map_cons, List.take_succ_cons, List.sum_cons, ← add_assoc] at hnext
      exact hnext
    refine ⟨z, ?_, ?_⟩
    · rw [List.foldlM_cons, hy]
      exact hz
    · rw [amounts, List.map_cons, List.sum_cons, ← add_assoc]
      exact hsum

/-- A total is exact if no sum on the way to it has to be rounded. -/
theorem total_of_runsUp (hrs : ∀ r ∈ rs, r.transaction.HasFiniteAmount)
    (h : RunsUp (amounts rs)) : ∃ x, total rs = .ok x ∧ x.HasValue (amounts rs).sum := by
  have hzero : Decimal.zero.HasValue 0 := ⟨by simp [Decimal.zero, quantity?, signed], rfl⟩
  obtain ⟨x, hx, hvalue⟩ := foldlM_addAmount hzero hrs fun n => by
    rw [zero_add]
    exact h n
  rw [zero_add] at hvalue
  exact ⟨x, hx, hvalue⟩

private theorem total_concat (rs : List Record) (r : Record) :
    total (rs ++ [r]) = total rs >>= fun x => addAmount x r := by
  have hone (x : Decimal) : [r].foldlM addAmount x = addAmount x r := by
    rw [List.foldlM_cons]
    exact bind_pure _
  rw [total, List.foldlM_append]
  simp only [hone]
  rfl

/-- An exact total can be represented. -/
theorem isRepresentable_of_total (hrs : ∀ r ∈ rs, r.transaction.HasFiniteAmount)
    (h : ∀ part, part.Sublist rs → ∃ x, total part = .ok x ∧
      x.quantity? = some (ofRat (amounts part).sum)) : IsRepresentable |(amounts rs).sum| := by
  rcases List.eq_nil_or_concat rs with rfl | ⟨front, r, hconcat⟩
  · exact ⟨0, 0, by simp [amounts], by decide, by decide, fun hne => absurd rfl hne⟩
  · rw [List.concat_eq_append] at hconcat
    subst hconcat
    obtain ⟨x, hx, hquantity⟩ := h _ (List.Sublist.refl _)
    obtain ⟨y, hy, hquantity'⟩ := h _ (List.sublist_append_left front [r])
    obtain ⟨s, c, e, hamount⟩ := hrs r (List.mem_append_right front List.mem_cons_self)
    rw [total_concat, hy, ok_bind, addAmount, hamount] at hx
    have hadd : y.add (.finite s c e) = .ok x := by
      have hmap : (y.add (.finite s c e)).mapError Error.ofDecimal = .ok x := hx
      cases hsum : y.add (.finite s c e) with
      | error fault =>
        rw [hsum] at hmap
        cases hmap
      | ok z =>
        rw [hsum] at hmap
        cases hmap
        rfl
    obtain ⟨q, hq, hrepresentable⟩ := isRepresentable_of_add hquantity' rfl hadd
    rw [hquantity] at hq
    have hsum : (amounts (front ++ [r])).sum = q :=
      WithTop.coe_injective (WithBot.coe_injective (Option.some.inj hq))
    rwa [hsum]

/-- Every part of some records has its exact total in every order, exactly if no part of the amounts
has a sum that has to be rounded. -/
theorem addsUp_iff_total (hrs : ∀ r ∈ rs, r.transaction.HasFiniteAmount) :
    AddsUp (amounts rs) ↔ ∀ part : List Record, part.Subperm rs →
      ∃ x, total part = .ok x ∧ x.quantity? = some (ofRat (amounts part).sum) := by
  constructor
  · intro h part hpart
    have hfinite : ∀ r ∈ part, r.transaction.HasFiniteAmount := fun r hr =>
      hrs r (hpart.subset hr)
    obtain ⟨same, hperm, hsub⟩ := hpart
    have hamounts : (amounts part).Subperm (amounts rs) := ⟨_, hperm.map _, hsub.map _⟩
    obtain ⟨x, hx, hvalue⟩ := total_of_runsUp hfinite (h.mono hamounts).runsUp
    exact ⟨x, hx, hvalue.quantity⟩
  · intro h part hpart
    obtain ⟨same, hperm, hsame⟩ := hpart
    obtain ⟨records, hsub, rfl⟩ := List.sublist_map_iff.1 hsame
    rw [← hperm.sum_eq]
    exact isRepresentable_of_total (fun r hr => hrs r (hsub.subset hr)) fun front hfront =>
      h front (hfront.trans hsub).subperm

/-! ### Amounts of periods -/

/-- The exact amounts of the transactions whose period starts on a day. -/
def amountsAt (b : Bucket) (k : Date) (ts : List Transaction) : List ℚ :=
  (ts.filter fun t => Record.startsOn b .postDate k ⟨0, t⟩).map Transaction.exactAmount

variable {ts us : List Transaction} {b : Bucket} {k : Date}

private theorem map_transaction_number (first : ℕ) (ts : List Transaction) :
    (Record.number first ts).map (·.transaction) = ts := by
  induction ts generalizing first with
  | nil => rfl
  | cons t ts ih => rw [Record.number, List.map_cons, ih]

private theorem amounts_ofList (ts : List Transaction) :
    amounts (Record.ofList ts) = ts.map Transaction.exactAmount := by
  conv_rhs => rw [← map_transaction_number 0 ts, List.map_map]
  rfl

private theorem amounts_groupAt (b : Bucket) (k : Date) (ts : List Transaction) :
    amounts (groupAt b .postDate (Record.ofList ts) k).2 = amountsAt b k ts := by
  have hfilter : ((Record.ofList ts).filter (Record.startsOn b .postDate k)).map (·.transaction) =
      ts.filter fun t => Record.startsOn b .postDate k ⟨0, t⟩ := by
    conv_rhs => rw [← map_transaction_number 0 ts, List.filter_map]
    rfl
  rw [amountsAt, ← hfilter, List.map_map]
  rfl

private theorem amountsAt_perm (h : us.Perm ts) (b : Bucket) (k : Date) :
    (amountsAt b k us).Perm (amountsAt b k ts) := (h.filter _).map _

/-- What falls under one of two conditions that exclude each other. -/
theorem sum_filter_or {α : Type} (f : α → ℚ) {p q : α → Bool} (hnot : ∀ x, p x = true → q x = false)
    (xs : List α) : ((xs.filter fun x => p x || q x).map f).sum =
      ((xs.filter p).map f).sum + ((xs.filter q).map f).sum := by
  induction xs with
  | nil => simp
  | cons x xs ih =>
    cases hp : p x with
    | true => simp [hp, hnot x hp, ih, add_assoc]
    | false =>
      cases hq : q x with
      | true => simp [hp, hq, ih, add_left_comm]
      | false => simp [hp, hq, ih]

/-- What falls under one of some keys, key by key. -/
theorem sum_filter_mem {α : Type} (f : α → ℚ) (key : α → Option Date) (xs : List α) {ks : List Date}
    (hnodup : ks.Nodup) :
    (ks.map fun k => ((xs.filter fun x => decide (key x = some k)).map f).sum).sum =
      ((xs.filter fun x => decide (∃ k ∈ ks, key x = some k)).map f).sum := by
  induction ks with
  | nil => simp
  | cons k ks ih =>
    obtain ⟨hk, hnodup⟩ := List.nodup_cons.1 hnodup
    have hnot : ∀ x, decide (key x = some k) = true →
        decide (∃ j ∈ ks, key x = some j) = false := by
      intro x hx
      rw [decide_eq_false_iff_not]
      rintro ⟨j, hj, hxj⟩
      rw [of_decide_eq_true hx] at hxj
      exact hk (Option.some.inj hxj ▸ hj)
    rw [List.map_cons, List.sum_cons, ih hnodup, ← sum_filter_or f hnot]
    simp

/-- The amounts of the months of a year are those of the year. -/
theorem sum_months {keys : List Date} (hkeys : keys.Nodup)
    (hmem : ∀ k, k ∈ keys ↔ amountsAt .month k ts ≠ []) (y : Date) :
    ((keys.filter fun k => decide (k.firstOfYear = y)).map fun k =>
      (amountsAt .month k ts).sum).sum = (amountsAt .year y ts).sum := by
  let month (t : Transaction) : Option Date :=
    (Record.day? .postDate ⟨0, t⟩).map Bucket.month.start
  have hsum := sum_filter_mem Transaction.exactAmount month ts
    (hkeys.filter fun k => decide (k.firstOfYear = y))
  refine hsum.trans ?_
  rw [amountsAt]
  congr 2
  refine List.filter_congr fun t ht => decide_eq_decide.2 ?_
  show _ ↔ (Record.day? .postDate ⟨0, t⟩).map Bucket.year.start = some y
  cases hday : Record.day? .postDate ⟨0, t⟩ with
  | none => simp [month, hday]
  | some d =>
    have hin : d.firstOfMonth ∈ keys := by
      refine (hmem _).2 (List.ne_nil_of_mem (List.mem_map_of_mem (List.mem_filter.2 ⟨ht, ?_⟩)))
      exact Record.startsOn_of_day? hday .month
    have hyear : d.firstOfMonth.firstOfYear = d.firstOfYear := rfl
    simp [month, hday, hin, hyear]

end Query

/-! ### The command -/

namespace CommandLine

open Json Query

variable {c : Console}

/-- What a file holds was read from mappings. -/
theorem exists_ofMapping_of_readFile {fs : FileSystem} {path : Text} {ts : List Transaction}
    {t : Transaction} (h : readFile fs path = .ok ts) (ht : t ∈ ts) :
    ∃ row, Transaction.ofMapping row = .ok t := by
  obtain ⟨octets, -, h⟩ := bind_eq_ok_iff.1 h
  rw [Interchange.readOctets] at h
  split at h
  · obtain ⟨vs, -, h⟩ := bind_eq_ok_iff.1 h
    split at h
    · cases h
    · obtain ⟨row, -, hrow⟩ := exists_of_mem_mapM h ht
      exact ⟨row, hrow⟩
  · cases h

/-- A command prints the exact totals of the periods of some transactions that have any, in
order. -/
structure PrintsTotals (c : Console) (path : Text) (b : Bucket) (ts : List Transaction)
    (totals : List (Date × Decimal)) : Prop where
  run (config : Option Value) : (perform config (.group path b.toText)).run c =
    (.ok (), { c with output := c.output ++ (totals.map fun p =>
      groupLine (.date p.1) (amountsAt b p.1 ts).length p.2) })
  ascending : totals.Pairwise fun p q => p.1.ordinal < q.1.ordinal
  mem_iff (k : Date) : k ∈ totals.map (·.1) ↔ amountsAt b k ts ≠ []
  hasValue : ∀ p ∈ totals, p.2.HasValue (amountsAt b p.1 ts).sum

section Totals

variable {path : Text} {b : Bucket} {ts : List Transaction}

/-- The total of some records, zero if there is none. -/
def totalOf (rs : List Record) : Decimal :=
  match total rs with
  | .ok x => x
  | .error _ => .zero

private theorem run_groups {groups : List Group} (h : ∀ g ∈ groups, ∃ x, total g.2 = .ok x)
    (c : Console) : (groups.forM fun g => do
      print (groupLine g.1 g.2.length (← orFail (total g.2)))).run c =
      (.ok (), { c with output := c.output ++ (groups.map fun g =>
        groupLine g.1 g.2.length (totalOf g.2)) }) := by
  refine run_forM (fun g hg c => ?_) c
  obtain ⟨x, hx⟩ := h g hg
  have htotal : (orFail (total g.2)).run c = (.ok x, c) := by
    rw [hx]
    rfl
  rw [run_bind htotal, totalOf, hx]
  rfl

/-- The command prints a line for each group of what a file holds. -/
theorem run_group {groups : List Group} (hread : readFile c.files path = .ok ts)
    (hgroup : Query.group (Record.ofList ts) (.text b.toText) (.text Field.postDate.toText) =
      .ok groups)
    (htotals : ∀ g ∈ groups, ∃ x, total g.2 = .ok x) (config : Option Value) :
    (perform config (.group path b.toText)).run c =
      (.ok (), { c with output := c.output ++ (groups.map fun g =>
        groupLine g.1 g.2.length (totalOf g.2)) }) := by
  have hgroups : (orFail (Query.group (Record.ofList ts) (.text b.toText)
      (.text Field.postDate.toText))).run c = (.ok groups, c) := by
    rw [hgroup]
    rfl
  rw [perform, group, run_bind (run_load hread), run_bind hgroups]
  exact run_groups htotals c

private theorem transaction_mem_of_mem_ofList {r : Record} (h : r ∈ Record.ofList ts) :
    r.transaction ∈ ts := by
  rw [← map_transaction_number 0 ts]
  exact List.mem_map_of_mem h

private theorem holdsDay_of_readFile (hread : readFile c.files path = .ok ts) :
    ∀ r ∈ Record.ofList ts, r.HoldsDay .postDate := by
  intro r hr
  obtain ⟨row, hrow⟩ := exists_ofMapping_of_readFile hread (transaction_mem_of_mem_ofList hr)
  exact (Transaction.converted_of_ofMapping hrow).1.postDate

private theorem length_groupAt (k : Date) :
    (groupAt b .postDate (Record.ofList ts) k).2.length = (amountsAt b k ts).length := by
  rw [← amounts_groupAt, amounts, List.length_map]

/-- A group whose amounts can be summed up without rounding has its exact total. -/
theorem total_groupAt {k : Date} (hfinite : ∀ t ∈ ts, t.HasFiniteAmount)
    (hruns : RunsUp (amountsAt b k ts)) :
    ∃ x, total (groupAt b .postDate (Record.ofList ts) k).2 = .ok x ∧
      x.HasValue (amountsAt b k ts).sum := by
  rw [← amounts_groupAt] at hruns ⊢
  exact total_of_runsUp (fun r hr =>
    hfinite _ (transaction_mem_of_mem_ofList (List.mem_of_mem_filter hr))) hruns

/-- If no sum of a period has to be rounded on the way, the totals are exact. -/
theorem exists_printsTotals (hread : readFile c.files path = .ok ts)
    (hfinite : ∀ t ∈ ts, t.HasFiniteAmount) (hruns : ∀ k, RunsUp (amountsAt b k ts)) :
    ∃ totals, PrintsTotals c path b ts totals := by
  obtain ⟨keys, hgroup, hascending, hgrouped⟩ :=
    exists_group_eq (.inl rfl) (holdsDay_of_readFile hread) b
  refine ⟨keys.map fun k => (k, totalOf (groupAt b .postDate (Record.ofList ts) k).2), ?_, ?_, ?_,
    ?_⟩
  · intro config
    have htotals : ∀ g ∈ keys.map (groupAt b .postDate (Record.ofList ts)),
        ∃ x, total g.2 = .ok x := by
      rw [List.forall_mem_map]
      intro k _
      obtain ⟨x, hx, -⟩ := total_groupAt hfinite (hruns k)
      exact ⟨x, hx⟩
    refine (run_group hread hgroup htotals config).trans ?_
    rw [List.map_map, List.map_map]
    simp only [Function.comp_def, length_groupAt]
    rfl
  · rw [List.pairwise_map]
    exact hascending
  · intro k
    have hkeys : (keys.map fun k =>
        (k, totalOf (groupAt b .postDate (Record.ofList ts) k).2)).map (·.1) = keys := by
      rw [List.map_map]
      exact List.map_id keys
    rw [hkeys, hgrouped.2, ← amounts_groupAt, amounts, Ne, List.map_eq_nil_iff, groupAt,
      List.filter_eq_nil_iff]
    simp
  · rw [List.forall_mem_map]
    intro k _
    obtain ⟨x, hx, hvalue⟩ := total_groupAt hfinite (hruns k)
    rwa [totalOf, hx]

private theorem PrintsTotals.nodup {totals : List (Date × Decimal)}
    (h : PrintsTotals c path b ts totals) : (totals.map (·.1)).Nodup := by
  rw [List.Nodup, List.pairwise_map]
  exact h.ascending.imp fun hlt heq => hlt.ne (congrArg Date.ordinal heq)

/-- The same amounts under the same keys have the same totals, whatever their order is. -/
theorem PrintsTotals.same {path' : Text} {ts' : List Transaction}
    {totals totals' : List (Date × Decimal)} (h : PrintsTotals c path b ts totals)
    (h' : PrintsTotals c path' b ts' totals') (hperm : ts'.Perm ts) :
    totals'.map (fun p => (p.1, p.2.quantity?)) = totals.map fun p => (p.1, p.2.quantity?) := by
  have hvalues {path : Text} {ts : List Transaction} {totals : List (Date × Decimal)}
      (h : PrintsTotals c path b ts totals) : totals.map (fun p => (p.1, p.2.quantity?)) =
        (totals.map (·.1)).map fun k => (k, some (ofRat (amountsAt b k ts).sum)) := by
    rw [List.map_map]
    exact List.map_congr_left fun p hp => by rw [(h.hasValue p hp).quantity]; rfl
  have hkeys : totals'.map (·.1) = totals.map (·.1) := by
    have hordered {path : Text} {ts : List Transaction} {totals : List (Date × Decimal)}
        (h : PrintsTotals c path b ts totals) :
        (totals.map (·.1)).Pairwise fun j k => j.ordinal < k.ordinal := by
      rw [List.pairwise_map]
      exact h.ascending
    refine List.Perm.eq_of_pairwise (fun j k _ _ hjk hkj => absurd hkj hjk.asymm) (hordered h')
      (hordered h) ?_
    refine (List.perm_ext_iff_of_nodup h'.nodup h.nodup).2 fun k => ?_
    rw [h'.mem_iff, h.mem_iff, not_iff_not]
    exact ⟨fun hnil => (hnil ▸ amountsAt_perm hperm b k).nil_eq.symm,
      fun hnil => (hnil ▸ amountsAt_perm hperm b k).eq_nil⟩
  rw [hvalues h', hvalues h, hkeys]
  exact List.map_congr_left fun k _ => by rw [(amountsAt_perm hperm b k).sum_eq]

/-- The month of an amount is in the year that starts with the year of the month. -/
theorem amountsAt_month_sublist (k : Date) (ts : List Transaction) :
    (amountsAt .month k ts).Sublist (amountsAt .year k.firstOfYear ts) := by
  refine (List.monotone_filter_right ts fun t ht => ?_).map _
  obtain ⟨d, hd, rfl⟩ := Record.startsOn_iff.1 ht
  exact Record.startsOn_iff.2 ⟨d, hd, rfl⟩

/-- The totals of the months of a year add up to the total of the year. -/
theorem PrintsTotals.exists_months {months years : List (Date × Decimal)}
    (hmonths : PrintsTotals c path .month ts months) (hyears : PrintsTotals c path .year ts years)
    {p : Date × Decimal} (hp : p ∈ years) :
    ∃ parts : List ℚ, p.2.HasValue parts.sum ∧ List.Forall₂ (fun m q => m.2.HasValue q)
      (months.filter fun m => decide (m.1.firstOfYear = p.1)) parts := by
  refine ⟨(months.filter fun m => decide (m.1.firstOfYear = p.1)).map fun m =>
    (amountsAt .month m.1 ts).sum, ?_, ?_⟩
  · have hsum := sum_months hmonths.nodup hmonths.mem_iff p.1
    rw [List.filter_map, List.map_map] at hsum
    have hyear := hyears.hasValue p hp
    rw [← hsum] at hyear
    exact hyear
  · rw [List.forall₂_map_right_iff, List.forall₂_same]
    exact fun m hm => hmonths.hasValue m (List.mem_of_mem_filter hm)

/-- The totals that are printed for the periods of some transactions with finite amounts are exact
if no sum of a period has to be rounded on the way. If that is so for every part of a period, the
order of the transactions does not matter, and the totals of the months add up to those of the
years. -/
theorem group_totals_exact {path' : Text} {ts' : List Transaction}
    (hread : readFile c.files path = .ok ts) (hread' : readFile c.files path' = .ok ts')
    (hperm : ts'.Perm ts) (hfinite : ∀ t ∈ ts, t.HasFiniteAmount) :
    (∀ b, (∀ k, RunsUp (amountsAt b k ts)) → ∃ totals, PrintsTotals c path b ts totals) ∧
    (∀ b, (∀ k, AddsUp (amountsAt b k ts)) → ∃ totals totals', PrintsTotals c path b ts totals ∧
      PrintsTotals c path' b ts' totals' ∧
      totals'.map (fun p => (p.1, p.2.quantity?)) = totals.map fun p => (p.1, p.2.quantity?)) ∧
    ((∀ y, AddsUp (amountsAt .year y ts)) → ∃ months years,
      PrintsTotals c path .month ts months ∧ PrintsTotals c path .year ts years ∧
      ∀ p ∈ years, ∃ parts : List ℚ, p.2.HasValue parts.sum ∧
        List.Forall₂ (fun m q => m.2.HasValue q)
          (months.filter fun m => decide (m.1.firstOfYear = p.1)) parts) := by
  refine ⟨fun b => exists_printsTotals hread hfinite, fun b hadds => ?_, fun hadds => ?_⟩
  · have hfinite' : ∀ t ∈ ts', t.HasFiniteAmount := fun t ht => hfinite t (hperm.subset ht)
    obtain ⟨totals, h⟩ := exists_printsTotals hread hfinite fun k => (hadds k).runsUp
    obtain ⟨totals', h'⟩ := exists_printsTotals (b := b) hread' hfinite' fun k =>
      ((hadds k).mono (amountsAt_perm hperm b k).subperm).runsUp
    exact ⟨totals, totals', h, h', h.same h' hperm⟩
  · obtain ⟨months, hmonths⟩ := exists_printsTotals hread hfinite fun k =>
      ((hadds k.firstOfYear).mono (amountsAt_month_sublist k ts).subperm).runsUp
    obtain ⟨years, hyears⟩ := exists_printsTotals hread hfinite fun y => (hadds y).runsUp
    exact ⟨months, years, hmonths, hyears, fun p hp => hmonths.exists_months hyears hp⟩

end Totals

/-! ### Files of amounts -/

/-- A transaction on a day with an amount. -/
def amountTransaction (p : Date × Decimal) : Transaction where
  bank := .text []
  account := .text []
  postDate := .date p.1
  transactionDate := .date p.1
  amount := .decimal p.2

/-- The fields from which such a transaction is read. -/
def amountFields (p : Date × Decimal) : List (Text × Value) :=
  [("post_date", .text p.1.toText), ("amount", .text p.2.toText)]

/-- A file with a line for each of some amounts. -/
def amountsFile (entries : List (Date × Decimal)) : Entry :=
  .file (Text.Utf8.encode (Text.ended
    (Interchange.layoutLines .lines (entries.map fun p => members (amountFields p)))))

private theorem ofMapping_amountFields {p : Date × Decimal} (hread : p.2.IsReadable)
    (hnan : p.2.isNaN = false) :
    Transaction.ofMapping (members (amountFields p)) = .ok (amountTransaction p) := by
  have hlookup (f : Field) : Value.lookup? f.toText (members (amountFields p)) =
      match f with
      | .postDate => some (.text p.1.toText)
      | .amount => some (.text p.2.toText)
      | _ => none := by cases f <;> rfl
  have htags : Transaction.readTags .null = .ok ∅ := rfl
  have hdate : (Value.text p.1.toText).toDate = .ok (some p.1) :=
    Transaction.toDate_dayText (some p.1)
  have hnone : Value.null.toDate = .ok none := rfl
  have hempty : Transaction.readText .null = .ok (.text []) := rfl
  have hzero : (Value.int 0).toAmount = .ok .zero :=
    Transaction.toAmount_int Transaction.hasNumeral_zero
  simp only [Transaction.ofMapping, Value.lookup, hlookup, Option.getD_some, Option.getD_none,
    htags, hdate, hnone, hempty, hzero, Transaction.toAmount_toText hread hnan, ok_bind]
  rfl

private theorem isDocument_amountFields {p : Date × Decimal} (hnan : p.2.isNaN = false) :
    IsDocument (.dict (members (amountFields p))) := by
  have hnames : (["post_date", "amount"] : List Text).Nodup ∧
      ∀ n ∈ (["post_date", "amount"] : List Text), NoPairs n := by
    decide
  refine .dict hnames.1 (List.forall_mem_map.1 hnames.2) ?_
  simp only [amountFields, List.forall_mem_cons, List.not_mem_nil, false_imp_iff, implies_true,
    and_true]
  exact ⟨.text (noPairs_of_isPlain (DatePattern.isPlain_toText p.1)),
    .text (noPairs_of_isPlain (Decimal.isPlain_toText hnan))⟩

/-- What a file of amounts holds. -/
theorem readFile_amountsFile {fs : FileSystem} {path : Text} {entries : List (Date × Decimal)}
    (hentry : fs.entry path = .ok (amountsFile entries))
    (hread : ∀ p ∈ entries, p.2.IsReadable) (hnan : ∀ p ∈ entries, p.2.isNaN = false) :
    readFile fs path = .ok (entries.map amountTransaction) := by
  have hrows : ∀ row ∈ entries.map fun p => members (amountFields p), IsDocument (.dict row) := by
    rw [List.forall_mem_map]
    exact fun p hp => isDocument_amountFields (hnan p hp)
  have hlines := Interchange.isLine_layoutLines hrows .lines
  have hmapping : (entries.map fun p => members (amountFields p)).mapM Transaction.ofMapping =
      .ok (entries.map amountTransaction) := by
    rw [mapM_eq_ok_iff, List.forall₂_map_left_iff, List.forall₂_map_right_iff, List.forall₂_same]
    exact fun p hp => ofMapping_amountFields (hread p hp) (hnan p hp)
  rw [readFile, FileSystem.read, hentry, amountsFile]
  show Interchange.readOctets path _ = _
  rw [Interchange.readOctets, Text.Utf8.decode?_encode (Interchange.isScalar_ended hlines)]
  dsimp only
  rw [Interchange.unifyNewlines_ended hlines, Interchange.read,
    Interchange.readValues_layoutLines hrows .lines, ok_bind, Interchange.mappings?_objects]
  exact hmapping

private theorem isCalendarDay_lastOfJanuary : IsCalendarDay 2024 1 31 := by decide

/-- The last day of a January. -/
def lastOfJanuary : Date where
  year := 2024
  month := 1
  day := 31
  valid := isCalendarDay_lastOfJanuary

/-- A withdrawal at the end of the January, and a deposit on the next day. -/
def winterAmounts : List (Date × Decimal) :=
  [(lastOfJanuary, .finite true 10 (-2)), (leapFebruary, .finite false 25 (-2))]

/-- Two files with these amounts in both orders. -/
def winterFiles : FileSystem where
  entries := [(["a"], amountsFile winterAmounts), (["b"], amountsFile winterAmounts.reverse)]

/-- A ledger of one winter, in months and in years. -/
theorem group_totals_exact_winter :
    let c : Console := { files := winterFiles }
    let ts := winterAmounts.map amountTransaction
    readFile c.files "a" = .ok ts ∧ readFile c.files "b" = .ok ts.reverse ∧ ts.reverse.Perm ts ∧
    (∀ t ∈ ts, t.HasFiniteAmount) ∧ (∀ y, AddsUp (amountsAt .year y ts)) ∧
    ∃ months years, PrintsTotals c "a" .month ts months ∧ PrintsTotals c "a" .year ts years ∧
      ∀ p ∈ years, ∃ parts : List ℚ, p.2.HasValue parts.sum ∧
        List.Forall₂ (fun m q => m.2.HasValue q)
          (months.filter fun m => decide (m.1.firstOfYear = p.1)) parts := by
  intro c ts
  have hread : ∀ p ∈ winterAmounts, p.2.IsReadable := by
    simp only [winterAmounts, List.forall_mem_cons, List.not_mem_nil, false_imp_iff, implies_true,
      and_true]
    exact ⟨rfl, rfl⟩
  have hnan : ∀ p ∈ winterAmounts, p.2.isNaN = false := by decide
  have ha : readFile c.files "a" = .ok ts := readFile_amountsFile (by rfl) hread hnan
  have hb : readFile c.files "b" = .ok ts.reverse := by
    rw [← List.map_reverse]
    exact readFile_amountsFile (by rfl) (fun p hp => hread p (List.mem_reverse.1 hp))
      fun p hp => hnan p (List.mem_reverse.1 hp)
  have hfinite : ∀ t ∈ ts, t.HasFiniteAmount := by
    simp only [ts, winterAmounts, List.map_cons, List.map_nil, List.forall_mem_cons,
      List.not_mem_nil, false_imp_iff, implies_true, and_true]
    exact ⟨⟨_, _, _, rfl⟩, _, _, _, rfl⟩
  have hall : AddsUp (ts.map Transaction.exactAmount) := by
    have hamounts : ts.map Transaction.exactAmount = [-1 / 10, 1 / 4] := by
      simp only [ts, winterAmounts, List.map_cons, List.map_nil, Transaction.exactAmount,
        amountTransaction, signed]
      norm_num
    rw [hamounts]
    refine addsUp_of_unit (g := -2) (by decide) (by decide) ?_ ?_
    · simp only [List.forall_mem_cons, List.not_mem_nil, false_imp_iff, implies_true, and_true]
      exact ⟨⟨-10, by norm_num⟩, 25, by norm_num⟩
    · norm_num [precision, abs_of_pos, abs_of_neg]
  have hadds : ∀ y, AddsUp (amountsAt .year y ts) := fun y =>
    hall.mono (List.filter_sublist.map _).subperm
  have hperm : ts.reverse.Perm ts := List.reverse_perm ts
  exact ⟨ha, hb, hperm, hfinite, hadds, (group_totals_exact ha hb hperm hfinite).2.2 hadds⟩

/-- Amounts whose sum is one. -/
def longAmounts : List (Date × Decimal) :=
  [(leapFebruary, .finite false (Nat.pow 10 28) 0), (leapFebruary, .finite false 1 0),
    (leapFebruary, .finite true (Nat.pow 10 28) 0)]

/-- The sum of 29 digits on the way to the total is rounded, and the total is zero; in another order
it is one. -/
theorem total_loses_one :
    let rs := Record.ofList (longAmounts.map amountTransaction)
    let rs' := Record.ofList (longAmounts.reverse.map amountTransaction)
    (amounts rs).sum = 1 ∧ total rs = .ok (.finite false 0 0) ∧
      (amounts rs').sum = 1 ∧ total rs' = .ok (.finite false 1 0) := by
  refine ⟨?_, by rfl, ?_, by rfl⟩
  · rw [amounts_ofList]
    norm_num [longAmounts, amountTransaction, Transaction.exactAmount, signed]
  · rw [amounts_ofList]
    norm_num [longAmounts, amountTransaction, Transaction.exactAmount, signed]

end CommandLine

end LedgerTags

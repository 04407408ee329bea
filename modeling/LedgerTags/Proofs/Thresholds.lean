import LedgerTags.Proofs.Filtering
import LedgerTags.Proofs.Interruption

/-!
# Tags of small and of large amounts

Whether an amount is small or large is a question about its size, which is rounded, while a range of
amounts looks at the amount itself. For amounts whose size can be represented the two agree, and no
call fails at them (`tags_iff_magnitude`). For any other there is a limit at which they do not,
unless its size has no result at all (`isRepresentable_iff_passes`): a size a little above a limit
can be rounded to it, and one above the highest place has no result (`small_beyond_limit`).
-/

namespace LedgerTags

private theorem Quantity.ofRat_le {p q : ℚ} : ofRat p ≤ ofRat q ↔ p ≤ q := by
  rw [ofRat, ofRat, WithBot.coe_le_coe, WithTop.coe_le_coe]

/-! ### The size of an amount -/

namespace Call

variable {k : Call} {t u : Transaction} {x : Decimal} {q : ℚ}

/-- An amount passes a test if its size, as it is computed, stands in the relation to the limit. -/
theorem passes_iff_relates {op : Comparison} {limit : Decimal} {size : Value} {p p' : Quantity}
    (hsize : t.amount.magnitude = .ok size) (hp : size.quantity? = some p)
    (hlimit : limit.quantity? = some p') : Passes op limit t ↔ op.Relates p p' := by
  obtain ⟨b, hb, hiff⟩ := Value.test_of_quantity? op (w := .decimal limit) hp hlimit
  rw [← hiff]
  constructor
  · rintro ⟨size', hsize', htest⟩
    obtain rfl := Except.ok.inj (hsize.symm.trans hsize')
    exact Except.ok.inj (hb.symm.trans htest)
  · rintro rfl
    exact ⟨size, hsize, hb⟩

/-- An amount whose size can be represented has this size. -/
theorem exists_magnitude (hamount : t.amount = .decimal x)
    (hx : x.quantity? = some (Quantity.ofRat q)) (hq : Decimal.IsRepresentable |q|) :
    ∃ size, t.amount.magnitude = .ok size ∧ size.quantity? = some (Quantity.ofRat |q|) := by
  obtain ⟨y, hy, hvalue⟩ := Decimal.abs_of_isRepresentable hx hq
  exact ⟨.decimal y, by rw [hamount, Value.magnitude, hy], hvalue⟩

private theorem isRepresentable_of_magnitude {size : Value} (hamount : t.amount = .decimal x)
    (hx : x.quantity? = some (Quantity.ofRat q)) (hsize : t.amount.magnitude = .ok size) :
    ∃ y p, size = .decimal y ∧ y.quantity? = some (Quantity.ofRat p) ∧ 0 ≤ p ∧
      Decimal.IsRepresentable p := by
  rw [hamount, Value.magnitude] at hsize
  cases hy : x.abs with
  | error f => cases f <;> rw [hy] at hsize <;> cases hsize
  | ok y =>
    rw [hy] at hsize
    obtain ⟨p, hp⟩ := Decimal.isRepresentable_of_abs hx hy
    exact ⟨y, p, (Except.ok.inj hsize).symm, hp⟩

/-- The size of an amount can be represented exactly if it is computed without an error and the
tests for the limits, whatever they are, are those of the exact size. -/
theorem isRepresentable_iff_passes (hamount : t.amount = .decimal x)
    (hx : x.quantity? = some (Quantity.ofRat q)) :
    Decimal.IsRepresentable |q| ↔ (∃ size, t.amount.magnitude = .ok size) ∧
      ∀ (limit : Decimal) (m : ℚ), limit.quantity? = some (Quantity.ofRat m) → 0 ≤ m →
        (Passes .le limit t ↔ |q| ≤ m) := by
  constructor
  · intro hq
    obtain ⟨size, hsize, hvalue⟩ := exists_magnitude hamount hx hq
    refine ⟨⟨size, hsize⟩, fun limit m hm _ => ?_⟩
    rw [passes_iff_relates hsize hvalue hm, Comparison.Relates, Quantity.ofRat_le]
  · rintro ⟨⟨size, hsize⟩, hpasses⟩
    obtain ⟨y, p, rfl, hp, hp0, hrepresentable⟩ := isRepresentable_of_magnitude hamount hx hsize
    obtain ⟨s, c, e, rfl, habs⟩ := Decimal.eq_finite_of_quantity? hx
    have hexact : (Decimal.finite false c e).quantity? = some (Quantity.ofRat |q|) := by
      rw [habs]
      rfl
    -- The limits that tell the two sizes apart are these sizes.
    have hle : |q| ≤ p := by
      rw [← hpasses y p hp hp0, passes_iff_relates hsize hp hp]
      exact le_refl _
    have hge : p ≤ |q| := by
      have hself := (hpasses _ |q| hexact (abs_nonneg q)).2 le_rfl
      rw [passes_iff_relates hsize hp hexact] at hself
      exact Quantity.ofRat_le.1 hself
    rwa [le_antisymm hle hge]

end Call

/-! ### The range between a limit and its negative -/

/-- The criterion of a range of finite numbers. -/
theorem Criterion.ofAmount_range {v lo hi : Value} {x y : Decimal} {a b : ℚ}
    (hv : v.sequence? = some [lo, hi]) (hlo : isBound lo = true) (hhi : isBound hi = true)
    (hx : lo.toAmount = .ok x) (hy : hi.toAmount = .ok y)
    (ha : x.quantity? = some (Quantity.ofRat a)) (hb : y.quantity? = some (Quantity.ofRat b))
    (h : a ≤ b) :
    ofAmount (.value v) = .ok (.inRange .amount (.decimal x) (.decimal y)) := by
  have hfinite {z : Decimal} {c : ℚ} (hz : z.quantity? = some (Quantity.ofRat c)) :
      z.isFinite = true := by
    obtain ⟨s, c, e, rfl, -⟩ := Decimal.eq_finite_of_quantity? hz
    rfl
  obtain ⟨o, ho, hcompares⟩ := Decimal.compare?_compares ha hb
  have hordered : (Decimal.compare? x y == some .gt) = false := by
    rw [ho, beq_eq_false_iff_ne]
    intro hgt
    obtain rfl := Option.some.inj hgt
    exact absurd (Quantity.ofRat_lt.1 hcompares) (not_lt.2 h)
  have hbounds : ofAmounts v lo hi = .ok (.inRange .amount (.decimal x) (.decimal y)) := by
    rw [ofAmounts, hx, hy, ok_bind, ok_bind, hfinite ha, hfinite hb, hordered]
    rfl
  unfold ofAmount
  split
  · next heq => cases heq
  · next heq =>
    cases heq
    cases hv
  · next heq =>
    cases heq
    rw [hv]
    dsimp only
    rw [hlo, hhi]
    exact hbounds

namespace Query

/-- The range from the negative of a limit to the limit keeps the amounts whose size is up to the
limit. -/
theorem byAmount_size {r : Record} {q m : ℚ} {lo hi : Decimal}
    (hq : r.transaction.amount.quantity? = some (Quantity.ofRat q))
    (hlo : lo.quantity? = some (Quantity.ofRat (-m)))
    (hhi : hi.quantity? = some (Quantity.ofRat m)) (hm : 0 ≤ m) :
    byAmount [r] (.tuple [.decimal lo, .decimal hi]) = .ok (if |q| ≤ m then [r] else []) := by
  have hrange : Criterion.ofAmount (.value (.tuple [.decimal lo, .decimal hi])) =
      .ok (.inRange .amount (.decimal lo) (.decimal hi)) :=
    Criterion.ofAmount_range rfl rfl rfl rfl rfl hlo hhi (neg_le_self hm)
  obtain ⟨b, hb, hiff⟩ := Criterion.decides_inRange hq hlo hhi
  rw [Quantity.ofRat_le, Quantity.ofRat_le, ← abs_le] at hiff
  have hall : ∀ s ∈ [r], Criterion.testAll s.transaction
      [.inRange .amount (.decimal lo) (.decimal hi)] = .ok (b : Bool) := by
    intro s hs
    obtain rfl := List.mem_singleton.1 hs
    rw [Criterion.testAll, hb, ok_bind]
    cases b <;> rfl
  rw [byAmount_eq_select _ hrange, select_eq_filter hall]
  cases b with
  | false => rw [if_neg (fun hle => Bool.false_ne_true (hiff.2 hle))]; rfl
  | true => rw [if_pos (hiff.1 rfl)]; rfl

end Query

/-! ### Calls -/

/-- A transaction with a description, and with an amount of the value `q` whose size can be
represented. -/
structure Transaction.IsSized (t : Transaction) (q : ℚ) : Prop where
  description : ∃ s, t.description.orElse (.text []) = .text s
  amount : ∃ x, t.amount = .decimal x ∧ x.quantity? = some (Quantity.ofRat q)
  size : Decimal.IsRepresentable |q|

namespace Call

variable {k : Call} {t : Transaction} {q m M : ℚ}

private theorem succeeds_of_isSized (ht : t.IsSized q)
    (hsmall : k.categorizer.smallLimit.quantity? = some (Quantity.ofRat m))
    (hlarge : k.categorizer.largeLimit.quantity? = some (Quantity.ofRat M)) : k.Succeeds t := by
  obtain ⟨s, hs⟩ := ht.description
  obtain ⟨x, hamount, hx⟩ := ht.amount
  obtain ⟨size, hsize, hvalue⟩ := exists_magnitude hamount hx ht.size
  exact succeeds_of_compares hs hsize (compares_of_quantity? .le hvalue hsmall)
    (compares_of_quantity? .ge hvalue hlarge)

private theorem gives_smallTag_iff (ht : t.IsSized q)
    (hsmall : k.categorizer.smallLimit.quantity? = some (Quantity.ofRat m)) :
    k.Gives t Categorizer.smallTag ↔
      (∃ r, k.Wins t r ∧ Categorizer.smallTag ∈ r.tags) ∨ k.limits.small = true ∧ |q| ≤ m := by
  obtain ⟨x, hamount, hx⟩ := ht.amount
  obtain ⟨size, hsize, hvalue⟩ := exists_magnitude hamount hx ht.size
  have hne : Categorizer.smallTag ≠ Categorizer.largeTag := by decide
  simp only [Gives, passes_iff_relates hsize hvalue hsmall, Comparison.Relates, Quantity.ofRat_le,
    hne, true_and, false_and, or_false]

private theorem gives_largeTag_iff (ht : t.IsSized q)
    (hlarge : k.categorizer.largeLimit.quantity? = some (Quantity.ofRat M)) :
    k.Gives t Categorizer.largeTag ↔
      (∃ r, k.Wins t r ∧ Categorizer.largeTag ∈ r.tags) ∨ k.limits.large = true ∧ M ≤ |q| := by
  obtain ⟨x, hamount, hx⟩ := ht.amount
  obtain ⟨size, hsize, hvalue⟩ := exists_magnitude hamount hx ht.size
  have hne : Categorizer.largeTag ≠ Categorizer.smallTag := by decide
  simp only [Gives, passes_iff_relates hsize hvalue hlarge, Comparison.Relates, Quantity.ofRat_le,
    hne, true_and, false_and, false_or]

end Call

/-- A call does not fail at amounts whose sizes can be represented. It gives the tag of small
amounts exactly to those whose size is up to the limit, which are the ones in the range between the
limit and its negative, and the tag of large amounts exactly to those whose size is at least the
other limit. -/
theorem tags_iff_magnitude {k : Call} {l : Ledger} {m M : ℚ}
    (hsmall : k.categorizer.smallLimit.quantity? = some (Quantity.ofRat m)) (hm : 0 ≤ m)
    (hlarge : k.categorizer.largeLimit.quantity? = some (Quantity.ofRat M))
    (hrecords : ∀ id ∈ k.ids, ∃ t q, l.get? id = some t ∧ t.IsSized q) :
    ∃ l' a, k.categorizer.annotate k.limits k.ids l = (l', .ok a) ∧
      ∀ id ∈ k.ids, ∀ t q, l.get? id = some t → t.IsSized q → ∃ u, l'.get? id = some u ∧
        (Categorizer.smallTag ∈ u.tags ↔ Categorizer.smallTag ∈ t.tags ∨
          (∃ r, k.Wins t r ∧ Categorizer.smallTag ∈ r.tags) ∨ k.limits.small = true ∧ |q| ≤ m) ∧
        (Categorizer.largeTag ∈ u.tags ↔ Categorizer.largeTag ∈ t.tags ∨
          (∃ r, k.Wins t r ∧ Categorizer.largeTag ∈ r.tags) ∨ k.limits.large = true ∧ M ≤ |q|) ∧
        ∀ lo : Decimal, lo.quantity? = some (Quantity.ofRat (-m)) →
          Query.byAmount [⟨id, t⟩] (.tuple [.decimal lo, .decimal k.categorizer.smallLimit]) =
            .ok (if |q| ≤ m then [⟨id, t⟩] else []) := by
  have hsucceeds : ∀ id ∈ k.ids, ∀ t, l.get? id = some t → k.Succeeds t := by
    intro id hid t ht
    obtain ⟨t', q, ht', hsized⟩ := hrecords id hid
    obtain rfl := Option.some.inj (ht.symm.trans ht')
    exact Call.succeeds_of_isSized hsized hsmall hlarge
  obtain ⟨l', a, hrun⟩ := exists_annotate_iff.2 hsucceeds
  refine ⟨l', a, hrun, fun id hid t q ht hsized => ?_⟩
  obtain ⟨u, hu, hannotated⟩ := (annotated_of_annotate ⟨a, hrun⟩).2 id t ht
  rw [if_pos hid] at hannotated
  have htags (x : Text) : x ∈ u.tags ↔ x ∈ t.tags ∨ k.Gives t x := by
    simp only [hannotated.tags, List.mem_singleton, exists_eq_left]
  obtain ⟨x, hamount, hx⟩ := hsized.amount
  have hquantity : t.amount.quantity? = some (Quantity.ofRat q) := by rw [hamount]; exact hx
  exact ⟨u, hu, by rw [htags, Call.gives_smallTag_iff hsized hsmall],
    by rw [htags, Call.gives_largeTag_iff hsized hlarge],
    fun lo hlo => Query.byAmount_size hquantity hlo hsmall hm⟩

/-- A finite decimal stands for its signed value. -/
theorem Decimal.quantity?_finite {s : Bool} {c : ℕ} {e : ℤ} {q : ℚ}
    (h : Quantity.signed s (c * 10 ^ e) = q) :
    (Decimal.finite s c e).quantity? = some (Quantity.ofRat q) := by
  rw [Decimal.quantity?, h]

/-- The small limit of the batch is one. -/
theorem quantity?_smallLimit_batchCall :
    batchCall.categorizer.smallLimit.quantity? = some (Quantity.ofRat 1) :=
  Decimal.quantity?_finite (by norm_num [Quantity.signed])

/-- One withdrawn, and a thousand: amounts at the limits. -/
def boundaryLedger : Ledger where
  transactions :=
    [batchTransaction "Bread" (.finite true 100 (-2)), batchTransaction "Rent" (.finite false 1 3)]

private theorem isSized_batchTransaction {description : Text} {s : Bool} {c : ℕ} {e : ℤ} {q : ℚ}
    (h : Quantity.signed s (c * 10 ^ e) = q) (hq : Decimal.IsRepresentable |q|) :
    (batchTransaction description (.finite s c e)).IsSized q := by
  refine ⟨?_, ⟨_, rfl, Decimal.quantity?_finite h⟩, hq⟩
  cases description
  · exact ⟨[], rfl⟩
  · exact ⟨_, rfl⟩

/-- Amounts right at the two limits get their tags. -/
theorem tags_iff_magnitude_boundary :
    (∀ id ∈ batchCall.ids, ∃ t q, boundaryLedger.get? id = some t ∧ t.IsSized q) ∧
    ∃ l' a u v, batchCall.categorizer.annotate batchCall.limits batchCall.ids boundaryLedger =
        (l', .ok a) ∧
      l'.get? 0 = some u ∧ Categorizer.smallTag ∈ u.tags ∧
      l'.get? 1 = some v ∧ Categorizer.largeTag ∈ v.tags := by
  have hbread : (batchTransaction "Bread" (.finite true 100 (-2))).IsSized (-1) := by
    refine isSized_batchTransaction (by norm_num [Quantity.signed]) ⟨1, 0, by norm_num, ?_⟩
    decide
  have hrent : (batchTransaction "Rent" (.finite false 1 3)).IsSized 1000 := by
    refine isSized_batchTransaction (by norm_num [Quantity.signed]) ⟨1, 3, by norm_num, ?_⟩
    decide
  have hrecords : ∀ id ∈ batchCall.ids, ∃ t q, boundaryLedger.get? id = some t ∧ t.IsSized q := by
    intro id hid
    rcases List.mem_pair.1 hid with rfl | rfl
    · exact ⟨_, _, rfl, hbread⟩
    · exact ⟨_, _, rfl, hrent⟩
  have hlarge : batchCall.categorizer.largeLimit.quantity? = some (Quantity.ofRat 1000) :=
    Decimal.quantity?_finite (by norm_num [Quantity.signed])
  obtain ⟨l', a, hrun, htags⟩ :=
    tags_iff_magnitude quantity?_smallLimit_batchCall zero_le_one hlarge hrecords
  obtain ⟨u, hu, hmicro, -, -⟩ := htags 0 List.mem_cons_self _ _ rfl hbread
  obtain ⟨v, hv, -, hmacro, -⟩ := htags 1 (List.mem_of_mem_tail List.mem_cons_self) _ _ rfl hrent
  refine ⟨hrecords, l', a, u, v, hrun, hu, hmicro.2 (.inr (.inr ⟨rfl, ?_⟩)), hv,
    hmacro.2 (.inr (.inr ⟨rfl, ?_⟩))⟩
  · norm_num
  · norm_num

/-- A little more than one, with thirty digits. -/
def overOne : Transaction :=
  batchTransaction "Bread" (.finite false 100000000000000000000000000001 (-29))

/-- An amount above the highest place. -/
def beyondRange : Transaction := batchTransaction "Rent" (.finite false 1 1000000)

/-- The size of the amount is rounded to the limit, so that the amount is tagged as a small one; but
it lies beyond the limit, and the range does not keep it. An amount above the highest place has no
size. -/
theorem small_beyond_limit :
    (∃ q, overOne.amount.quantity? = some (Quantity.ofRat q) ∧ 1 < q) ∧
    (∃ l' a u, batchCall.categorizer.annotate {} [0] ⟨[overOne]⟩ = (l', .ok a) ∧
      l'.get? 0 = some u ∧ u.tags.toList = ["micro"]) ∧
    Query.byAmount [⟨0, overOne⟩]
      (.tuple [.decimal (.finite true 100 (-2)), .decimal batchCall.categorizer.smallLimit]) =
        .ok [] ∧
    ∃ l', batchCall.categorizer.annotate {} [0] ⟨[beyondRange]⟩ =
      (l', .error .decimalOverflow) := by
  refine ⟨⟨_, rfl, ?_⟩, ⟨_, _, _, rfl, rfl, rfl⟩, rfl, ⟨_, rfl⟩⟩
  norm_num [Quantity.signed]

end LedgerTags

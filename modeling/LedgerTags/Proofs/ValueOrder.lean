import LedgerTags.Proofs.Criteria
import LedgerTags.Proofs.Ordinals
import LedgerTags.Proofs.Sameness
import LedgerTags.Text.Order

/-!
# Values that `<` puts in order

Values can be sorted by `<` if it is a total preorder on them (`Value.IsPreordered`). Texts are, and
so are dates, and numbers other than NaN. How many of the values are below a value is then a rank of
it (`IsPreordered.exists_rank`), and equal values are not below each other (`test_lt_of_same`), so
that asking for equality first changes nothing.
-/

namespace LedgerTags

namespace Value

/-- Values can be compared by `==` and `<`, and `<` is a total preorder on them: of two values one
is not below the other, and a value is not below those that another one is not below, if it is not
below that one itself. -/
structure IsPreordered (vs : List Value) : Prop where
  exists_same : ∀ v ∈ vs, ∀ w ∈ vs, ∃ b, same v w = .ok b
  exists_test : ∀ v ∈ vs, ∀ w ∈ vs, ∃ b, test .lt v w = .ok b
  asymm : ∀ v ∈ vs, ∀ w ∈ vs, test .lt v w = .ok true → test .lt w v = .ok false
  trans : ∀ u ∈ vs, ∀ v ∈ vs, ∀ w ∈ vs,
    test .lt u v = .ok false → test .lt v w = .ok false → test .lt u w = .ok false

/-- Among the values `<` is the order of the ranks. -/
def IsRank {β : Type} [LinearOrder β] (rank : Value → β) (vs : List Value) : Prop :=
  ∀ v ∈ vs, ∀ w ∈ vs, test .lt v w = .ok (decide (rank v < rank w))

variable {vs ws : List Value} {v w : Value} {b : Bool}

/-- Fewer values are preordered too. -/
theorem IsPreordered.subset (h : IsPreordered vs) (hws : ws ⊆ vs) : IsPreordered ws where
  exists_same v hv w hw := h.exists_same v (hws hv) w (hws hw)
  exists_test v hv w hw := h.exists_test v (hws hv) w (hws hw)
  asymm v hv w hw := h.asymm v (hws hv) w (hws hw)
  trans u hu v hv w hw := h.trans u (hws hu) v (hws hv) w (hws hw)

/-! ### Equal values -/

/-- Null equals null. -/
theorem same_null : same .null .null = .ok true := by rw [same]

private theorem testLists_lt_of_sameList (hsame : sameList vs ws = .ok true)
    (h : testLists .lt vs ws = .ok b) : b = false := by
  induction vs generalizing ws with
  | nil =>
    cases ws with
    | nil =>
      rw [testLists] at h
      exact (Except.ok.inj h).symm
    | cons w ws => simp [sameList] at hsame
  | cons v vs ih =>
    cases ws with
    | nil => simp [sameList] at hsame
    | cons w ws =>
      rw [sameList] at hsame
      obtain ⟨s, hs, hsame⟩ := bind_eq_ok_iff.1 hsame
      rw [testLists, hs, ok_bind] at h
      cases s with
      | false => cases hsame
      | true => exact ih hsame h

private theorem testSets_lt_of_length (h : vs.length = ws.length) : testSets .lt vs ws = false := by
  simp [testSets, h]

/-- Equal numbers are not below each other, however they are compared. -/
theorem test_lt_of_sameNumber {x y : Decimal} (hv : v.number? = some x) (hw : w.number? = some y)
    (hsame : sameNumber x y = .ok true) (h : test .lt v w = .ok b) : b = false := by
  have heq : Decimal.compare? x y = some .eq := by
    rw [sameNumber, Decimal.equal] at hsame
    split at hsame
    · cases hsame
    · exact beq_iff_eq.1 (Except.ok.inj hsame)
  have hnumbers : testNumbers .lt x y = false := by rw [testNumbers, heq]; rfl
  have hdecimals : testDecimals .lt x y = .ok false := by
    rw [testDecimals, Decimal.order, heq]
    rfl
  rw [test_of_number? .lt hv hw, hnumbers, hdecimals, ite_self] at h
  exact (Except.ok.inj h).symm

/-- Of two equal values none is below the other. -/
theorem test_lt_of_same (hsame : same v w = .ok true) (h : test .lt v w = .ok b) : b = false := by
  rw [same.eq_def] at hsame
  split at hsame
  case h_2 s t =>
    obtain rfl : s = t := of_decide_eq_true (Except.ok.inj hsame)
    simpa [test, compareTexts, Comparison.holds] using h
  case h_3 s t =>
    obtain rfl : s = t := of_decide_eq_true (Except.ok.inj hsame)
    simpa [test, compareOctets, compareTexts, Comparison.holds] using h
  case h_4 d e =>
    obtain rfl : d = e := of_decide_eq_true (Except.ok.inj hsame)
    simpa [test, Date.compare, Comparison.holds] using h
  case h_5 s t =>
    have heq : s.compare? t = some .eq := beq_iff_eq.1 (Except.ok.inj hsame)
    simpa [test, heq, Comparison.holds] using h
  case h_6 s t =>
    obtain rfl : s = t := of_decide_eq_true (Except.ok.inj hsame)
    simpa [test, Comparison.holds] using h
  case h_7 =>
    rw [test] at h
    exact testLists_lt_of_sameList hsame h
  case h_8 =>
    rw [test] at h
    exact testLists_lt_of_sameList hsame h
  case h_9 | h_10 | h_11 | h_12 =>
    split at hsame
    · next hlength => simpa [test, testSets_lt_of_length hlength] using h
    · cases hsame
  case h_16 =>
    split at hsame
    · next hv hw => exact test_lt_of_sameNumber hv hw hsame h
    · cases hsame
  -- The others cannot be compared.
  all_goals
    rw [test.eq_def] at h
    cases h

/-! ### Ranks -/

/-- Whether `<` puts a value below another. -/
def isBelow (v w : Value) : Bool := (test .lt v w).toOption.getD false

private theorem test_lt_eq_isBelow (h : ∃ b, test .lt v w = .ok b) :
    test .lt v w = .ok (isBelow v w) := by
  obtain ⟨b, hb⟩ := h
  rw [isBelow, hb]
  rfl

/-- The number of the values that are below a value is a rank of it. -/
theorem IsPreordered.exists_rank (h : IsPreordered vs) : ∃ rank : Value → ℤ, IsRank rank vs := by
  refine ⟨fun v => (vs.filter (isBelow · v)).length, fun v hv w hw => ?_⟩
  have htest : ∀ u ∈ vs, ∀ u' ∈ vs, test .lt u u' = .ok (isBelow u u') := fun u hu u' hu' =>
    test_lt_eq_isBelow (h.exists_test u hu u' hu')
  have hasymm : ∀ u ∈ vs, ∀ u' ∈ vs, isBelow u u' = true → isBelow u' u = false := by
    intro u hu u' hu' hbelow
    have hback := h.asymm u hu u' hu' (by rw [htest u hu u' hu', hbelow])
    exact Except.ok.inj ((htest u' hu' u hu).symm.trans hback)
  have htrans : ∀ u ∈ vs, ∀ u' ∈ vs, ∀ u'' ∈ vs,
      isBelow u u' = false → isBelow u' u'' = false → isBelow u u'' = false := by
    intro u hu u' hu' u'' hu'' hfirst hsecond
    have hthird := h.trans u hu u' hu' u'' hu'' (by rw [htest u hu u' hu', hfirst])
      (by rw [htest u' hu' u'' hu'', hsecond])
    exact Except.ok.inj ((htest u hu u'' hu'').symm.trans hthird)
  -- What is below a value is below those that are not below it.
  have hmono : ∀ u ∈ vs, ∀ u' ∈ vs, isBelow u' u = false →
      (vs.filter (isBelow · u)).Sublist (vs.filter (isBelow · u')) := by
    intro u hu u' hu' hnot
    have himp : ∀ x ∈ vs.filter (isBelow · u), isBelow x u' = true := by
      intro x hx
      obtain ⟨hx, hbelow⟩ := List.mem_filter.1 hx
      by_contra hne
      have hnone := htrans x hx u' hu' u hu (Bool.not_eq_true _ ▸ hne) hnot
      simp [hbelow] at hnone
    have hself : (vs.filter (isBelow · u)).filter (isBelow · u') = vs.filter (isBelow · u) :=
      List.filter_eq_self.2 himp
    rw [← hself]
    exact List.filter_sublist.filter _
  rw [htest v hv w hw]
  cases hbelow : isBelow v w with
  | true =>
    have hle := hmono v hv w hw (hasymm v hv w hw hbelow)
    have hne : (vs.filter (isBelow · v)).length ≠ (vs.filter (isBelow · w)).length := by
      intro hlength
      -- The value itself is below the other one and not below itself.
      have hmem : v ∈ vs.filter (isBelow · w) := List.mem_filter.2 ⟨hv, hbelow⟩
      rw [← hle.eq_of_length hlength] at hmem
      have hself := (List.mem_filter.1 hmem).2
      simp [hasymm v hv v hv hself] at hself
    have hlt := hle.length_le.lt_of_ne hne
    simpa using hlt
  | false =>
    have hle := (hmono w hw v hv hbelow).length_le
    simpa using hle

/-! ### Values of one kind -/

/-- A rank of the values preorders them, if equality of them can be asked for. -/
theorem IsRank.isPreordered {β : Type} [LinearOrder β] {rank : Value → β} (h : IsRank rank vs)
    (hsame : ∀ v ∈ vs, ∀ w ∈ vs, ∃ b, same v w = .ok b) : IsPreordered vs where
  exists_same := hsame
  exists_test v hv w hw := ⟨_, h v hv w hw⟩
  asymm v hv w hw hlt := by
    rw [h v hv w hw, Except.ok.injEq, decide_eq_true_iff] at hlt
    rw [h w hw v hv, decide_eq_false hlt.asymm]
  trans u hu v hv w hw huv hvw := by
    rw [h u hu v hv, Except.ok.injEq, decide_eq_false_iff_not, not_lt] at huv
    rw [h v hv w hw, Except.ok.injEq, decide_eq_false_iff_not, not_lt] at hvw
    rw [h u hu w hw, decide_eq_false (not_lt.2 (hvw.trans huv))]

/-- Texts are compared in their lexicographic order. -/
theorem test_lt_text (s t : Text) : test .lt (.text s) (.text t) = .ok (Text.lt s t) := by
  have hholds : Comparison.lt.holds (compareTexts s t) = Text.lt s t := by
    rw [compareTexts]
    split
    · next heq => rw [heq, Text.lt_irrefl]; rfl
    · cases Text.lt s t <;> rfl
  rw [test, hholds]

/-- Texts are preordered. -/
theorem isPreordered_texts (h : ∀ v ∈ vs, ∃ t, v = .text t) : IsPreordered vs where
  exists_same v hv w hw := by
    obtain ⟨s, rfl⟩ := h v hv
    obtain ⟨t, rfl⟩ := h w hw
    exact ⟨_, same_of_scalar? rfl rfl⟩
  exists_test v hv w hw := by
    obtain ⟨s, rfl⟩ := h v hv
    obtain ⟨t, rfl⟩ := h w hw
    exact ⟨_, test_lt_text s t⟩
  asymm v hv w hw hlt := by
    obtain ⟨s, rfl⟩ := h v hv
    obtain ⟨t, rfl⟩ := h w hw
    rw [test_lt_text, Except.ok.injEq] at hlt ⊢
    by_contra hback
    have hself := Text.lt_trans hlt (Bool.not_eq_false _ ▸ hback)
    simp [Text.lt_irrefl] at hself
  trans u hu v hv w hw huv hvw := by
    obtain ⟨s, rfl⟩ := h u hu
    obtain ⟨t, rfl⟩ := h v hv
    obtain ⟨t', rfl⟩ := h w hw
    rw [test_lt_text, Except.ok.injEq] at huv hvw ⊢
    rcases Text.lt_or_eq_or_gt s t with hlt | rfl | hgt
    · simp [huv] at hlt
    · exact hvw
    · by_contra hlt
      have hbelow := Text.lt_trans hgt (Bool.not_eq_false _ ▸ hlt)
      simp [hvw] at hbelow

/-- The number of a day; zero for another value. -/
def dayNumber : Value → ℕ
  | .date d => d.ordinal
  | _ => 0

/-- Dates are ranked by the number of their day. -/
theorem isRank_dayNumber (h : ∀ v ∈ vs, ∃ d, v = .date d) : IsRank dayNumber vs := by
  intro v hv w hw
  obtain ⟨d, rfl⟩ := h v hv
  obtain ⟨e, rfl⟩ := h w hw
  have hswap : e.compare d = (d.compare e).swap := by
    simp [Date.compare, Ordering.swap_then, Nat.compare_swap]
  have hholds : Comparison.lt.holds (d.compare e) = !e.le d := by
    rw [Date.le, hswap]
    cases d.compare e <;> rfl
  rw [Criterion.test_date, hholds, Except.ok.injEq, Bool.eq_iff_iff, decide_eq_true_iff,
    Bool.not_eq_true', ← Bool.not_eq_true, Date.le_iff_ordinal_le, not_le, dayNumber, dayNumber]

/-- Dates are preordered. -/
theorem isPreordered_dates (h : ∀ v ∈ vs, ∃ d, v = .date d) : IsPreordered vs := by
  refine (isRank_dayNumber h).isPreordered fun v hv w hw => ?_
  obtain ⟨d, rfl⟩ := h v hv
  obtain ⟨e, rfl⟩ := h w hw
  exact ⟨_, same_of_scalar? rfl rfl⟩

/-- Numbers of all kinds are preordered, if none of them is a NaN. -/
theorem isPreordered_numbers (h : ∀ v ∈ vs, ∃ q, v.quantity? = some q) : IsPreordered vs := by
  have hrank : IsRank (fun v => v.quantity?.getD ⊥) vs := by
    intro v hv w hw
    obtain ⟨p, hp⟩ := h v hv
    obtain ⟨q, hq⟩ := h w hw
    obtain ⟨b, hb, hiff⟩ := test_of_quantity? .lt hp hq
    have hrelates : Comparison.lt.Relates p q ↔ p < q := Iff.rfl
    have hless : b = decide (p < q) := by rw [Bool.eq_iff_iff, hiff, hrelates, decide_eq_true_iff]
    simp [hb, hless, hp, hq]
  refine hrank.isPreordered fun v hv w hw => ?_
  obtain ⟨p, hp⟩ := h v hv
  obtain ⟨q, hq⟩ := h w hw
  exact ⟨_, same_of_quantity? hp hq⟩

end Value

end LedgerTags

import LedgerTags.Proofs.LetterCase

/-!
# Tests of characters and lower case

Under options that ignore letter case a test of one character does not see whether a text has been
put into lower case (`literalTest_respects`, `setTest_respects`): the character in the text is
mapped to lower case again, or the test has nothing that is cased. A capital sigma may have become
the small sigma that ends a word, which the tests take for a variant of the other small sigma. Tests
of ASCII see it as soon as the text has other characters.
-/

namespace LedgerTags

/-- The small sigma that ends a word. -/
def finalSigma : CodePoint := { val := 0x3c2 }

/-- The small sigma elsewhere. -/
def smallSigma : CodePoint := { val := 0x3c3 }

/-- What a character other than the dotted capital I may become in the lower case of a text. -/
inductive LowersTo : CodePoint → CodePoint → Prop
  | lower {c : CodePoint} (h : c.val ≠ 0x130) : LowersTo c c.lower
  | final : LowersTo Text.capitalSigma finalSigma

namespace Pattern

variable {R : CodePoint → CodePoint → Prop} {o : Options} {c d e : CodePoint}

/-- A test does not tell related characters apart. -/
def CharTest.Respects (R : CodePoint → CodePoint → Prop) (t : CharTest) : Prop :=
  ∀ ⦃c d⦄, R c d → t.holds c = t.holds d

/-- Options under which letter case does not matter: in all scripts, or in ASCII while all
characters that may change are of it. -/
structure Options.Ignores (o : Options) (R : CodePoint → CodePoint → Prop) : Prop where
  ignoreCase : o.ignoreCase = true
  lowersTo : ∀ ⦃c d⦄, R c d → LowersTo c d
  repertoire : o.unicode = true ∨ ∀ ⦃c d⦄, R c d → c.val < 128

private theorem Options.Ignores.fold_cases (h : o.Ignores R) :
    o.unicode = true ∧ o.fold = .unicode ∨ o.unicode = false ∧ o.fold = .ascii := by
  rw [Options.fold, h.ignoreCase]
  cases o.unicode with
  | true => exact .inl ⟨rfl, rfl⟩
  | false => exact .inr ⟨rfl, rfl⟩

/-! ### ASCII -/

private theorem lower_of_ascii (hc : c.val < 128) : c.lower = asciiLower c := by
  rw [CodePoint.lower, if_pos hc, asciiLower]

/-- A character of ASCII that is not its own lower case is a capital, and that is a small letter. -/
theorem ascii_cases (hc : c.val < 128) :
    c.lower = c ∨ 65 ≤ c.val ∧ c.val ≤ 90 ∧ c.lower.val = c.val + 32 := by
  rw [lower_of_ascii hc, asciiLower]
  split_ifs with hcapital
  · exact .inr ⟨hcapital.1, hcapital.2, CodePoint.val_ofNat (by omega)⟩
  · exact .inl rfl

/-- What characters that lower case relates have in common under some options. -/
theorem Options.Ignores.cases (ho : o.Ignores R) (h : R c d) :
    c.val ≠ 0x130 ∧ d = c.lower ∧ (o.unicode = false → c.val < 128) ∨
      o.unicode = true ∧ c = Text.capitalSigma ∧ d = finalSigma := by
  have hascii : o.unicode = false → c.val < 128 := fun hunicode =>
    ho.repertoire.elim (fun h => by rw [h] at hunicode; cases hunicode) fun hall => hall h
  cases ho.lowersTo h with
  | lower hc => exact .inl ⟨hc, rfl, hascii⟩
  | final =>
    refine .inr ⟨?_, rfl, rfl⟩
    by_contra hunicode
    exact absurd (hascii (Bool.eq_false_of_not_eq_true hunicode)) (by decide)

/-- Related characters are in the same categories. -/
theorem category_respects (ho : o.Ignores R) (k : Category) (h : R c d) :
    Category.holds (!o.unicode) k c = Category.holds (!o.unicode) k d := by
  rcases ho.cases h with ⟨hc, rfl, hascii⟩ | ⟨hunicode, rfl, rfl⟩
  · cases hunicode : o.unicode with
    | true =>
      cases k with
      | digit => exact (CodePoint.isDecimal_lower hc).symm
      | space => exact (CodePoint.isSpace_lower hc).symm
      | word => exact (CodePoint.isWord_lower hc).symm
    | false =>
      rcases ascii_cases (hascii hunicode) with heq | ⟨hge, hle, hval⟩
      · rw [heq]
      · rw [Bool.eq_iff_iff]
        cases k <;>
          simp only [Category.holds, Bool.not_false, CodePoint.isAsciiDigit,
            CodePoint.isAsciiLetter, Bool.or_eq_true, Bool.and_eq_true, decide_eq_true_eq,
            beq_iff_eq] <;> omega
  · rw [hunicode]
    cases k <;> decide

/-- Of two characters that differ both have a case. -/
theorem isCased_of_ne (ho : o.Ignores R) (h : R c d) (hne : c ≠ d) :
    o.fold.isCased c = true ∧ o.fold.isCased d = true := by
  rcases ho.cases h with ⟨hc, rfl, hascii⟩ | ⟨hunicode, rfl, rfl⟩
  · rcases ho.fold_cases with ⟨-, hfold⟩ | ⟨hunicode, hfold⟩ <;> rw [hfold]
    · exact ⟨CodePoint.isCased_of_lower_ne hne.symm, CodePoint.isCased_lower hc hne.symm⟩
    · rcases ascii_cases (hascii hunicode) with heq | ⟨hge, hle, hval⟩
      · exact absurd heq.symm hne
      · simp only [Fold.isCased, CodePoint.isAsciiLetter, Bool.or_eq_true, Bool.and_eq_true,
          decide_eq_true_eq]
        omega
  · rw [Options.fold, ho.ignoreCase, hunicode]
    decide

/-- Mapped for a test, related characters are the same but for the two small sigmas. -/
theorem apply_cases (ho : o.Ignores R) (h : R c d) :
    o.fold.apply c = o.fold.apply d ∨
      o.unicode = true ∧ o.fold.apply c = smallSigma ∧ o.fold.apply d = finalSigma := by
  rcases ho.cases h with ⟨hc, rfl, hascii⟩ | ⟨hunicode, rfl, rfl⟩
  · refine .inl ?_
    rcases ho.fold_cases with ⟨-, hfold⟩ | ⟨hunicode, hfold⟩ <;> rw [hfold]
    · exact (CodePoint.lower_lower hc).symm
    · have hlt := hascii hunicode
      have hlower : c.lower.val < 128 := by
        rcases ascii_cases hlt with heq | ⟨-, hle, hval⟩
        · rwa [heq]
        · omega
      show asciiLower c = asciiLower c.lower
      rw [← lower_of_ascii hlower, CodePoint.lower_lower hc, lower_of_ascii hlt]
  · refine .inr ⟨hunicode, ?_⟩
    rw [Options.fold, ho.ignoreCase, hunicode]
    decide

/-! ### Sigmas -/

private theorem variants_of_sigma (e : CodePoint) :
    smallSigma ∈ variantsOf e ↔ finalSigma ∈ variantsOf e := by
  have hclasses : ∀ cs ∈ caseVariants, smallSigma ∈ cs.map CodePoint.ofNat ↔
      finalSigma ∈ cs.map CodePoint.ofNat := by decide
  unfold variantsOf
  split
  · next cs hcs => exact hclasses cs (List.mem_of_find?_eq_some hcs)
  · next hnone =>
    have hclass := List.find?_eq_none.1 hnone [0x3c2, 0x3c3] (by decide)
    refine iff_of_false ?_ ?_ <;>
    · intro hmem
      rw [← List.mem_singleton.1 hmem] at hclass
      exact hclass (by decide)

private theorem any_code_eq (c : CodePoint) (ds : List CodePoint) :
    (ds.map TestItem.code).any (TestItem.holds c) = decide (c ∈ ds) := by
  rw [List.any_map, Bool.eq_iff_iff, List.any_eq_true, decide_eq_true_iff]
  simp [TestItem.holds]

private theorem any_variants_sigma (e : CodePoint) :
    ((variantsOf e).map TestItem.code).any (TestItem.holds smallSigma) =
      ((variantsOf e).map TestItem.code).any (TestItem.holds finalSigma) := by
  rw [any_code_eq, any_code_eq, decide_eq_decide]
  exact variants_of_sigma e

private theorem variantsOf_sigma : variantsOf smallSigma = variantsOf finalSigma := by decide

/-- A range that goes beyond the basic plane takes both small sigmas or neither as they stand,
unless it begins between them. -/
theorem holds_eitherCase_sigma {lo hi : CodePoint} (hhi : basicPlaneEnd < hi)
    (hlo : lo ≠ smallSigma) : TestItem.holds smallSigma (.eitherCase lo hi) =
      TestItem.holds finalSigma (.eitherCase lo hi) := by
  have hupper : smallSigma.upper = finalSigma.upper := by decide
  have hval : lo.val ≠ 0x3c3 := fun h => hlo (CodePoint.ext_val h)
  have hbeyond : 0xFFFF < hi.val := hhi
  have hbetween (c : CodePoint) : isBetween lo hi c = decide (lo.val ≤ c.val ∧ c.val ≤ hi.val) :=
    (Bool.decide_and _ _).symm
  have hbounds : isBetween lo hi smallSigma = isBetween lo hi finalSigma := by
    rw [hbetween, hbetween, decide_eq_decide]
    show lo.val ≤ 0x3c3 ∧ 0x3c3 ≤ hi.val ↔ lo.val ≤ 0x3c2 ∧ 0x3c2 ≤ hi.val
    omega
  rw [TestItem.holds, TestItem.holds, hbounds, hupper]

/-- A part of a set takes both small sigmas or neither. -/
theorem any_foldedTests_sigma (ho : o.unicode = true) (item : SetItem) :
    (item.foldedTests o).any (TestItem.holds smallSigma) =
      (item.foldedTests o).any (TestItem.holds finalSigma) := by
  cases item with
  | category negated k =>
    rw [SetItem.foldedTests, ho]
    cases k <;> cases negated <;> decide
  | code e =>
    rw [SetItem.foldedTests, if_pos ho]
    split_ifs with hbeyond
    · have hne {c : CodePoint} (hc : c ≤ basicPlaneEnd) : c ≠ e := fun h =>
        absurd (h ▸ hc : e.val ≤ basicPlaneEnd.val) (Nat.not_le_of_lt hbeyond)
      simp only [List.any_cons, List.any_nil, TestItem.holds,
        hne (by decide : smallSigma ≤ basicPlaneEnd), hne (by decide : finalSigma ≤ basicPlaneEnd)]
    · exact any_variants_sigma _
  | range lo hi =>
    simp only [SetItem.foldedTests, ho, if_true]
    split_ifs with hbeyond habove habove
    · have hlo : lo ≠ smallSigma := by
        rintro rfl
        exact absurd habove (by decide)
      simp only [List.nil_append, List.any_cons, List.any_nil, holds_eitherCase_sigma hbeyond hlo]
    · by_cases hlo : lo = smallSigma
      · -- Here the bounds part the two, and the lower-case forms do not.
        have hforms : TestItem.holds smallSigma (.lowerOf smallSigma basicPlaneEnd) = true := by
          decide
        have hforms' : TestItem.holds finalSigma (.lowerOf smallSigma basicPlaneEnd) = true := by
          rwa [TestItem.holds, ← variantsOf_sigma]
        simp only [hlo, List.any_append, List.any_cons, hforms, hforms', Bool.true_or]
      · simp only [List.any_append, List.any_cons, List.any_nil, TestItem.holds.eq_3,
          variantsOf_sigma, holds_eitherCase_sigma hbeyond hlo]
    · rfl
    · simp only [List.any_cons, List.any_nil, TestItem.holds, variantsOf_sigma]

/-! ### Tests -/

/-- Of related characters, both are line feeds or neither is. -/
theorem isFeed_respects (ho : o.Ignores R) (h : R c d) : (c.val == 10) = (d.val == 10) := by
  rcases ho.cases h with ⟨hc, rfl, -⟩ | ⟨-, rfl, rfl⟩
  · rw [Bool.eq_iff_iff, beq_iff_eq, beq_iff_eq, CodePoint.val_lower_eq_feed_iff hc]
  · rfl

/-- The test of a dot does not tell related characters apart. -/
theorem anyTest_respects (ho : o.Ignores R) :
    (if o.dotAll then CharTest.any else .notFeed).Respects R := by
  intro c d h
  split_ifs
  · rfl
  · exact congrArg not (isFeed_respects ho h)

/-- A character without a case is not one of two related characters that differ. -/
theorem eq_iff_of_not_isCased (ho : o.Ignores R) (h : R c d) (he : o.fold.isCased e = false) :
    c = e ↔ d = e := by
  by_cases hcd : c = d
  · rw [hcd]
  · obtain ⟨hc, hd⟩ := isCased_of_ne ho h hcd
    refine iff_of_false ?_ ?_
    · rintro rfl
      rw [hc] at he
      cases he
    · rintro rfl
      rw [hd] at he
      cases he

/-- Between bounds between which nothing has a case there is none of two related characters that
differ. -/
theorem isBetween_eq (ho : o.Ignores R) (h : R c d) {lo hi : CodePoint}
    (hrange : (SetItem.range lo hi).isCased o.fold = false) :
    isBetween lo hi c = isBetween lo hi d := by
  by_cases hcd : c = d
  · rw [hcd]
  · obtain ⟨hc, hd⟩ := isCased_of_ne ho h hcd
    have hfalse {c : CodePoint} (hc : o.fold.isCased c = true) : isBetween lo hi c = false := by
      by_contra hbetween
      obtain ⟨hlo, hhi⟩ : lo.val ≤ c.val ∧ c.val ≤ hi.val := by
        rwa [Bool.not_eq_false, isBetween, Bool.and_eq_true_iff, decide_eq_true_iff,
          decide_eq_true_iff] at hbetween
      rcases ho.fold_cases with ⟨-, hfold⟩ | ⟨-, hfold⟩ <;> rw [hfold] at hc hrange
      · have hnone : CodePoint.casedBetween lo.val hi.val = false :=
          (Bool.or_eq_false_iff.1 hrange).2
        rw [CodePoint.casedBetween_of_isCased hc hlo hhi] at hnone
        cases hnone
      · simp only [SetItem.isCased, Bool.or_eq_false_iff, Bool.and_eq_false_iff,
          decide_eq_false_iff_not] at hrange
        simp only [Fold.isCased, CodePoint.isAsciiLetter, Bool.or_eq_true, Bool.and_eq_true,
          decide_eq_true_eq] at hc
        omega
    rw [hfalse hc, hfalse hd]

private theorem any_plainTests (ho : o.Ignores R) (h : R c d) {item : SetItem}
    (hitem : item.isCased o.fold = false) :
    (item.plainTests o).any (TestItem.holds c) = (item.plainTests o).any (TestItem.holds d) := by
  cases item with
  | category negated k =>
    simp only [SetItem.plainTests, List.any_cons, List.any_nil, TestItem.holds,
      category_respects ho k h]
  | code e =>
    rw [SetItem.isCased, Bool.or_eq_false_iff] at hitem
    simp only [SetItem.plainTests, List.any_cons, List.any_nil, TestItem.holds,
      eq_iff_of_not_isCased ho h hitem.2]
  | range lo hi =>
    simp only [SetItem.plainTests, List.any_cons, List.any_nil, TestItem.holds,
      isBetween_eq ho h hitem]

private theorem any_foldedTests (ho : o.Ignores R) (h : R c d) (item : SetItem) :
    (item.foldedTests o).any (TestItem.holds (o.fold.apply c)) =
      (item.foldedTests o).any (TestItem.holds (o.fold.apply d)) := by
  rcases apply_cases ho h with heq | ⟨hunicode, hc, hd⟩
  · rw [heq]
  · rw [hc, hd]
    exact any_foldedTests_sigma hunicode item

/-- The test for a character does not tell related characters apart. -/
theorem literalTest_respects (ho : o.Ignores R) (negated : Bool) (e : CodePoint) :
    (literalTest o negated e).Respects R := by
  intro c d h
  unfold literalTest
  split_ifs with he
  · rw [Bool.not_eq_true'] at he
    simp only [CharTest.holds, Fold.apply, List.any_cons, List.any_nil, TestItem.holds,
      eq_iff_of_not_isCased ho h he]
  · have hcases := apply_cases ho h
    rcases ho.fold_cases with ⟨-, hfold⟩ | ⟨hunicode, hfold⟩ <;> rw [hfold] at hcases ⊢
    · refine congrArg (· != negated) (?_ : List.any _ (TestItem.holds (Fold.unicode.apply c)) =
        List.any _ (TestItem.holds (Fold.unicode.apply d)))
      rcases hcases with heq | ⟨-, hc, hd⟩
      · rw [heq]
      · rw [hc, hd]
        exact any_variants_sigma e.lower
    · rw [hunicode] at hcases
      have heq := hcases.resolve_right fun h => Bool.false_ne_true h.1
      show (List.any _ (TestItem.holds (Fold.ascii.apply c)) != negated) =
        (List.any _ (TestItem.holds (Fold.ascii.apply d)) != negated)
      rw [heq]

/-- The test for a set of characters does not tell related characters apart. -/
theorem setTest_respects (ho : o.Ignores R) (negated : Bool) (items : List SetItem) :
    (setTest o negated items).Respects R := by
  intro c d h
  have hfolded : (items.flatMap (SetItem.foldedTests o)).any (TestItem.holds (o.fold.apply c)) =
      (items.flatMap (SetItem.foldedTests o)).any (TestItem.holds (o.fold.apply d)) := by
    rw [List.any_flatMap, List.any_flatMap]
    exact congrArg items.any (funext fun item => any_foldedTests ho h item)
  have hplain (hitems : ¬items.any (SetItem.isCased o.fold) = true) :
      (items.flatMap (SetItem.plainTests o)).any (TestItem.holds c) =
        (items.flatMap (SetItem.plainTests o)).any (TestItem.holds d) := by
    rw [List.any_flatMap, List.any_flatMap, Bool.eq_iff_iff, List.any_eq_true, List.any_eq_true]
    rw [Bool.not_eq_true, List.any_eq_false] at hitems
    exact exists_congr fun item => and_congr_right fun hitem => by
      rw [any_plainTests ho h (Bool.eq_false_of_not_eq_true (hitems item hitem))]
  have htest : setTest o negated items = if items.any (SetItem.isCased o.fold) then
      .oneOf o.fold negated (items.flatMap (SetItem.foldedTests o))
      else .oneOf .none negated (items.flatMap (SetItem.plainTests o)) := by
    rcases ho.fold_cases with ⟨-, hfold⟩ | ⟨-, hfold⟩ <;> rw [setTest, hfold]
  rw [htest]
  split_ifs with hitems
  · exact congrArg (· != negated) hfolded
  · exact congrArg (· != negated) (hplain hitems)

end Pattern

end LedgerTags

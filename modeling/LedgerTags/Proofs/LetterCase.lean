import LedgerTags.Proofs.CaseTables
import LedgerTags.Proofs.Searching

/-!
# Lower case and the other properties of characters

Lower case leaves alone what the tests of a pattern ask for. A capital and its small letter are a
pair of the tables (`CodePoint.isLowerPair`), so the small letter is its own lower case, has an
upper case that is another character, belongs to a word exactly if the capital does, and neither of
them is a digit, a blank or the end of a line. The dotted capital I is left out; its lower case in a
text is two characters.
-/

namespace LedgerTags

/-! ### Characters -/

namespace CodePoint

open Text.Table

variable {c d : CodePoint} {n : ℕ}

/-- Lower case is what the runs of the table say, and the character itself where they say nothing.
-/
theorem lower_eq (hc : c.val ≠ 0x130) :
    c.lower = ((CaseRun.find? c.val lowerRuns).map ofNat).getD c := by
  have hnone (h : c.val < 128) : CaseRun.find? c.val lowercase = none :=
    CaseRun.find?_of_lt (h.trans (by decide))
  unfold lower lowerRuns
  split_ifs with hascii hcapital
  · rw [CaseRun.find?_cons_of_step rfl hcapital.1 hcapital.2]
    refine congrArg ofNat ?_
    show c.val + 32 = 97 + (c.val - 65)
    omega
  · rcases Nat.lt_or_ge c.val 65 with hlt | hge
    · rw [CaseRun.find?_of_lt hlt]
      rfl
    · rw [CaseRun.find?_cons_of_last_lt (by dsimp only; omega) (by decide), hnone hascii]
      rfl
  · rw [CaseRun.find?_cons_of_last_lt (by dsimp only; omega) (by decide)]
    cases CaseRun.find? c.val lowercase <;> rfl

/-- A character that is not its own lower case makes a pair with it. -/
theorem isLowerPair (hc : c.val ≠ 0x130) (h : c.lower ≠ c) :
    CaseRun.IsLowerPair c.val c.lower.val := by
  have hlower := lower_eq hc
  cases hfind : CaseRun.find? c.val lowerRuns with
  | none =>
    rw [hfind] at hlower
    exact absurd hlower h
  | some n =>
    have hpair := CaseRun.isLowerPair_of_find? hfind
    rw [hfind] at hlower
    rwa [hlower, Option.map_some, Option.getD_some, val_ofNat hpair.lt]

/-- The first upper-case form of a character that has one in a table is another character. -/
theorem upper_ne (h : (CaseRun.find? c.val upperRuns).isSome = true ∨
    (uppercaseLong.lookup c.val).isSome = true) : c.upper ≠ c := by
  have hne (n : ℕ) (hn : n < 0x110000) (hval : n ≠ c.val) : ofNat n ≠ c := fun h =>
    hval ((val_ofNat hn).symm.trans (congrArg val h))
  unfold upper upperFull
  split_ifs with hascii hsmall
  · exact hne _ (by omega) (by omega)
  · -- Beside the small letters there is nothing in ASCII that the tables could have.
    exfalso
    rcases h with h | h
    · rcases Nat.lt_or_ge c.val 97 with hlt | hge
      · rw [upperRuns, CaseRun.find?_of_lt hlt] at h
        cases h
      · have hnone : CaseRun.find? c.val uppercase = none :=
          CaseRun.find?_of_lt (hascii.trans (by decide))
        rw [upperRuns, CaseRun.find?_cons_of_last_lt (by dsimp only; omega) (by decide), hnone] at h
        cases h
    · obtain ⟨ns, hns⟩ := Option.isSome_iff_exists.1 h
      have hge : 128 ≤ c.val := (long_ne _ (mem_of_lookup hns)).1
      omega
  · have hskip : CaseRun.find? c.val upperRuns = CaseRun.find? c.val uppercase :=
      CaseRun.find?_cons_of_last_lt (by dsimp only; omega) (by decide)
    rw [hskip] at h
    cases hfind : CaseRun.find? c.val uppercase with
    | some n =>
      obtain ⟨r, hr, hfirst, hlast, -, rfl⟩ := CaseRun.exists_maps hfind
      obtain ⟨himage, hlt⟩ := image_ne r hr
      rw [CaseRun.lastImage] at hlt
      exact hne _ (by omega) (by omega)
    | none =>
      rw [hfind] at h
      obtain ⟨ns, hns⟩ := Option.isSome_iff_exists.1 (h.resolve_left Bool.false_ne_true)
      obtain ⟨-, hhead, hnil⟩ := long_ne _ (mem_of_lookup hns)
      rw [hns]
      cases ns with
      | nil => exact absurd rfl hnil
      | cons n ns => exact fun heq => absurd (congrArg val heq) (of_decide_eq_true hhead)

private theorem isWord_eq (c : CodePoint) : c.isWord = (CaseRun.find? c.val wordRuns).isSome := by
  rw [wordRuns, ← covers_eq_find?]
  unfold isWord isAlphanumeric
  split_ifs with hascii
  · have hnone : covers c.val alphanumeric = false := if_pos (hascii.trans (by decide))
    simp only [covers, hnone, isAsciiDigit, isAsciiLetter]
    rw [Bool.eq_iff_iff]
    split_ifs <;> simp <;> omega
  · have hskip (lo hi : ℕ) (rs : List (ℕ × ℕ)) (hlo : lo ≤ hi) (hhi : hi < 128) :
        covers c.val ((lo, hi) :: rs) = covers c.val rs := by
      rw [covers, if_neg (by omega), decide_eq_false (by omega), Bool.false_or]
    have hline : (c.val == 95) = false := beq_eq_false_iff_ne.2 (by omega)
    rw [hskip, hskip, hskip, hskip, hline, Bool.or_false] <;> decide

private theorem isDecimal_eq_false (h : ∀ p ∈ otherRanges, c.val < p.1 ∨ p.2 < c.val) :
    c.isDecimal = false := by
  have hzero (z : ℕ) (hz : z ∈ decimalZero) : c.val < z ∨ z + 9 < c.val :=
    h (z, z + 9) (List.mem_append_left _ (List.mem_append_left _ (List.mem_map_of_mem hz)))
  unfold isDecimal decimalValue?
  split_ifs with hascii hdigit
  · have := hzero 0x30 (by decide)
    omega
  · rfl
  · have hnone : (decimalZero.find? fun z => z ≤ c.val && c.val < z + 10) = none := by
      refine List.find?_eq_none.2 fun z hz => ?_
      have := hzero z hz
      simp only [Bool.and_eq_true, decide_eq_true_eq]
      omega
    rw [hnone]
    rfl

/-- What lies outside the ranges of blanks is none. -/
theorem isSpace_of_outside (h : ∀ p ∈ spaceRanges, c.val < p.1 ∨ p.2 < c.val) :
    c.isSpace = false := by
  simp only [spaceRanges, List.forall_mem_cons] at h
  simp only [isSpace, Bool.or_eq_false_iff, Bool.and_eq_false_iff, decide_eq_false_iff_not,
    beq_eq_false_iff_ne]
  omega

private theorem isSpace_eq_false (h : ∀ p ∈ otherRanges, c.val < p.1 ∨ p.2 < c.val) :
    c.isSpace = false :=
  isSpace_of_outside fun p hp => h p (List.mem_append_left _ (List.mem_append_right _ hp))

/-! ### Lower case -/

private theorem val_lower_ne (hc : c.val ≠ 0x130) : c.lower.val ≠ 0x130 := by
  by_cases h : c.lower = c
  · rwa [h]
  · intro heq
    have := (isLowerPair hc h).image (0x130, 0x130) (by decide)
    dsimp only at this
    omega

/-- The lower case of a character is its own lower case. -/
theorem lower_lower (hc : c.val ≠ 0x130) : c.lower.lower = c.lower := by
  by_cases h : c.lower = c
  · rw [h, h]
  · have hnone := Option.isSome_eq_false_iff.1 (isLowerPair hc h).isLower
    rw [lower_eq (val_lower_ne hc), Option.isNone_iff_eq_none.1 hnone]
    rfl

/-- A character with another lower case is cased. -/
theorem isCased_of_lower_ne (h : c.lower ≠ c) : c.isCased = true :=
  Bool.or_eq_true_iff.2 (.inl (bne_iff_ne.2 h))

/-- The lower case of a character is cased if it is another one. -/
theorem isCased_lower (hc : c.val ≠ 0x130) (h : c.lower ≠ c) : c.lower.isCased = true :=
  Bool.or_eq_true_iff.2 (.inr (bne_iff_ne.2 (upper_ne (isLowerPair hc h).hasUpper)))

/-- Lower case keeps the characters of words. -/
theorem isWord_lower (hc : c.val ≠ 0x130) : c.lower.isWord = c.isWord := by
  by_cases h : c.lower = c
  · rw [h]
  · rw [isWord_eq, isWord_eq, (isLowerPair hc h).isWord]

/-- Lower case keeps the digits. -/
theorem isDecimal_lower (hc : c.val ≠ 0x130) : c.lower.isDecimal = c.isDecimal := by
  by_cases h : c.lower = c
  · rw [h]
  · rw [isDecimal_eq_false (isLowerPair hc h).source, isDecimal_eq_false (isLowerPair hc h).image]

/-- Lower case keeps the blanks. -/
theorem isSpace_lower (hc : c.val ≠ 0x130) : c.lower.isSpace = c.isSpace := by
  by_cases h : c.lower = c
  · rw [h]
  · rw [isSpace_eq_false (isLowerPair hc h).source, isSpace_eq_false (isLowerPair hc h).image]

/-- Only a line feed has a line feed as its lower case. -/
theorem val_lower_eq_feed_iff (hc : c.val ≠ 0x130) : c.lower.val = 10 ↔ c.val = 10 := by
  by_cases h : c.lower = c
  · rw [h]
  · have hsource := (isLowerPair hc h).source (9, 13) (by decide)
    have himage := (isLowerPair hc h).image (9, 13) (by decide)
    dsimp only at hsource himage
    omega

/-- A character whose case is mapped shows that there is a cased one between two bounds. -/
theorem casedBetween_of_isCased {lo hi : ℕ} (h : c.isCased = true) (hlo : lo ≤ c.val)
    (hhi : c.val ≤ hi) : casedBetween lo hi = true := by
  by_contra hnone
  simp only [casedBetween, Bool.or_eq_true, Bool.and_eq_true, decide_eq_true_eq, not_or] at hnone
  obtain ⟨⟨⟨⟨⟨hcapital, hsmall⟩, hdotted⟩, hlower⟩, hupper⟩, hlong⟩ := hnone
  have hfind (rs : List CaseRun) (hmeets : ¬CaseRun.meets lo hi rs = true) :
      CaseRun.find? c.val rs = none := by
    by_contra hsome
    exact hmeets (CaseRun.meets_of_find? (Option.isSome_iff_ne_none.2 hsome) hlo hhi)
  have hlookup : uppercaseLong.lookup c.val = none := by
    cases h : uppercaseLong.lookup c.val with
    | none => rfl
    | some ns =>
      refine absurd (List.any_eq_true.2 ⟨_, mem_of_lookup h, ?_⟩) hlong
      exact Bool.and_eq_true_iff.2 ⟨decide_eq_true hlo, decide_eq_true hhi⟩
  have hsame : c.lower = c ∧ c.upper = c := by
    constructor
    · unfold lower
      rw [hfind _ hlower]
      split_ifs <;> first | omega | rfl
    · unfold upper upperFull
      rw [hfind _ hupper, hlookup]
      split_ifs <;> first | omega | rfl
  rw [isCased, hsame.1, hsame.2, bne_self_eq_false, Bool.or_false] at h
  cases h

end CodePoint

end LedgerTags

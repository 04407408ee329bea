import LedgerTags.Number.Shortest
import LedgerTags.Proofs.Numerals
import LedgerTags.Proofs.Rounding

/-!
# The shortest text of a binary number

Seventeen decimal digits are enough to tell the numbers of the format apart: the nearest decimal of
so many digits is closer to a number than a part in `2 ^ 54` of it. So the search for the shortest
decimal always ends with one that reads back (`ofScientific_shortest`), and the text has the form of
a numeral with that value (`isNotation_magnitudeText`).
-/

namespace LedgerTags.Binary64

open Text

/-! ### Candidates -/

/-- The leading exponent of a fraction is its decimal order. -/
theorem hasOrder_leadingExponent {num den : ℕ} (hnum : num ≠ 0) (hden : den ≠ 0) :
    HasOrder 10 (num / den) (leadingExponent num den) := by
  have hcount (n : ℕ) : n < 10 ^ (Decimal.digitCount n - 1 + 1) := by
    rw [Nat.sub_add_cancel (Decimal.digitCount_pos n)]
    exact Decimal.lt_pow_digitCount n
  have hnum' := Decimal.digitCount_pos num
  have hden' := Decimal.digitCount_pos den
  exact hasOrder_div (by decide) (Decimal.pow_digitCount_le hnum) (hcount num)
    (Decimal.pow_digitCount_le hden) (hcount den) (by omega)

/-- The first candidate is half a step away from the value at most. -/
theorem exists_neighbours_eq (num : ℕ) {den : ℕ} (hden : den ≠ 0) (g : ℤ) :
    ∃ c cs, neighbours num den g = c :: cs ∧ |(c : ℚ) - num / den / 10 ^ g| ≤ 1 / 2 := by
  set a := num * Nat.pow 10 (-g).toNat with ha
  set b := den * Nat.pow 10 g.toNat with hb
  have hbpos : 0 < b := Nat.mul_pos (Nat.pos_of_ne_zero hden) (Nat.pow_pos (by decide))
  have hbpos' : (0 : ℚ) < b := Nat.cast_pos.2 hbpos
  have hvalue : (num : ℚ) / den / 10 ^ g = a / b := by
    have hpow := zpow_eq_div (b := 10) (by decide) g
    rw [Nat.cast_ofNat] at hpow
    rw [hpow, ha, hb, Nat.pow_eq, Nat.pow_eq, div_div_div_eq, mul_comm (den : ℚ)]
    push_cast
    rw [mul_comm (den : ℚ)]
  -- The value is the quotient and a part of a step.
  set q := a / b with hq
  set r := a % b with hr
  have hrlt : r < b := Nat.mod_lt a hbpos
  set part : ℚ := (r : ℚ) / b with hpart
  have hquotient : (a : ℚ) / b = q + part := by
    have hdivmod : (a : ℚ) = q * b + r := by exact_mod_cast (Nat.div_add_mod' a b).symm
    rw [hdivmod, add_div, mul_div_cancel_right₀ _ hbpos'.ne']
  have hpart0 : 0 ≤ part := div_nonneg (Nat.cast_nonneg _) hbpos'.le
  have hhalf : 2 * r ≤ b → part ≤ 1 / 2 := fun h => by
    rw [hpart, div_le_iff₀ hbpos']
    have : (2 * r : ℚ) ≤ b := by exact_mod_cast h
    linarith
  have hhalf' : b ≤ 2 * r → 1 / 2 ≤ part := fun h => by
    rw [hpart, le_div_iff₀ hbpos']
    have : (b : ℚ) ≤ 2 * r := by exact_mod_cast h
    linarith
  have hone : part ≤ 1 := by
    rw [hpart, div_le_one hbpos']
    exact_mod_cast hrlt.le
  have hneighbours : neighbours num den g =
      if r = 0 then [q] else if 2 * r < b ∨ 2 * r = b ∧ q % 2 = 0 then [q, q + 1] else [q + 1, q] :=
    rfl
  -- The nearer neighbour comes first: the one below up to half a step, the one above from there.
  rw [hneighbours, hvalue, hquotient]
  split
  · next hzero =>
    refine ⟨q, [], rfl, ?_⟩
    rw [sub_add_cancel_left, abs_neg, abs_of_nonneg hpart0]
    exact hhalf (by omega)
  · split
    · next hlow =>
      refine ⟨q, [q + 1], rfl, ?_⟩
      rw [sub_add_cancel_left, abs_neg, abs_of_nonneg hpart0]
      exact hhalf (by omega)
    · next hhigh =>
      refine ⟨q + 1, [q], rfl, ?_⟩
      rw [Nat.cast_add_one, add_sub_add_left_eq_sub, abs_of_nonneg (by linarith)]
      have := hhalf' (by omega)
      linarith

/-! ### The search -/

section Search

variable {m : ℕ} {e : ℤ}

/-- The two parts of the ratio make up the number. -/
theorem ratio_div (m : ℕ) (e : ℤ) : ((ratio m e).1 : ℚ) / (ratio m e).2 = m * 2 ^ e := by
  have h := mul_zpow_eq_div (b := 2) (by decide) m e
  rw [Nat.cast_ofNat] at h
  rw [h, ratio, Nat.pow_eq, Nat.pow_eq]

/-- The ratio of a number other than zero has no part that is zero. -/
theorem ratio_ne_zero (hm : m ≠ 0) : (ratio m e).1 ≠ 0 ∧ (ratio m e).2 ≠ 0 :=
  ⟨Nat.mul_ne_zero hm (Nat.pow_pos (by decide)).ne', (Nat.pow_pos (by decide)).ne'⟩

/-- With seventeen digits the nearest candidate reads back. -/
theorem ofScientific_neighbour (hm : m ≠ 0) (h : InFormat m e) {c : ℕ}
    {cs : List ℕ} {g : ℤ} (hg : g = leadingExponent (ratio m e).1 (ratio m e).2 - 17 + 1)
    (hc : neighbours (ratio m e).1 (ratio m e).2 g = c :: cs) :
    ofScientific false c g = .finite false m e h := by
  obtain ⟨hnum, hden⟩ := ratio_ne_zero (e := e) hm
  obtain ⟨c', cs', hc', hnear⟩ := exists_neighbours_eq (ratio m e).1 hden g
  obtain ⟨rfl, rfl⟩ := List.cons.inj (hc.symm.trans hc')
  have horder := hasOrder_leadingExponent hnum hden
  rw [HasOrder, Nat.cast_ofNat] at horder
  rw [ratio_div] at hnear horder
  set lead := leadingExponent (ratio m e).1 (ratio m e).2
  have hpos : (0 : ℚ) < 2 ^ e := zpow_pos (by norm_num) e
  have hgrid : (0 : ℚ) < 10 ^ g := zpow_pos (by norm_num) g
  have hm' : (0 : ℚ) < m := Nat.cast_pos.2 (Nat.pos_of_ne_zero hm)
  -- A step of the grid is a part in `10 ^ 16` of the value.
  have hstep : (10 : ℚ) ^ g * 10 ^ 16 ≤ m * 2 ^ e := by
    have hsum : (10 : ℚ) ^ g * 10 ^ 16 = 10 ^ lead := by
      rw [← zpow_natCast, ← zpow_add₀ (by norm_num), hg]
      congr 1
      push_cast
      ring
    rw [hsum]
    exact horder.1
  refine ofScientific_eq_of_near hm h ?_
  have hdistance : (c : ℚ) * 10 ^ g / 2 ^ e - m =
      (c - m * 2 ^ e / 10 ^ g) * (10 ^ g / 2 ^ e) := by
    field_simp
  have hratio : (0 : ℚ) < 10 ^ g / 2 ^ e := div_pos hgrid hpos
  have hratio' : (10 : ℚ) ^ g / 2 ^ e * 10 ^ 16 ≤ m := by
    rw [div_mul_eq_mul_div, div_le_iff₀ hpos]
    exact hstep
  rw [hdistance, abs_mul, abs_of_pos hratio]
  calc |(c : ℚ) - m * 2 ^ e / 10 ^ g| * (10 ^ g / 2 ^ e)
      ≤ 1 / 2 * (10 ^ g / 2 ^ e) := mul_le_mul_of_nonneg_right hnear hratio.le
    _ < m / 2 ^ 54 := by
        norm_num at hratio' ⊢
        linarith

/-- The search ends with a decimal that reads back. -/
theorem ofScientific_shortestFrom (hm : m ≠ 0) (h : InFormat m e)
    (fuel n : ℕ) (hfuel : fuel ≠ 0) (hn : fuel + n = 18) :
    let found := shortestFrom (.finite false m e h) (ratio m e).1 (ratio m e).2
      (leadingExponent (ratio m e).1 (ratio m e).2) fuel n
    ofScientific false found.1 found.2 = .finite false m e h := by
  induction fuel generalizing n with
  | zero => exact absurd rfl hfuel
  | succ fuel ih =>
    rw [shortestFrom]
    dsimp only
    split
    · next c hfound =>
      have hreads := List.find?_some hfound
      exact eq_of_beq hreads
    · next hnone =>
      by_cases hlast : fuel = 0
      · -- All digits are used up, and still there is a candidate.
        obtain rfl : n = 17 := by omega
        obtain ⟨c, cs, hc, -⟩ := exists_neighbours_eq (ratio m e).1
          (ratio_ne_zero (e := e) hm).2 (leadingExponent (ratio m e).1 (ratio m e).2 - 17 + 1)
        have hnot := List.find?_eq_none.1 hnone c (by exact hc ▸ List.mem_cons_self)
        exact absurd (beq_iff_eq.2 (ofScientific_neighbour hm h rfl hc)) hnot
      · exact ih (n + 1) hlast (by omega)

private theorem stripZeros_eq (fuel n : ℕ) :
    (stripZeros fuel n).1 * 10 ^ (stripZeros fuel n).2 = n := by
  induction fuel generalizing n with
  | zero => exact Nat.mul_one n
  | succ fuel ih =>
    rw [stripZeros]
    split
    · next h =>
      have hstep := ih (n / 10)
      dsimp only
      rw [Nat.pow_succ, ← Nat.mul_assoc, hstep]
      omega
    · exact Nat.mul_one n

/-- The shortest decimal reads back. -/
theorem ofScientific_shortest (hm : m ≠ 0) (h : InFormat m e) :
    ofScientific false (shortest m e h).1 (shortest m e h).2 = .finite false m e h := by
  have hsearch := ofScientific_shortestFrom hm h 17 1 (by decide) rfl
  have hshortest : shortest m e h =
      let found := shortestFrom (.finite false m e h) (ratio m e).1 (ratio m e).2
        (leadingExponent (ratio m e).1 (ratio m e).2) 17 1
      ((stripZeros 20 found.1).1, found.2 + (stripZeros 20 found.1).2) := by
    rw [shortest]
  rw [hshortest]
  dsimp only at hsearch ⊢
  refine (ofScientific_congr ?_).trans hsearch
  generalize shortestFrom _ _ _ _ 17 1 = found
  have hstrip : ((stripZeros 20 found.1).1 : ℚ) * 10 ^ (stripZeros 20 found.1).2 = found.1 := by
    exact_mod_cast stripZeros_eq 20 found.1
  rw [zpow_add₀ (by norm_num), zpow_natCast, mul_left_comm, hstrip, mul_comm]

/-- The shortest decimal of a number other than zero is not zero. -/
theorem shortest_ne_zero (hm : m ≠ 0) (h : InFormat m e) :
    (shortest m e h).1 ≠ 0 := by
  intro hzero
  have hreads := ofScientific_shortest hm h
  rw [hzero, ofScientific, if_pos rfl] at hreads
  injection hreads with _ hm0
  exact hm hm0.symm

end Search

/-! ### The form of a text -/

/-- The power at the end of a text; nothing for a text in positional notation. -/
def powerPart : Option ℤ → Text
  | none => []
  | some e => "e" ++ ((if e < 0 then "-" else "+" : Text) ++ ofNatPadded 2 e.natAbs)

/-- A text is made of whole digits, a fraction and a power, of which one of the last two is there,
and stands for `c · 10 ^ g`. A last place that is not that of the value is the one behind the
point. -/
def IsNotation (c : ℕ) (g : ℤ) (t : Text) : Prop :=
  ∃ (w f : List ℕ) (x : Option ℤ),
    AreDigits w ∧ AreDigits f ∧ IsWhole w ∧ (f = [] → x ≠ none) ∧
    (natOfDigits (w ++ f) : ℚ) * 10 ^ (x.getD 0 - f.length) = c * 10 ^ g ∧
    min g (-1) ≤ x.getD 0 - f.length ∧
    t = digitText w ++ fractionText f ++ powerPart x

section Notations

variable {c : ℕ} {g : ℤ}

/-- A whole number: its digits, the zeros of the power, and a zero behind the point. -/
theorem isNotation_whole (hc : c ≠ 0) (hg : 0 ≤ g) :
    IsNotation c g (digitText (digits c) ++ List.replicate g.toNat ('0' : CodePoint) ++ ".0") := by
  obtain ⟨d, ds, hcons, hd⟩ := exists_digits_eq_cons hc
  refine ⟨digits c ++ List.replicate g.toNat 0, [0], none,
    areDigits_append.2 ⟨areDigits_digits c, areDigits_replicate _⟩, areDigits_replicate 1,
    .inr ⟨d, ds ++ List.replicate g.toNat 0, by rw [hcons, List.cons_append], hd⟩,
    by decide, ?_, min_le_right _ _, ?_⟩
  · have hvalue : natOfDigits (digits c ++ List.replicate g.toNat 0 ++ [0]) =
        c * 10 ^ g.toNat * 10 := by
      rw [natOfDigits_append, natOfDigits_append, natOfDigits_replicate, natOfDigits_digits,
        List.length_replicate]
      rfl
    have hpow : (10 : ℚ) ^ g = 10 ^ g.toNat := by
      rw [← zpow_natCast, Int.toNat_of_nonneg hg]
    rw [hvalue, hpow]
    push_cast
    norm_num
    ring
  · rw [digitText_append, digitText_replicate, powerPart, List.append_nil]
    rfl

/-- The point stands among the digits, or before them behind zeros. -/
theorem isNotation_point (c : ℕ) (hg : g < 0) {padded : Text}
    (hpadded : padded = List.replicate (g.natAbs + 1 - (digitText (digits c)).length)
      ('0' : CodePoint) ++ digitText (digits c)) :
    IsNotation c g (padded.take (padded.length - g.natAbs) ++ "." ++
      padded.drop (padded.length - g.natAbs)) := by
  obtain ⟨w, f, hw, hf, hwhole, hlength, hvalue, htake, hdrop⟩ :=
    exists_positional (areDigits_digits c) (isWhole_digits c) g.natAbs
  rw [← length_digitText (digits c), ← hpadded] at htake hdrop
  have hne : f ≠ [] := by
    rintro rfl
    rw [List.length_nil] at hlength
    omega
  have hexponent : (none : Option ℤ).getD 0 - (f.length : ℤ) = g := by
    rw [Option.getD_none, hlength]
    omega
  refine ⟨w, f, none, hw, hf, hwhole, fun h => absurd h hne, ?_,
    (min_le_left _ _).trans hexponent.ge, ?_⟩
  · rw [hexponent, hvalue, natOfDigits_digits]
  · rw [htake, hdrop, fractionText_of_ne_nil hne, powerPart, List.append_nil, List.append_assoc]

/-- With a power the point stands behind the first digit. -/
theorem isNotation_power {d : ℕ} {ds : List ℕ} (hcons : digits c = d :: ds) (hd : d ≠ 0) :
    IsNotation c g
      (digitText [d] ++ fractionText ds ++ powerPart (some (g + (d :: ds).length - 1))) := by
  obtain ⟨hdlt, hds⟩ := List.forall_mem_cons.1 (hcons ▸ areDigits_digits c)
  have hexponent : (some (g + ((d :: ds).length : ℤ) - 1)).getD 0 - (ds.length : ℤ) = g := by
    rw [Option.getD_some, List.length_cons]
    push_cast
    ring
  refine ⟨[d], ds, some (g + (d :: ds).length - 1),
    fun d' hd' => List.mem_singleton.1 hd' ▸ hdlt, hds, .inr ⟨d, [], rfl, hd⟩,
    fun _ => Option.some_ne_none _, ?_, (min_le_left _ _).trans hexponent.ge, rfl⟩
  rw [hexponent, List.singleton_append, ← hcons, natOfDigits_digits]

end Notations

/-- The text of a number that is not zero is a notation of it. -/
theorem isNotation_magnitudeText {c : ℕ} (hc : c ≠ 0) (g : ℤ) :
    IsNotation c g (magnitudeText c g) := by
  unfold magnitudeText
  dsimp only
  rw [ofNat_eq_digitText]
  split
  · split
    · next hg => exact isNotation_whole hc hg
    · next hg => exact isNotation_point c (not_le.1 hg) rfl
  · obtain ⟨d, ds, hcons, hd⟩ := exists_digits_eq_cons hc
    have h := isNotation_power (g := g) hcons hd
    rw [← length_digitText] at h
    rw [hcons]
    cases ds with
    | nil => simpa [fractionText, powerPart, show ofString "" = [] from rfl] using h
    | cons d' ds => simpa [fractionText, powerPart] using h

end LedgerTags.Binary64

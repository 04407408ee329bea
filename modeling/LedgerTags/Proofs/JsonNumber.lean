import LedgerTags.Proofs.JsonText
import LedgerTags.Proofs.ShortestText

/-!
# Numbers in JSON

A whole number of 4300 digits at most is read back from its numeral (`readValue_ofInt`), and every
binary number from its shortest one (`readValue_writeFloat`), as long as no character follows that
could be a part of it.
-/

namespace LedgerTags.Json

open Text

/-! ### Parts of a numeral -/

/-- The text does not go on with a part of a number. -/
def EndsNumber (t : Text) : Prop :=
  ∀ c ∈ t.head?, c.isAsciiDigit = false ∧ c.val ≠ 46 ∧ c.val ≠ 69 ∧ c.val ≠ 101

/-- Where a number ends, its digits do. -/
theorem EndsNumber.endsDigits {t : Text} (h : EndsNumber t) : EndsDigits t := fun c hc => (h c hc).1

theorem endsNumber_nil : EndsNumber [] := fun c hc => by cases hc

/-- A number ends before any character that cannot go on with it. -/
theorem endsNumber_cons {c : CodePoint} (t : Text)
    (h : c.isAsciiDigit = false ∧ c.val ≠ 46 ∧ c.val ≠ 69 ∧ c.val ≠ 101) : EndsNumber (c :: t) :=
  fun d hd => by cases hd; exact h

section Numbers

variable {w f : List ℕ} {rest : Text}

/-- The digits of a whole part are read back. -/
theorem readWhole_digitText (hw : AreDigits w) (hwhole : IsWhole w) (hrest : EndsDigits rest) :
    readWhole (digitText w ++ rest) = some (w, rest) := by
  rcases hwhole with rfl | ⟨d, es, rfl, hd⟩
  · rfl
  · have hlt := hw d List.mem_cons_self
    have hread := Decimal.readDigits_digitText hw hrest
    rw [digitText_cons, List.cons_append] at hread ⊢
    rw [readWhole.eq_def]
    dsimp only
    rw [if_neg (by rw [val_digitChar hlt]; omega), if_pos (isAsciiDigit_digitChar hlt), hread]

/-- Where a number ends, no fraction follows. -/
theorem readFraction_none (h : EndsNumber rest) : readFraction rest = none := by
  cases rest with
  | nil => rfl
  | cons c t => exact if_neg (h c rfl).2.1

/-- Where a number ends, no exponent follows. -/
theorem readExponent_none (h : EndsNumber rest) : readExponent rest = none := by
  cases rest with
  | nil => rfl
  | cons c t => exact if_neg (not_or.2 ⟨(h c rfl).2.2.1, (h c rfl).2.2.2⟩)

/-- The digits of a fraction are read back. -/
theorem readFraction_fractionText (hf : AreDigits f) (hne : f ≠ []) (hrest : EndsDigits rest) :
    readFraction (fractionText f ++ rest) = some (f, rest) := by
  have hread := Decimal.readDigits_digitText hf hrest
  obtain ⟨d, es, rfl⟩ := List.exists_cons_of_ne_nil hne
  rw [fractionText_of_ne_nil hne, List.append_assoc]
  show readFraction (('.' : CodePoint) :: (digitText (d :: es) ++ rest)) = _
  rw [readFraction.eq_def]
  dsimp only
  rw [if_pos (by decide), hread]

private theorem readExponent_cons {c : CodePoint} {t u : Text} {negative : Bool} {d : ℕ}
    {ds : List ℕ} (hc : c.val = 101) (hsign : Decimal.readSign t = (negative, u))
    (hdigits : Decimal.readDigits u = (d :: ds, rest)) :
    readExponent (c :: t) =
      some (if negative then -(natOfDigits (d :: ds) : ℤ) else natOfDigits (d :: ds), rest) := by
  rw [readExponent, if_pos (.inr hc), hsign]
  dsimp only
  rw [hdigits]

private theorem readExponent_powerPart (e : ℤ) (hrest : EndsDigits rest) :
    readExponent (Binary64.powerPart (some e) ++ rest) = some (e, rest) := by
  have hread := Decimal.readDigits_digitText (areDigits_padded 2 e.natAbs) hrest
  have hvalue := natOfDigits_padded 2 e.natAbs
  have hne : List.replicate (2 - (digits e.natAbs).length) 0 ++ digits e.natAbs ≠ [] :=
    List.append_ne_nil_of_right_ne_nil _ (isWhole_digits _).ne_nil
  rw [← ofNatPadded_eq] at hread
  obtain ⟨d, ds, hcons⟩ := List.exists_cons_of_ne_nil hne
  rw [hcons] at hread hvalue
  rw [Binary64.powerPart]
  -- The sign stands in the text, and the digits are those of the absolute value.
  by_cases hneg : e < 0
  · rw [if_pos hneg, List.append_assoc, List.append_assoc]
    have hsign : Decimal.readSign ("-" ++ (ofNatPadded 2 e.natAbs ++ rest)) =
        (true, ofNatPadded 2 e.natAbs ++ rest) := rfl
    refine (readExponent_cons rfl hsign hread).trans ?_
    rw [hvalue]
    simp only [Option.some.injEq, Prod.mk.injEq, and_true, if_true]
    omega
  · rw [if_neg hneg, List.append_assoc, List.append_assoc]
    have hsign : Decimal.readSign ("+" ++ (ofNatPadded 2 e.natAbs ++ rest)) =
        (false, ofNatPadded 2 e.natAbs ++ rest) := rfl
    refine (readExponent_cons rfl hsign hread).trans ?_
    rw [hvalue]
    simp only [Option.some.injEq, Prod.mk.injEq, and_true, Bool.false_eq_true, if_false]
    omega

/-- The numeral of a whole number is read as one if it is not too long. -/
theorem readNumber_ofNat {limit n : ℕ} (negative : Bool) (hpos : 0 < limit) (hn : n < 10 ^ limit)
    (hrest : EndsNumber rest) :
    readNumber (some limit) negative (ofNat n ++ rest) =
      .ok (.int (if negative then -(n : ℤ) else n), rest) := by
  have hlength : ¬limit < (digits n).length := by
    rw [length_digits]
    exact not_lt.2 (Decimal.digitCount_le hpos hn)
  have hlong : ((some limit).any fun l => decide (l < (digits n).length)) = false :=
    decide_eq_false hlength
  have hread := readWhole_digitText (areDigits_digits n) (isWhole_digits n) hrest.endsDigits
  rw [ofNat_eq_digitText]
  simp only [readNumber, hread, readFraction_none hrest, readExponent_none hrest, hlong,
    Option.map_none, Option.getD_none, Option.isNone_none, Bool.and_self, if_true,
    natOfDigits_digits]
  rfl

/-- A numeral with a fraction or a power is read as the binary number that it is rounded to. -/
theorem readNumber_float (limit : Option ℕ) (negative : Bool) {x : Option ℤ} (hw : AreDigits w)
    (hwhole : IsWhole w) (hf : AreDigits f) (hx : f = [] → x ≠ none) (hrest : EndsNumber rest) :
    readNumber limit negative (digitText w ++ fractionText f ++ Binary64.powerPart x ++ rest) =
      .ok (.float (.ofScientific negative (natOfDigits (w ++ f)) (x.getD 0 - f.length)), rest) := by
  have hpower : EndsDigits (Binary64.powerPart x ++ rest) := by
    cases x with
    | none => exact hrest.endsDigits
    | some e => exact endsDigits_cons (by decide) _
  have hexponent : readExponent (Binary64.powerPart x ++ rest) = x.map fun e => (e, rest) := by
    cases x with
    | none => exact readExponent_none hrest
    | some e => exact readExponent_powerPart e hrest.endsDigits
  rw [List.append_assoc, List.append_assoc]
  -- Without a fraction it is the power that tells the numeral from that of a whole number.
  by_cases hnil : f = []
  · subst hnil
    obtain ⟨e, rfl⟩ := Option.ne_none_iff_exists'.1 (hx rfl)
    have hfraction : readFraction (Binary64.powerPart (some e) ++ rest) = none := rfl
    have htext : fractionText [] ++ (Binary64.powerPart (some e) ++ rest) =
        Binary64.powerPart (some e) ++ rest := rfl
    have hread := readWhole_digitText hw hwhole hpower
    simp only [readNumber, htext, hread, hfraction, hexponent, Option.map_none, Option.map_some,
      Option.getD_none, Option.getD_some]
    rfl
  · have hends : EndsDigits (fractionText f ++ (Binary64.powerPart x ++ rest)) := by
      rw [fractionText_of_ne_nil hnil]
      exact endsDigits_cons (by decide) _
    have hread := readWhole_digitText hw hwhole hends
    have hfraction := readFraction_fractionText hf hnil hpower
    simp only [readNumber, hread, hfraction, hexponent, Option.map_some, Option.getD_some]
    cases x <;> rfl

end Numbers

/-! ### Numbers as values -/

section Signed

variable {limit : Option ℕ} {fuel d : ℕ} {t rest : Text}

/-- The mark of a negative number. -/
def minus (negative : Bool) : Text := if negative then "-" else ""

/-- No word stands at the start of a text that begins with none of their first letters. -/
theorem readWord_eq_none {c : CodePoint} (h : c.val ∉ [110, 116, 102, 78, 73, 45]) :
    readWord (c :: t) = none := by
  have hdrop {a : CodePoint} (w : Text) (ha : a.val ∈ [110, 116, 102, 78, 73, 45]) :
      dropLiteral? (a :: w) (c :: t) = none :=
    if_neg fun (hac : a = c) => h (hac ▸ ha)
  rw [readWord, List.findSome?_eq_none_iff]
  intro e he
  simp only [words, List.mem_cons, List.not_mem_nil, or_false] at he
  rcases he with rfl | rfl | rfl | rfl | rfl | rfl <;>
    exact Option.map_eq_none_iff.2 (hdrop _ (by decide))

private theorem readWord_digit (hd : d < 10) : readWord (digitChar d :: t) = none := by
  refine readWord_eq_none ?_
  simp only [val_digitChar hd, List.mem_cons, List.not_mem_nil, or_false]
  omega

private theorem readWord_minus_digit (hd : d < 10) :
    readWord (('-' : CodePoint) :: digitChar d :: t) = none := by
  have hval := val_digitChar hd
  have hne : ¬('I' : CodePoint) = digitChar d := by
    intro h
    have hletter : ('I' : CodePoint).val = 73 := by decide
    rw [h, hval] at hletter
    omega
  rw [readWord, List.findSome?_eq_none_iff]
  intro e he
  simp only [words, List.mem_cons, List.not_mem_nil, or_false] at he
  rcases he with rfl | rfl | rfl | rfl | rfl | rfl
  all_goals refine Option.map_eq_none_iff.2 ?_
  all_goals first | exact if_neg (by decide) | exact if_neg hne

/-- A value that begins like a number is read as one. -/
theorem readValue_number (negative : Bool) (hd : d < 10) :
    readValue limit (fuel + 1) (minus negative ++ digitChar d :: t) =
      readNumber limit negative (digitChar d :: t) := by
  have hval := val_digitChar hd
  cases negative with
  | true =>
    show readValue limit (fuel + 1) (('-' : CodePoint) :: digitChar d :: t) = _
    rw [readValue, if_neg (by decide), if_neg (by decide), if_neg (by decide),
      readWord_minus_digit hd]
    exact if_pos (by decide)
  | false =>
    show readValue limit (fuel + 1) (digitChar d :: t) = _
    rw [readValue, if_neg (by omega), if_neg (by omega), if_neg (by omega), readWord_digit hd]
    exact if_neg (by omega)

/-- A whole number that can be written is read back. -/
theorem readValue_ofInt {n : ℤ} (h : Value.hasNumeral n = true) (hrest : EndsNumber rest) :
    readValue (some Numeral.digitLimit) (fuel + 1) (ofInt n ++ rest) = .ok (.int n, rest) := by
  have hlt := of_decide_eq_true h
  have hpos : 0 < Numeral.digitLimit := by decide
  have hnat (k : ℕ) (negative : Bool) (hk : k < 10 ^ Numeral.digitLimit) :
      readValue (some Numeral.digitLimit) (fuel + 1) (minus negative ++ (ofNat k ++ rest)) =
        .ok (.int (if negative then -(k : ℤ) else k), rest) := by
    have hread := readNumber_ofNat negative hpos hk hrest
    obtain ⟨d, ds, hcons⟩ := List.exists_cons_of_ne_nil (isWhole_digits k).ne_nil
    have hd : d < 10 := areDigits_digits k d (hcons ▸ List.mem_cons_self)
    rw [ofNat_eq_digitText, hcons, digitText_cons, List.cons_append] at hread ⊢
    rw [readValue_number negative hd, hread]
  cases n with
  | ofNat k => exact hnat k false hlt
  | negSucc k => exact hnat (k + 1) true hlt

/-- The text of a finite binary number has the form of a numeral with a value that is rounded to
the number. -/
theorem writeFloat_finite {s : Bool} {m : ℕ} {e : ℤ} (h : Binary64.InFormat m e) :
    ∃ (w f : List ℕ) (p : Option ℤ), AreDigits w ∧ AreDigits f ∧ IsWhole w ∧ (f = [] → p ≠ none) ∧
      Binary64.ofScientific s (natOfDigits (w ++ f)) (p.getD 0 - f.length) = .finite s m e h ∧
      writeFloat (.finite s m e h) =
        minus s ++ (digitText w ++ fractionText f ++ Binary64.powerPart p) := by
  have htoText : writeFloat (.finite s m e h) = Binary64.toText (.finite s m e h) := rfl
  rw [htoText, Binary64.toText]
  dsimp only
  split
  · next hm =>
    subst hm
    obtain rfl : e = Binary64.minExponent := h.2.2.2.resolve_left (by decide)
    exact ⟨[0], [0], none, areDigits_replicate 1, areDigits_replicate 1, .inl rfl, by decide, rfl,
      rfl⟩
  · next hm =>
    obtain ⟨w, f, p, hw, hf, hwhole, hp, hvalue, -, htext⟩ :=
      Binary64.isNotation_magnitudeText (Binary64.shortest_ne_zero hm h)
        (Binary64.shortest m e h).2
    refine ⟨w, f, p, hw, hf, hwhole, hp, ?_, by rw [htext]; rfl⟩
    rw [Binary64.ofScientific_sign, Binary64.ofScientific_congr hvalue,
      Binary64.ofScientific_shortest hm h]
    rfl

/-- A floating-point number is read back as it is: its decimal is rounded to the number itself. -/
theorem readValue_writeFloat (x : Binary64) (hrest : EndsNumber rest) :
    readValue limit (fuel + 1) (writeFloat x ++ rest) = .ok (.float x, rest) := by
  cases x with
  | infinity s => cases s <;> rfl
  | nan => rfl
  | finite s m e h =>
    obtain ⟨w, f, p, hw, hf, hwhole, hp, hround, htext⟩ := writeFloat_finite (s := s) h
    have hnumber := readNumber_float limit s hw hwhole hf hp hrest
    rw [htext, List.append_assoc, ← hround]
    obtain ⟨d, ds, rfl⟩ := List.exists_cons_of_ne_nil hwhole.ne_nil
    exact (readValue_number s (hw d List.mem_cons_self)).trans hnumber

end Signed

end LedgerTags.Json

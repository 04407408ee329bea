import LedgerTags.Decimal.Printer
import LedgerTags.Proofs.Magnitudes
import LedgerTags.Proofs.Numerals
import LedgerTags.Proofs.Trimming

/-!
# The text of a decimal is read back

A decimal that is not a NaN is read back from its text if its exponents lie in the range that
reading accepts (`ofText?_toText`). Both notations have one form (`magnitudeText_eq`): whole digits,
a point with further digits if there are any, and an exponent if there is one.
-/

namespace LedgerTags

open Text

/-! ### Characters of a numeral -/

/-- A character that stands for itself in a numeral: no blank, no low line and no comma. -/
def CodePoint.IsPlain (c : CodePoint) : Prop :=
  33 ≤ c.val ∧ c.val < 127 ∧ c.val ≠ 95 ∧ c.val ≠ 44

instance (c : CodePoint) : Decidable c.IsPlain := inferInstanceAs (Decidable (_ ∧ _))

/-- Plain characters are not blank. -/
theorem CodePoint.IsPlain.isSpace {c : CodePoint} (h : c.IsPlain) : c.isSpace = false := by
  obtain ⟨h1, h2, -, -⟩ := h
  simp only [CodePoint.isSpace, Bool.or_eq_false_iff, Bool.and_eq_false_iff,
    decide_eq_false_iff_not, beq_eq_false_iff_ne]
  omega

/-- Digits are plain characters. -/
theorem Text.isPlain_digitText {ds : List Nat} (h : AreDigits ds) :
    ∀ c ∈ digitText ds, c.IsPlain := by
  intro c hc
  obtain ⟨d, hd, rfl⟩ := List.mem_map.1 hc
  have := h d hd
  rw [CodePoint.IsPlain, val_digitChar this]
  omega

/-- There is nothing to trim around plain characters. -/
theorem Text.trim_of_isPlain {t : Text} (h : ∀ c ∈ t, c.IsPlain) : t.trim = t :=
  trim_eq_self (fun c hc => (h c (List.mem_of_head? hc)).isSpace)
    fun c hc => (h c (List.mem_of_getLast? hc)).isSpace

/-- A literal is dropped from the texts that begin with it. -/
theorem Text.dropLiteral?_eq_some_iff {lit t rest : Text} :
    dropLiteral? lit t = some rest ↔ t = lit ++ rest := by
  induction lit generalizing t with
  | nil => exact Option.some_inj
  | cons a lit ih =>
    cases t with
    | nil => exact iff_of_false nofun nofun
    | cons b t =>
      rw [dropLiteral?, List.cons_append, List.cons.injEq]
      split
      · next h => exact ih.trans (and_iff_right h.symm).symm
      · next h => exact iff_of_false nofun fun hab => h hab.1.symm

namespace Decimal

private theorem asciiNumeral?_of_isPlain {t : Text} (h : ∀ c ∈ t, c.IsPlain) :
    asciiNumeral? t = some t := by
  induction t with
  | nil => rfl
  | cons c t ih =>
    obtain ⟨⟨h1, h2, h3, -⟩, ht⟩ := List.forall_mem_cons.1 h
    have hascii : (decide (0 < c.val) && decide (c.val < 128)) = true := by
      rw [Bool.and_eq_true, decide_eq_true_eq, decide_eq_true_eq]
      omega
    rw [asciiNumeral?, if_neg h3, if_pos hascii, ih ht]
    rfl

/-- Plain characters are read as they are, without any being replaced first. -/
theorem ofText?_of_isPlain {t : Text} (h : ∀ c ∈ t, c.IsPlain) : ofText? t = ofAscii? t := by
  rw [ofText?, trim_of_isPlain h, asciiNumeral?_of_isPlain h]
  rfl

/-! ### The form of a text -/

/-- The exponent at the end of a numeral; nothing for zero without a mark. -/
def exponentPart : Option Int → Text
  | none => []
  | some e => "E" ++ exponentText e

/-- Every magnitude is written as digits before and after the point and a power of ten, which
together have its coefficient and its exponent. -/
theorem magnitudeText_eq (c : Nat) (e : Int) :
    ∃ w f x, AreDigits w ∧ AreDigits f ∧ IsWhole w ∧ natOfDigits (w ++ f) = c ∧
      x.getD 0 - f.length = e ∧
      magnitudeText c e = digitText w ++ fractionText f ++ exponentPart x := by
  have hdigits := areDigits_digits c
  unfold magnitudeText
  dsimp only
  rw [ofNat_eq_digitText]
  split
  · next h =>
    split
    · next hplaces =>
      refine ⟨digits c, [], none, hdigits, fun d hd => absurd hd List.not_mem_nil,
        isWhole_digits c, ?_, ?_, ?_⟩
      · rw [List.append_nil, natOfDigits_digits]
      · rw [Option.getD_none, List.length_nil]
        omega
      · rw [fractionText, exponentPart]
        simp
    · next hplaces =>
      obtain ⟨w, f, hw, hf, hwhole, hlength, hvalue, htake, hdrop⟩ :=
        exists_positional hdigits (isWhole_digits c) e.natAbs
      rw [← length_digitText (digits c)] at htake hdrop
      refine ⟨w, f, none, hw, hf, hwhole, ?_, ?_, ?_⟩
      · rw [hvalue, natOfDigits_digits]
      · rw [Option.getD_none, hlength]
        omega
      · have hne : f ≠ [] := fun hnil => hplaces (by rw [← hlength, hnil, List.length_nil])
        rw [htake, hdrop, fractionText_of_ne_nil hne, exponentPart, List.append_nil]
        simp
  -- In the notation with an exponent one digit stands before the point.
  · obtain ⟨d, f, hcons⟩ := List.exists_cons_of_ne_nil (isWhole_digits c).ne_nil
    have hlength : (d :: f).length = digitCount c := by rw [← hcons, length_digits]
    rw [hcons] at hdigits ⊢
    obtain ⟨hd, hf⟩ := List.forall_mem_cons.1 hdigits
    refine ⟨[d], f, some (adjusted c e), fun d' hd' => List.mem_singleton.1 hd' ▸ hd, hf, ?_, ?_,
      ?_, ?_⟩
    · rcases isWhole_digits c with h | ⟨d', f', h, hne⟩ <;> rw [hcons] at h <;> cases h
      · exact .inl rfl
      · exact .inr ⟨d, [], rfl, hne⟩
    · rw [List.singleton_append, ← hcons, natOfDigits_digits]
    · rw [Option.getD_some, adjusted, ← hlength, List.length_cons, Nat.add_sub_cancel]
      omega
    · cases f with
      | nil => rfl
      | cons d' f => simp [fractionText, exponentPart]

/-! ### Reading back -/

/-- The exponents of a decimal are in the range that reading accepts. -/
def IsReadable : Decimal → Prop
  | .finite s c e => finite? s c e = some (.finite s c e)
  | _ => True

private theorem finite?_eq_some {s : Bool} {c : Nat} {e : Int} {x : Decimal}
    (h : finite? s c e = some x) : x = .finite s c e ∧ x.IsReadable := by
  have heq : x = .finite s c e := by
    simp only [finite?, Option.ite_none_left_eq_some, Option.some.injEq] at h
    exact h.2.2.symm
  subst heq
  exact ⟨rfl, h⟩

/-- What is read is readable. -/
theorem isReadable_of_ofText? {t : Text} {x : Decimal} (h : ofText? t = some x) : x.IsReadable := by
  obtain ⟨u, -, h⟩ := Option.bind_eq_some_iff.1 h
  unfold ofAscii? at h
  dsimp only at h
  split at h
  · cases h
    trivial
  split at h
  · obtain ⟨_, -, rfl⟩ := Option.map_eq_some_iff.1 h
    trivial
  split at h
  · obtain ⟨_, -, rfl⟩ := Option.map_eq_some_iff.1 h
    trivial
  -- Everything that is no word is a finite number, and its exponents are checked.
  simp only [readFinite?, Option.ite_none_left_eq_some] at h
  obtain ⟨-, h⟩ := h
  split at h
  · cases h
  · exact (finite?_eq_some h).2

private theorem readSign_signText (s : Bool) {t : Text}
    (h : ∀ c ∈ t.head?, c.val ≠ 45 ∧ c.val ≠ 43) : readSign (signText s ++ t) = (s, t) := by
  cases s with
  | true => rfl
  | false =>
    cases t with
    | nil => rfl
    | cons c t =>
      obtain ⟨h1, h2⟩ := h c rfl
      show readSign (c :: t) = _
      rw [readSign, if_neg h1, if_neg h2]

/-- A mark, a sign and digits are read as an exponent. -/
theorem readExponent?_mark {c : CodePoint} (hc : c.val = 69 ∨ c.val = 101) (e : Int)
    {ds : List Nat} (hds : AreDigits ds) (hne : ds ≠ []) (hvalue : natOfDigits ds = e.natAbs) :
    readExponent? (c :: ((if e < 0 then "-" else "+" : Text) ++ digitText ds)) = some e := by
  have hread := readDigits_digitText hds endsDigits_nil
  rw [List.append_nil] at hread
  obtain ⟨d, es, rfl⟩ := List.exists_cons_of_ne_nil hne
  by_cases hneg : e < 0
  · have hsign : readSign ("-" ++ digitText (d :: es)) = (true, digitText (d :: es)) := rfl
    rw [if_pos hneg, readExponent?, if_pos hc, hsign]
    dsimp only
    rw [hread]
    simp only [hvalue, Option.some.injEq, if_true]
    omega
  · have hsign : readSign ("+" ++ digitText (d :: es)) = (false, digitText (d :: es)) := rfl
    rw [if_neg hneg, readExponent?, if_pos hc, hsign]
    dsimp only
    rw [hread]
    simp only [hvalue, Option.some.injEq, Bool.false_eq_true, if_false]
    omega

private theorem readExponent?_exponentPart (x : Option Int) :
    readExponent? (exponentPart x) = some (x.getD 0) := by
  cases x with
  | none => rfl
  | some e =>
    rw [exponentPart, exponentText, ofNat_eq_digitText]
    exact readExponent?_mark (.inl rfl) e (areDigits_digits _) (isWhole_digits _).ne_nil
      (natOfDigits_digits _)

private theorem endsDigits_exponentPart (x : Option Int) : EndsDigits (exponentPart x) := by
  cases x with
  | none => exact endsDigits_nil
  | some e => exact endsDigits_cons (by decide) _

/-- A numeral with whole digits, a fraction and an exponent is read as these say. -/
theorem readFinite?_numeral (s : Bool) {w f : List Nat} {rest : Text} {e : Int} (hw : AreDigits w)
    (hf : AreDigits f) (hwhole : IsWhole w) (hends : EndsDigits rest)
    (hpoint : readPoint rest = ([], rest)) (hexponent : readExponent? rest = some e) :
    readFinite? s (digitText w ++ (fractionText f ++ rest)) =
      finite? s (natOfDigits (w ++ f)) (e - f.length) := by
  have hends' : EndsDigits (fractionText f ++ rest) := by
    cases f with
    | nil => exact hends
    | cons d f => exact endsDigits_cons (by decide) _
  have hfraction : readPoint (fractionText f ++ rest) = (f, rest) := by
    cases f with
    | nil => exact hpoint
    | cons d f => exact readDigits_digitText hf hends
  have hempty : (w.isEmpty && f.isEmpty) = false := by
    rw [List.isEmpty_eq_false_iff.2 hwhole.ne_nil, Bool.false_and]
  rw [readFinite?, readDigits_digitText hw hends']
  dsimp only
  rw [hfraction]
  dsimp only
  rw [hempty, hexponent]
  dsimp only
  rw [if_neg Bool.false_ne_true]

private theorem readFinite?_magnitudeText (s : Bool) (c : Nat) (e : Int) :
    readFinite? s (magnitudeText c e) = finite? s c e := by
  obtain ⟨w, f, x, hw, hf, hwhole, hvalue, hexponent, htext⟩ := magnitudeText_eq c e
  have hpoint : readPoint (exponentPart x) = ([], exponentPart x) := by cases x <;> rfl
  rw [htext, List.append_assoc, readFinite?_numeral s hw hf hwhole (endsDigits_exponentPart x)
    hpoint (readExponent?_exponentPart x), hvalue, hexponent]

private theorem head_magnitudeText (c : Nat) (e : Int) :
    ∃ d t, d < 10 ∧ magnitudeText c e = digitChar d :: t := by
  obtain ⟨w, f, x, hw, -, hwhole, -, -, htext⟩ := magnitudeText_eq c e
  obtain ⟨d, ds, rfl⟩ := List.exists_cons_of_ne_nil hwhole.ne_nil
  exact ⟨d, _, hw d List.mem_cons_self, htext⟩

/-- A numeral that begins with a digit is none of the words. -/
theorem ofAscii?_of_digit (s : Bool) {d : Nat} (hd : d < 10) (t : Text) :
    ofAscii? (signText s ++ digitChar d :: t) = readFinite? s (digitChar d :: t) := by
  have hval : (digitChar d).val = 48 + d := val_digitChar hd
  have hsign : readSign (signText s ++ digitChar d :: t) = (s, digitChar d :: t) := by
    refine readSign_signText s fun c hc => ?_
    cases hc
    omega
  -- The words are compared in lower case, and no lower case begins with a digit.
  have hlower : Text.lower (digitChar d :: t) =
      digitChar d :: Text.lowerAfter [digitChar d] t := by
    have hself : (digitChar d).lower = digitChar d := by
      rw [CodePoint.lower, if_pos (by omega), if_neg (by omega)]
    rw [Text.lower, Text.lowerAfter, if_neg (by omega), if_neg (by omega), hself]
    rfl
  have hne {a : CodePoint} (ha : 57 < a.val) : ¬a = digitChar d := by
    rintro rfl
    omega
  rw [ofAscii?, hsign]
  dsimp only
  rw [hlower, if_neg]
  · have hnan : dropLiteral? "nan" (digitChar d :: Text.lowerAfter [digitChar d] t) = none :=
      if_neg (hne (by decide))
    have hsnan : dropLiteral? "snan" (digitChar d :: Text.lowerAfter [digitChar d] t) = none :=
      if_neg (hne (by decide))
    rw [hnan, hsnan]
  · rintro (h | h)
    · exact hne (by decide) (List.cons.inj h).1.symm
    · exact hne (by decide) (List.cons.inj h).1.symm

/-- The sign is written in plain characters. -/
theorem isPlain_signText (s : Bool) : ∀ c ∈ signText s, c.IsPlain := by cases s <;> decide

/-- A fraction is written in plain characters. -/
theorem isPlain_fractionText {ds : List Nat} (h : AreDigits ds) :
    ∀ c ∈ fractionText ds, c.IsPlain := by
  rw [fractionText]
  split
  · exact fun c hc => absurd hc List.not_mem_nil
  · exact List.forall_mem_append.2 ⟨by decide, isPlain_digitText h⟩

/-- A number is written in plain characters. -/
theorem isPlain_toText {x : Decimal} (h : x.isNaN = false) : ∀ c ∈ x.toText, c.IsPlain := by
  cases x with
  | finite s c e =>
    obtain ⟨w, f, x, hw, hf, -, -, -, htext⟩ := magnitudeText_eq c e
    have hexponent : ∀ c ∈ exponentPart x, c.IsPlain := by
      cases x with
      | none => exact fun c hc => absurd hc List.not_mem_nil
      | some e =>
        rw [exponentPart, exponentText, ofNat_eq_digitText]
        refine List.forall_mem_append.2 ⟨by decide, List.forall_mem_append.2 ⟨?_, ?_⟩⟩
        · split <;> decide
        · exact isPlain_digitText (areDigits_digits _)
    rw [toText, htext]
    exact List.forall_mem_append.2 ⟨isPlain_signText s, List.forall_mem_append.2
      ⟨List.forall_mem_append.2 ⟨isPlain_digitText hw, isPlain_fractionText hf⟩, hexponent⟩⟩
  | infinity s => exact List.forall_mem_append.2 ⟨isPlain_signText s, by decide⟩
  | nan => cases h

/-- A decimal is read back from its text, unless it is a NaN. -/
theorem ofText?_toText {x : Decimal} (h : x.IsReadable) (hnan : x.isNaN = false) :
    ofText? x.toText = some x := by
  rw [ofText?_of_isPlain (isPlain_toText hnan)]
  cases x with
  | finite s c e =>
    obtain ⟨d, t, hd, htext⟩ := head_magnitudeText c e
    rw [toText, htext, ofAscii?_of_digit s hd, ← htext, readFinite?_magnitudeText]
    exact h
  | infinity s => cases s <;> decide
  | nan => cases hnan

/-! ### Whole numbers -/

/-- A whole number has the text of its numeral. -/
theorem toText_ofInt (n : Int) : (ofInt n).toText = Text.ofInt n := by
  have hmagnitude (c : Nat) : magnitudeText c 0 = Text.ofNat c := by
    have hadjusted : (-6 : Int) ≤ adjusted c 0 := by
      rw [adjusted]
      omega
    rw [magnitudeText, if_pos ⟨le_rfl, hadjusted⟩]
    rfl
  cases n with
  | ofNat k => exact hmagnitude k
  | negSucc k =>
    have hnegative : ofInt (Int.negSucc k) = .finite true (k + 1) 0 := by
      rw [ofInt, decide_eq_true (Int.negSucc_lt_zero k)]
      rfl
    rw [hnegative, toText, hmagnitude]
    rfl

/-- Whole numbers with no more digits than the limit have an exponent that reading accepts. -/
theorem isReadable_ofInt {n : Int} {limit : Nat} (hpos : 0 < limit) (hlimit : limit ≤ 10 ^ 17)
    (h : n.natAbs < 10 ^ limit) : (ofInt n).IsReadable := by
  have hcount := digitCount_le hpos h
  show finite? _ n.natAbs 0 = _
  rw [finite?, if_neg (by decide), if_neg]
  rw [exponentLimit]
  split
  · omega
  · rw [adjusted]
    omega

end Decimal

end LedgerTags

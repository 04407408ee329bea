import LedgerTags.Calendar.Period
import LedgerTags.Proofs.DecimalText
import LedgerTags.Proofs.Magnitudes

/-!
# The text of a date is read back

The text of a date names the period that consists of this day alone (`Period.ofText_toText`). Its
three numbers are padded to digits of a fixed length, so each of them is read by position.
-/

namespace LedgerTags

open Text

/-! ### Padded numerals -/

private theorem CodePoint.decimalValue?_digitChar {d : ℕ} (h : d < 10) :
    (digitChar d).decimalValue? = some d := by
  have hval := val_digitChar h
  rw [decimalValue?, if_pos (by omega), if_pos (by omega), hval, Nat.add_sub_cancel_left]

namespace Text

/-- A number with few digits is padded to a numeral of the given width. -/
theorem exists_ofNatPadded {n : ℕ} (width : ℕ) (hpos : 0 < width) (h : n < 10 ^ width) :
    ∃ ds, ds.length = width ∧ AreDigits ds ∧ natOfDigits ds = n ∧
      ofNatPadded width n = digitText ds := by
  refine ⟨_, ?_, areDigits_padded width n, natOfDigits_padded width n, ofNatPadded_eq width n⟩
  have hle := Decimal.digitCount_le hpos h
  rw [List.length_append, List.length_replicate, length_digits]
  omega

private theorem ofNatPadded_two {n : ℕ} (h : n < 100) :
    ∃ a b, a < 10 ∧ b < 10 ∧ 10 * a + b = n ∧ ofNatPadded 2 n = digitText [a, b] := by
  obtain ⟨ds, hlength, hds, hvalue, htext⟩ := exists_ofNatPadded 2 (by decide) h
  obtain ⟨a, b, rfl⟩ := List.length_eq_two.1 hlength
  refine ⟨a, b, hds a (by simp), hds b (by simp), ?_, htext⟩
  rw [← hvalue]
  simp [natOfDigits]

private theorem ofNatPadded_four {n : ℕ} (h : n < 10000) :
    ∃ a b c d, (a < 10 ∧ b < 10 ∧ c < 10 ∧ d < 10) ∧ 1000 * a + 100 * b + 10 * c + d = n ∧
      ofNatPadded 4 n = digitText [a, b, c, d] := by
  obtain ⟨ds, hlength, hds, hvalue, htext⟩ := exists_ofNatPadded 4 (by decide) h
  obtain ⟨a, b, c, d, rfl⟩ : ∃ a b c d, ds = [a, b, c, d] := by
    match ds, hlength with
    | [a, b, c, d], _ => exact ⟨a, b, c, d, rfl⟩
  refine ⟨a, b, c, d, ⟨hds a (by simp), hds b (by simp), hds c (by simp), hds d (by simp)⟩, ?_,
    htext⟩
  rw [← hvalue]
  simp [natOfDigits]
  omega

end Text

/-! ### The parts of a date -/

namespace DatePattern

private theorem isSeparator_digitChar {d : ℕ} (h : d < 10) : isSeparator (digitChar d) = false := by
  have hval := val_digitChar h
  simp only [isSeparator, Bool.or_eq_false_iff, beq_eq_false_iff_ne]
  omega

private theorem yearNumber?_digitText {a b c d : ℕ} (ha : a < 10) (hb : b < 10) (hc : c < 10)
    (hd : d < 10) :
    yearNumber? (digitText [a, b, c, d]) = some (1000 * a + 100 * b + 10 * c + d) := by
  show yearNumber? [digitChar a, digitChar b, digitChar c, digitChar d] = _
  rw [yearNumber?, CodePoint.decimalValue?_digitChar ha, CodePoint.decimalValue?_digitChar hb,
    CodePoint.decimalValue?_digitChar hc, CodePoint.decimalValue?_digitChar hd]
  rfl

private theorem shortNumber?_digitText {a b : ℕ} (ha : a < 10) (hb : b < 10) :
    shortNumber? (digitText [a, b]) = some (10 * a + b) := by
  show shortNumber? [digitChar a, digitChar b] = _
  rw [shortNumber?, CodePoint.decimalValue?_digitChar ha, CodePoint.decimalValue?_digitChar hb]
  rfl

/-- What stands before the first separator is a part of its own. -/
theorem fields_append {a : Text} (ha : ∀ x ∈ a, isSeparator x = false) {c : CodePoint}
    (hc : isSeparator c = true) (t : Text) : fields (a ++ c :: t) = a :: fields t := by
  induction a with
  | nil => rw [List.nil_append, fields, if_pos hc]
  | cons x a ih =>
    obtain ⟨hx, ha⟩ := List.forall_mem_cons.1 ha
    rw [List.cons_append, fields, if_neg (by rw [hx]; decide), ih ha]

/-- Without a separator the text is the only part. -/
theorem fields_of_forall {a : Text} (ha : ∀ x ∈ a, isSeparator x = false) : fields a = [a] := by
  induction a with
  | nil => rfl
  | cons x a ih =>
    obtain ⟨hx, ha⟩ := List.forall_mem_cons.1 ha
    rw [fields, if_neg (by rw [hx]; decide), ih ha]

/-- Digits do not separate the parts of a date. -/
theorem isSeparator_digitText {ds : List ℕ} (h : AreDigits ds) :
    ∀ x ∈ digitText ds, isSeparator x = false := by
  intro x hx
  obtain ⟨d, hd, rfl⟩ := List.mem_map.1 hx
  exact isSeparator_digitChar (h d hd)

/-- A padded year is a numeral that is read as the year. -/
theorem exists_yearText {n : ℕ} (h : n < 10000) :
    ∃ ds, AreDigits ds ∧ yearNumber? (digitText ds) = some n ∧ ofNatPadded 4 n = digitText ds := by
  obtain ⟨a, b, c, d, ⟨ha, hb, hc, hd⟩, hn, htext⟩ := ofNatPadded_four h
  exact ⟨[a, b, c, d], by simp [AreDigits, *], by rw [yearNumber?_digitText ha hb hc hd, hn], htext⟩

/-- A padded month or day is a numeral that is read as its number. -/
theorem exists_shortText {n : ℕ} (h : n < 100) :
    ∃ ds, AreDigits ds ∧ shortNumber? (digitText ds) = some n ∧ ofNatPadded 2 n = digitText ds := by
  obtain ⟨a, b, ha, hb, hn, htext⟩ := ofNatPadded_two h
  exact ⟨[a, b], by simp [AreDigits, *], by rw [shortNumber?_digitText ha hb, hn], htext⟩

/-- The text of a date is three numerals with hyphens between them. -/
theorem exists_toText_eq (d : Date) :
    ∃ y m n : List ℕ, (AreDigits y ∧ AreDigits m ∧ AreDigits n) ∧
      yearNumber? (digitText y) = some d.year ∧ shortNumber? (digitText m) = some d.month ∧
      shortNumber? (digitText n) = some d.day ∧
      d.toText = digitText y ++
        ('-' : CodePoint) :: (digitText m ++ ('-' : CodePoint) :: digitText n) := by
  obtain ⟨-, hyear, -, hmonth, -, hday⟩ := d.valid
  have hlength : daysInMonth d.year d.month ≤ 31 := by
    unfold daysInMonth
    split <;> first | omega | (split <;> omega)
  obtain ⟨y, hy, hyear, hytext⟩ := exists_yearText (n := d.year) (by omega)
  obtain ⟨m, hm, hmonth, hmtext⟩ := exists_shortText (n := d.month) (by omega)
  obtain ⟨n, hn, hday, hntext⟩ := exists_shortText (n := d.day) (by omega)
  refine ⟨y, m, n, ⟨hy, hm, hn⟩, hyear, hmonth, hday, ?_⟩
  rw [Date.toText, hytext, hmtext, hntext, List.append_assoc, List.append_assoc, List.append_assoc]
  rfl

/-- A date is written in plain characters. -/
theorem isPlain_toText (d : Date) : ∀ c ∈ d.toText, c.IsPlain := by
  obtain ⟨y, m, n, ⟨hy, hm, hn⟩, -, -, -, htext⟩ := exists_toText_eq d
  rw [htext]
  exact List.forall_mem_append.2 ⟨isPlain_digitText hy, List.forall_mem_cons.2 ⟨by decide,
    List.forall_mem_append.2 ⟨isPlain_digitText hm, List.forall_mem_cons.2 ⟨by decide,
      isPlain_digitText hn⟩⟩⟩⟩

/-- The text of a date says its year, month and day. -/
theorem ofText?_toText (d : Date) : ofText? d.toText = some (.day d.year d.month d.day) := by
  obtain ⟨y, m, n, ⟨hy, hm, hn⟩, hyear, hmonth, hday, htext⟩ := exists_toText_eq d
  rw [ofText?, trim_of_isPlain (isPlain_toText d), htext,
    fields_append (isSeparator_digitText hy) (by decide),
    fields_append (isSeparator_digitText hm) (by decide),
    fields_of_forall (isSeparator_digitText hn)]
  show (yearNumber? _).bind (fun y => (shortNumber? _).bind fun m => (shortNumber? _).bind fun d =>
    some (DatePattern.day y m d)) = _
  rw [hyear, hmonth, hday]
  rfl

end DatePattern

/-- The text of a date names the period of this day alone. -/
theorem Period.ofText_toText (d : Date) : Period.ofText d.toText = .ok (some ⟨.day, d, d⟩) := by
  have hday : Date.ofNumbers d.year d.month d.day = .ok d := dif_pos d.valid
  rw [Period.ofText, DatePattern.ofText?_toText]
  show DatePattern.period _ = _
  rw [DatePattern.period, hday]

end LedgerTags

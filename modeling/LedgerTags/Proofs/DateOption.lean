import LedgerTags.Proofs.CommandRuns
import LedgerTags.Proofs.LetterCase
import LedgerTags.Proofs.PeriodGrammar

/-!
# The words for a date

The words for a date are a number of days, a range with a colon, or a text that names a period.
What looks like a number of days is told by its characters: all but the last one have a digit value,
and the last one is the letter d. Not all of these characters can stand in a numeral, and a numeral
has a limit, so some words look like a number of days and are none (`IsNoNumberOfDays`). These are
the only words that cannot be read, and no text that names a period is among them
(`dateArgument_reads`).
-/

namespace LedgerTags

open Text

/-! ### Characters -/

namespace CodePoint

variable {c : CodePoint} {d : ℕ}

private theorem isDecimal_iff : c.isDecimal = true ↔ ∃ d, c.decimalValue? = some d :=
  Option.isSome_iff_exists

/-- A character with a digit value that is no decimal digit lies beyond ASCII and is no blank. -/
theorem other_of_isDigit (h : c.isDigit = true) (hc : c.isDecimal = false) :
    128 ≤ c.val ∧ c.isSpace = false := by
  have hranges : ∀ r ∈ Table.otherDigit, 128 ≤ r.1 ∧
      ∀ p ∈ Table.spaceRanges, r.2 < p.1 ∨ p.2 < r.1 := by
    decide
  rw [isDigit, hc, Bool.false_or, Table.covers_eq_find?] at h
  obtain ⟨n, hn⟩ := Option.isSome_iff_exists.1 h
  obtain ⟨_, hrun, hmaps⟩ := Table.CaseRun.exists_maps hn
  obtain ⟨r, hr, rfl⟩ := List.mem_map.1 hrun
  have hfirst : r.1 ≤ c.val := hmaps.first_le
  have hlast : c.val ≤ r.2 := hmaps.le_last
  obtain ⟨hascii, hspace⟩ := hranges r hr
  refine ⟨hascii.trans hfirst, isSpace_of_outside fun p hp => ?_⟩
  have := hspace p hp
  omega

/-- How a character is written in a numeral of ASCII: as a digit, or as a question mark. -/
def toNumeralChar (c : CodePoint) : CodePoint := (c.decimalValue?.map digitChar).getD '?'

private theorem toNumeralChar_of_eq_some (h : c.decimalValue? = some d) :
    c.toNumeralChar = digitChar d := by
  rw [toNumeralChar, h]
  rfl

private theorem toNumeralChar_of_not_isDecimal (h : c.isDecimal = false) :
    c.toNumeralChar = '?' := by
  rw [toNumeralChar, Option.not_isSome_iff_eq_none.1 (Bool.eq_false_iff.1 h)]
  rfl

/-- A decimal digit of ASCII is written as it is. -/
theorem toNumeralChar_of_ascii (hc : c.val < 128) (h : c.isDecimal = true) :
    c.toNumeralChar = c := by
  obtain ⟨d, hd⟩ := isDecimal_iff.1 h
  rw [toNumeralChar_of_eq_some hd]
  rw [decimalValue?, if_pos hc] at hd
  split_ifs at hd with hdigit
  obtain rfl := Option.some.inj hd
  rw [digitChar, Nat.add_sub_cancel' hdigit.1, ofNat_val]

/-- What a character is written as lies among the digits or is the question mark. -/
theorem val_toNumeralChar (c : CodePoint) :
    48 ≤ c.toNumeralChar.val ∧ c.toNumeralChar.val ≤ 63 ∧
      Numeral.isNumeralChar 10 c.toNumeralChar = c.isDecimal := by
  cases h : c.isDecimal with
  | false =>
    rw [toNumeralChar_of_not_isDecimal h]
    decide
  | true =>
    obtain ⟨d, hd⟩ := isDecimal_iff.1 h
    rw [toNumeralChar_of_eq_some hd]
    have hlt := decimalValue?_lt hd
    generalize d = e at hlt
    revert e
    decide

end CodePoint

/-! ### Numerals -/

/-- A text spells at most one number. -/
theorem Text.Spells.unique {t : Text} {m n : ℕ} (hm : t.Spells m) (hn : t.Spells n) : m = n := by
  obtain ⟨ds, hds, rfl⟩ := hm
  obtain ⟨es, hes, rfl⟩ := hn
  have hfunction : Relator.RightUnique fun (c : CodePoint) d => c.decimalValue? = some d :=
    fun _ _ _ h h' => Option.some.inj (h.symm.trans h')
  rw [hfunction.forall₂ hds hes]

namespace Numeral

variable {t : Text}

private theorem toAscii_of_isDigit (h : ∀ c ∈ t, c.isDigit = true) :
    toAscii t = t.map CodePoint.toNumeralChar := by
  refine List.map_congr_left fun c hc => ?_
  cases hdecimal : c.isDecimal with
  | true =>
    obtain ⟨d, hd⟩ := CodePoint.isDecimal_iff.1 hdecimal
    split_ifs with hascii hspace
    · exact (CodePoint.toNumeralChar_of_ascii hascii hdecimal).symm
    · rw [CodePoint.isSpace_of_decimalValue? hd] at hspace
      cases hspace
    · rw [CodePoint.toNumeralChar_of_eq_some hd, hd]
      rfl
  | false =>
    obtain ⟨hascii, hspace⟩ := CodePoint.other_of_isDigit (h c hc) hdecimal
    have hnone : c.decimalValue? = none :=
      Option.not_isSome_iff_eq_none.1 (Bool.eq_false_iff.1 hdecimal)
    rw [if_neg (by omega), if_neg (by rw [hspace]; decide), hnone,
      CodePoint.toNumeralChar_of_not_isDecimal hdecimal]

/-- No character of a numeral is taken off as a blank or read as a sign. -/
theorem readSign_normalize_of_isDigit (h : ∀ c ∈ t, c.isDigit = true) :
    Decimal.readSign (normalize t) = (false, t.map CodePoint.toNumeralChar) := by
  have hblank (u : Text) (hu : ∀ c ∈ u, 48 ≤ c.val) : u.dropWhile isBlank = u := by
    cases u with
    | nil => rfl
    | cons c u =>
      have hc := hu c List.mem_cons_self
      refine List.dropWhile_cons_of_neg ?_
      rw [isBlank, Bool.or_eq_true, Bool.and_eq_true, decide_eq_true_eq, decide_eq_true_eq,
        beq_iff_eq]
      omega
  have hchars : ∀ c ∈ t.map CodePoint.toNumeralChar, 48 ≤ c.val := by
    intro c hc
    obtain ⟨x, -, rfl⟩ := List.mem_map.1 hc
    exact (CodePoint.val_toNumeralChar x).1
  rw [normalize, toAscii_of_isDigit h, hblank _ hchars,
    hblank _ fun c hc => hchars c (List.mem_reverse.1 hc), List.reverse_reverse]
  cases hu : t.map CodePoint.toNumeralChar with
  | nil => rfl
  | cons c u =>
    have hc := hchars c (hu ▸ List.mem_cons_self)
    rw [Decimal.readSign, if_neg (by omega), if_neg (by omega)]

private theorem digits?_digitText {ds : List ℕ} (hds : AreDigits ds) (hne : ds ≠ []) :
    digits? 10 (digitText ds) = some ds := by
  have hvalue (d : ℕ) (hd : d < 10) : digitValue? (digitChar d) = some d := by
    rw [digitValue?, val_digitChar hd, if_pos (by omega), Nat.add_sub_cancel_left]
  induction ds with
  | nil => exact absurd rfl hne
  | cons d ds ih =>
    obtain ⟨hd, hds⟩ := List.forall_mem_cons.1 hds
    rw [digitText_cons, digits?, hvalue d hd]
    dsimp only
    rw [if_neg (by omega)]
    cases ds with
    | nil => rfl
    | cons e es =>
      have he : e < 10 := hds e List.mem_cons_self
      have hlow : (digitChar e).val ≠ 95 := by
        rw [val_digitChar he]
        omega
      have hrest := ih hds (List.cons_ne_nil e es)
      rw [digitText_cons] at hrest ⊢
      dsimp only
      rw [if_neg hlow, hrest]
      rfl

/-- Decimal digits as the numbers that they stand for. -/
theorem exists_digits (h : ∀ c ∈ t, c.isDecimal = true) :
    ∃ ds, List.Forall₂ (fun c d => CodePoint.decimalValue? c = some d) t ds ∧ AreDigits ds ∧
      t.map CodePoint.toNumeralChar = digitText ds := by
  induction t with
  | nil => exact ⟨[], .nil, fun _ hd => absurd hd List.not_mem_nil, rfl⟩
  | cons c t ih =>
    obtain ⟨hc, ht⟩ := List.forall_mem_cons.1 h
    obtain ⟨d, hd⟩ := CodePoint.isDecimal_iff.1 hc
    obtain ⟨ds, hds, hdigits, htext⟩ := ih ht
    refine ⟨d :: ds, .cons hd hds, List.forall_mem_cons.2 ⟨CodePoint.decimalValue?_lt hd, hdigits⟩,
      ?_⟩
    rw [List.map_cons, htext, CodePoint.toNumeralChar_of_eq_some hd, digitText_cons]

/-- Characters with digit values are the numeral of a number exactly if they are decimal digits, and
not too many. -/
theorem int?_eq_ok_iff (h : ∀ c ∈ t, c.isDigit = true) (hne : t ≠ []) {k : ℤ} :
    int? 10 t = .ok k ↔ ∃ n : ℕ, k = n ∧ t.Spells n ∧ t.length ≤ digitLimit := by
  have hcomp : isNumeralChar 10 ∘ CodePoint.toNumeralChar = CodePoint.isDecimal :=
    funext fun c => (CodePoint.val_toNumeralChar c).2.2
  have hmark (u : Text) : dropBaseMark 10 u = u := rfl
  have hbase : 10 ∉ [2, 4, 8, 16, 32] := by decide
  rw [int?, readSign_normalize_of_isDigit h]
  dsimp only
  rw [hmark, List.takeWhile_map, List.dropWhile_map, hcomp, List.isEmpty_map]
  by_cases hall : ∀ c ∈ t, c.isDecimal = true
  · obtain ⟨ds, hds, hdigits, htext⟩ := exists_digits hall
    have hlength : ds.length = t.length := hds.length_eq.symm
    have hds' : ds ≠ [] := by
      rw [← List.length_pos_iff, hlength]
      exact List.length_pos_iff.2 hne
    rw [List.takeWhile_eq_self_iff.2 hall, List.dropWhile_eq_nil_iff.2 hall, htext,
      digits?_digitText hdigits hds']
    dsimp only
    rw [hlength]
    by_cases hlimit : digitLimit < t.length
    · rw [if_pos ⟨hlimit, hbase⟩]
      exact iff_of_false (by simp) fun ⟨_, _, _, hle⟩ => absurd hlimit (Nat.not_lt.2 hle)
    · rw [if_neg fun h => hlimit h.1, if_neg (by decide), if_neg (by decide), Except.ok.injEq]
      constructor
      · rintro rfl
        exact ⟨_, rfl, ⟨ds, hds, rfl⟩, Nat.le_of_not_lt hlimit⟩
      · rintro ⟨n, rfl, hn, -⟩
        exact congrArg Int.ofNat (Spells.unique ⟨ds, hds, rfl⟩ hn)
  · have hrest : (t.dropWhile CodePoint.isDecimal).isEmpty = false := by
      rw [← Bool.not_eq_true, List.isEmpty_iff, List.dropWhile_eq_nil_iff]
      exact hall
    rw [hrest]
    refine iff_of_false (fun hok => ?_) fun ⟨n, _, hn, _⟩ => hall fun c hc =>
      CodePoint.isDecimal_iff.2 (hn.exists_decimalValue? c hc)
    split at hok
    · cases hok
    · rw [if_pos (by rfl : (!false) = true)] at hok
      split_ifs at hok

end Numeral

/-! ### The letter behind the digits -/

/-- The letter d, small or capital, is what becomes the small letter. -/
theorem Text.lower_eq_d_iff {c : CodePoint} :
    Text.lower [c] = ("d" : Text) ↔ c ∈ ("dD" : Text) := by
  constructor
  · intro h
    have hsigma : c.val ≠ 0x3a3 := by
      intro hc
      obtain rfl : c = capitalSigma := CodePoint.ext_val hc
      revert h
      decide
    have hdotted : c.val ≠ 0x130 := by
      intro hc
      rw [Text.lower, lowerAfter_cons, lowerAt, if_neg hsigma, if_pos hc] at h
      cases h
    rw [Text.lower, lowerAfter_cons, lowerAt, if_neg hsigma, if_neg hdotted] at h
    have hlower : c.lower = CodePoint.ofChar 'd' := (List.cons.inj h).1
    rw [CodePoint.lower_eq hdotted] at hlower
    cases hfind : Table.CaseRun.find? c.val Table.lowerRuns with
    | none =>
      rw [hfind] at hlower
      obtain rfl : c = CodePoint.ofChar 'd' := hlower
      exact List.mem_cons_self
    | some n =>
      -- One run of the table has the letter among its images, the one of the capitals of ASCII.
      have hruns : ∀ r ∈ Table.lowerRuns, r.image ≤ 100 → 100 ≤ r.lastImage →
          r.first = 65 ∧ r.image = 97 := by
        decide +kernel
      rw [hfind] at hlower
      have hn : n = 100 := by
        rw [← CodePoint.val_ofNat (Table.CaseRun.isLowerPair_of_find? hfind).lt]
        exact congrArg CodePoint.val hlower
      obtain ⟨r, hr, hmaps⟩ := Table.CaseRun.exists_maps hfind
      have hfirst := hmaps.first_le
      have hlast := hmaps.le_last
      have himage := hmaps.image
      rw [hn] at himage
      obtain ⟨hcapital, hsmall⟩ := hruns r hr (by omega) (by rw [Table.CaseRun.lastImage]; omega)
      obtain rfl : c = CodePoint.ofChar 'D' := CodePoint.ext_val (by
        show c.val = 68
        omega)
      exact List.mem_cons_of_mem _ List.mem_cons_self
  · intro h
    have hall : ∀ c ∈ ("dD" : Text), Text.lower [c] = ("d" : Text) := by decide
    exact hall c h

/-! ### Colons -/

private theorem Text.splitAtFirst?_append {c : CodePoint} {a : Text} (ha : c ∉ a) (b : Text) :
    splitAtFirst? c (a ++ c :: b) = some (a, b) := by
  induction a with
  | nil => exact if_pos rfl
  | cons x a ih =>
    obtain ⟨hx, ha⟩ := not_or.1 (mt List.mem_cons.2 ha)
    rw [List.cons_append, splitAtFirst?, if_neg (Ne.symm hx), ih ha]
    rfl

private theorem Text.splitAtFirst?_of_not_mem {c : CodePoint} {t : Text} (h : c ∉ t) :
    splitAtFirst? c t = none := by
  induction t with
  | nil => rfl
  | cons x t ih =>
    obtain ⟨hx, ht⟩ := not_or.1 (mt List.mem_cons.2 h)
    rw [splitAtFirst?, if_neg (Ne.symm hx), ih ht]
    rfl

namespace CommandLine

variable {raw digits : Text} {letter : CodePoint} {n : ℕ}

/-! ### Numbers of days -/

/-- The words are the numeral of a number, in digits of any script, and the letter d. -/
def IsNumberOfDays (raw : Text) (n : ℕ) : Prop :=
  ∃ (digits : Text) (letter : CodePoint), raw = digits ++ [letter] ∧ letter ∈ ("dD" : Text) ∧
    digits ≠ [] ∧ digits.Spells n

/-- The words look like a number of days, but not all of their characters with a digit value are
decimal digits, or they are more than a numeral may have. -/
def IsNoNumberOfDays (raw : Text) : Prop :=
  ∃ digits letter, raw = digits ++ [letter] ∧ letter ∈ ("dD" : Text) ∧ digits ≠ [] ∧
    (∀ c ∈ digits, c.isDigit = true) ∧
    ((∃ c ∈ digits, c.isDecimal = false) ∨ Numeral.digitLimit < digits.length)

private theorem looksLikeDays_iff : looksLikeDays raw = true ↔
    ∃ digits letter, raw = digits ++ [letter] ∧ letter ∈ ("dD" : Text) ∧ digits ≠ [] ∧
      ∀ c ∈ digits, c.isDigit = true := by
  have hlast (digits : Text) (letter : CodePoint) :
      looksLikeDays (digits ++ [letter]) = true ↔ letter ∈ ("dD" : Text) ∧ digits ≠ [] ∧
        ∀ c ∈ digits, c.isDigit = true := by
    rw [looksLikeDays, List.dropLast_concat, List.drop_left, Bool.and_eq_true, Bool.and_eq_true,
      beq_iff_eq, lower_eq_d_iff, List.all_eq_true, Bool.not_eq_true', List.isEmpty_eq_false_iff]
    exact and_comm
  constructor
  · intro h
    rcases List.eq_nil_or_concat raw with rfl | ⟨digits, letter, rfl⟩
    · cases h
    · rw [List.concat_eq_append] at h ⊢
      exact ⟨digits, letter, rfl, (hlast digits letter).1 h⟩
  · rintro ⟨digits, letter, rfl, h⟩
    exact (hlast digits letter).2 h

private theorem IsNumberOfDays.looksLikeDays (h : IsNumberOfDays raw n) :
    looksLikeDays raw = true := by
  obtain ⟨digits, letter, hraw, hletter, hne, hn⟩ := h
  refine looksLikeDays_iff.2 ⟨digits, letter, hraw, hletter, hne, fun c hc => ?_⟩
  rw [CodePoint.isDigit, CodePoint.isDecimal_iff.2 (hn.exists_decimalValue? c hc), Bool.true_or]

/-- An argument stands for at most one number of days. -/
theorem IsNumberOfDays.unique {m : ℕ} (hm : IsNumberOfDays raw m) (hn : IsNumberOfDays raw n) :
    m = n := by
  obtain ⟨digits, letter, rfl, -, -, hm⟩ := hm
  obtain ⟨digits', letter', heq, -, -, hn⟩ := hn
  obtain ⟨rfl, -⟩ := List.append_inj' heq rfl
  exact hm.unique hn

private theorem IsNoNumberOfDays.looksLikeDays (h : IsNoNumberOfDays raw) :
    looksLikeDays raw = true := by
  obtain ⟨digits, letter, hraw, hletter, hne, hdigits, -⟩ := h
  exact looksLikeDays_iff.2 ⟨digits, letter, hraw, hletter, hne, hdigits⟩

/-- What looks like a number of days is read as one or not at all. -/
theorem dateArgument_of_looksLikeDays (h : looksLikeDays raw = true) :
    (∃ n : ℕ, IsNumberOfDays raw n ∧ ¬IsNoNumberOfDays raw ∧
      dateArgument raw = .ok (.value (.int n))) ∨
    IsNoNumberOfDays raw ∧ ∃ e, dateArgument raw = .error e := by
  rw [dateArgument, if_pos h]
  obtain ⟨digits, letter, rfl, hletter, hne, hdigits⟩ := looksLikeDays_iff.1 h
  rw [List.dropLast_concat]
  cases hint : Numeral.int? 10 digits with
  | ok k =>
    obtain ⟨n, rfl, hn, hlength⟩ := (Numeral.int?_eq_ok_iff hdigits hne).1 hint
    refine .inl ⟨n, ⟨digits, letter, rfl, hletter, hne, hn⟩, ?_, rfl⟩
    rintro ⟨digits', letter', heq, -, -, -, hbad⟩
    obtain ⟨rfl, -⟩ := List.append_inj' heq rfl
    rcases hbad with ⟨c, hc, hdecimal⟩ | hlong
    · rw [CodePoint.isDecimal_iff.2 (hn.exists_decimalValue? c hc)] at hdecimal
      cases hdecimal
    · exact absurd hlong (Nat.not_lt.2 hlength)
  | error fault =>
    refine .inr ⟨⟨digits, letter, rfl, hletter, hne, hdigits, ?_⟩,
      by cases fault <;> exact ⟨_, rfl⟩⟩
    by_contra hgood
    obtain ⟨hdecimal, hlength⟩ := not_or.1 hgood
    have hall : ∀ c ∈ digits, c.isDecimal = true := fun c hc =>
      Bool.of_not_eq_false fun hfalse => hdecimal ⟨c, hc, hfalse⟩
    obtain ⟨ds, hds, -⟩ := Numeral.exists_digits hall
    have hok := (Numeral.int?_eq_ok_iff hdigits hne).2
      ⟨_, rfl, ⟨ds, hds, rfl⟩, Nat.le_of_not_lt hlength⟩
    rw [hint] at hok
    cases hok

/-- What does not look like a number of days is always read, and not as a number. -/
theorem dateArgument_of_not_looksLikeDays (h : ¬looksLikeDays raw = true) :
    dateArgument raw = .ok (.value (match splitAtFirst? colon raw with
      | some (first, last) => .tuple [.text first, .text last]
      | none => .text raw)) := by
  rw [dateArgument, if_neg h]
  cases splitAtFirst? colon raw <;> rfl

/-! ### Names of periods -/

/-- A text that names a period has white space, digits and separators in it, and nothing else. -/
theorem char_cases_of_isNamedBy {p : DatePattern} (h : p.IsNamedBy raw) :
    ∀ c ∈ raw, c.isSpace = true ∨ c.isDecimal = true ∨ c ∈ ("/-" : Text) := by
  have hdigits {t : Text} {n : ℕ} (h : t.Spells n) : ∀ c ∈ t, c.isSpace = true ∨
      c.isDecimal = true ∨ c ∈ ("/-" : Text) := fun c hc =>
    .inr (.inl (CodePoint.isDecimal_iff.2 (h.exists_decimalValue? c hc)))
  obtain ⟨front, body, back, rfl, hfront, hback, hbody⟩ := h
  refine List.forall_mem_append.2 ⟨List.forall_mem_append.2 ⟨fun c hc => .inl (hfront c hc), ?_⟩,
    fun c hc => .inl (hback c hc)⟩
  induction hbody with
  | year _ hy => exact hdigits hy
  | month _ hc _ hm ih | day _ hc _ hm ih =>
    exact List.forall_mem_append.2 ⟨ih, List.forall_mem_cons.2 ⟨.inr (.inr hc), hdigits hm⟩⟩

/-- Such a text is no number of days and no range. -/
theorem dateArgument_of_isNamedBy {p : DatePattern} (h : p.IsNamedBy raw) :
    dateArgument raw = .ok (.value (.text raw)) := by
  have hchars := char_cases_of_isNamedBy h
  have hother : ∀ c ∈ ("dD:" : Text), ¬(c.isSpace = true ∨ c.isDecimal = true ∨
      c ∈ ("/-" : Text)) := by
    decide
  have hdays : ¬looksLikeDays raw = true := by
    intro hdays
    obtain ⟨digits, letter, rfl, hletter, -⟩ := looksLikeDays_iff.1 hdays
    exact hother letter (List.mem_append_left _ hletter) (hchars letter (by simp))
  have hcolon : colon ∉ raw := fun hcolon => hother colon (by decide) (hchars colon hcolon)
  rw [dateArgument_of_not_looksLikeDays hdays, splitAtFirst?_of_not_mem hcolon]

/-! ### The arguments of a filter -/

/-- What is given for an amount is read, or the run ends as misuse. -/
theorem run_amount (amount : Option Text) (c : Console) :
    let read := amount.toList.mapM fun words =>
      orMisuse (some .filter) ((amountArgument words).mapError (.badWord "--amount"))
    (∃ xs, read.run c = (.ok xs, c)) ∧ (∀ words ∈ amount, ∃ x, amountArgument words = .ok x) ∨
      (∃ c', read.run c = (.error (.exit badInputCode), c')) ∧
        ∃ words ∈ amount, ∃ fault, amountArgument words = .error fault := by
  cases amount with
  | none => exact .inl ⟨⟨[], rfl⟩, fun _ h => by cases h⟩
  | some words =>
    dsimp only
    rw [Option.toList_some, List.mapM_cons, List.mapM_nil]
    cases h : amountArgument words with
    | ok x => exact .inl ⟨⟨[x], rfl⟩, fun _ hw => by cases hw; exact ⟨x, h⟩⟩
    | error fault => exact .inr ⟨⟨_, rfl⟩, words, rfl, fault, h⟩

/-- What is given for a date is read, or the run ends with the error of reading it. -/
theorem run_date (date : Option Text) (c : Console) :
    let read := date.toList.mapM fun raw => orFail (dateArgument raw)
    (∃ xs, read.run c = (.ok xs, c)) ∧ (∀ raw ∈ date, ∃ x, dateArgument raw = .ok x) ∨
      ∃ e, read.run c = (.error (.failure e), c) ∧ ∃ raw ∈ date, dateArgument raw = .error e := by
  cases date with
  | none => exact .inl ⟨⟨[], rfl⟩, fun _ h => by cases h⟩
  | some raw =>
    dsimp only
    rw [Option.toList_some, List.mapM_cons, List.mapM_nil]
    cases h : dateArgument raw with
    | ok x => exact .inl ⟨⟨[x], rfl⟩, fun _ hr => by cases hr; exact ⟨x, h⟩⟩
    | error e => exact .inr ⟨e, rfl, raw, rfl, h⟩

/-- The arguments of a filter end the run with an error that nothing takes care of exactly if the
words for a date cannot be read, unless the words for an amount are misuse. -/
theorem failure_filterArguments_iff {r : FilterRequest} {c : Console} :
    (∃ e c', (filterArguments r).run c = (.error (.failure e), c')) ↔
      (∃ raw ∈ r.date, ∃ e, dateArgument raw = .error e) ∧
        ∀ words ∈ r.amount, ∃ x, amountArgument words = .ok x := by
  rw [filterArguments]
  dsimp only
  rcases run_amount r.amount c with ⟨⟨xs, hamount⟩, hgood⟩ | ⟨⟨c', hamount⟩, words, hwords, _, hbad⟩
  · rw [run_bind hamount]
    rcases run_date r.date c with ⟨⟨ys, hdate⟩, hread⟩ | ⟨e, hdate, raw, hraw, herror⟩
    · rw [run_bind hdate]
      refine iff_of_false (fun ⟨e, c', h⟩ => by cases h) fun ⟨⟨raw, hraw, e, herror⟩, _⟩ => ?_
      obtain ⟨x, hx⟩ := hread raw hraw
      rw [hx] at herror
      cases herror
    · rw [run_bind_ending hdate]
      exact iff_of_true ⟨e, c, rfl⟩ ⟨⟨raw, hraw, e, herror⟩, hgood⟩
  · rw [run_bind_ending hamount]
    refine iff_of_false (fun ⟨e, c', h⟩ => by cases h) fun ⟨_, hgood⟩ => ?_
    obtain ⟨x, hx⟩ := hgood words hwords
    rw [hx] at hbad
    cases hbad

/-- What the words for a date mean. They are a number exactly if they are a number of days in
decimal digits that are not too many. They cannot be read exactly if they only look like one. All
others are a range if they have a colon in them, split at the first one, and stand for themselves
otherwise; and a text that names a period stands for itself. A filter ends with an error that
nothing takes care of while it reads its arguments exactly if the words for a date cannot be read,
unless the words for an amount are misuse. -/
theorem dateArgument_reads (raw : Text) :
    (∀ n : ℤ, dateArgument raw = .ok (.value (.int n)) ↔
      ¬IsNoNumberOfDays raw ∧ ∃ k : ℕ, n = k ∧ IsNumberOfDays raw k) ∧
    ((∃ e, dateArgument raw = .error e) ↔ IsNoNumberOfDays raw) ∧
    (¬IsNoNumberOfDays raw → (∀ n, ¬IsNumberOfDays raw n) →
      (∀ first last, raw = first ++ colon :: last → colon ∉ first →
        dateArgument raw = .ok (.value (.tuple [.text first, .text last]))) ∧
      (colon ∉ raw → dateArgument raw = .ok (.value (.text raw)))) ∧
    (∀ period, Period.ofText raw = .ok (some period) →
      dateArgument raw = .ok (.value (.text raw))) ∧
    ∀ (r : FilterRequest) (c : Console), r.date = some raw →
      ((∃ e c', (filterArguments r).run c = (.error (.failure e), c')) ↔
        IsNoNumberOfDays raw ∧ ∀ words ∈ r.amount, ∃ x, amountArgument words = .ok x) := by
  have herror : (∃ e, dateArgument raw = .error e) ↔ IsNoNumberOfDays raw := by
    by_cases hlooks : looksLikeDays raw = true
    · rcases dateArgument_of_looksLikeDays hlooks with ⟨n, -, hgood, hok⟩ | ⟨hnone, herror⟩
      · rw [hok]
        exact iff_of_false (fun ⟨e, h⟩ => by cases h) hgood
      · exact iff_of_true herror hnone
    · rw [dateArgument_of_not_looksLikeDays hlooks]
      exact iff_of_false (fun ⟨e, h⟩ => by cases h) fun hnone => hlooks hnone.looksLikeDays
  refine ⟨fun n => ?_, herror, fun hnone hdays => ?_, fun period h => ?_, fun r c hdate => ?_⟩
  · by_cases hlooks : looksLikeDays raw = true
    · rcases dateArgument_of_looksLikeDays hlooks with ⟨m, hm, hgood, hok⟩ | ⟨hnone, e, he⟩
      · rw [hok]
        constructor
        · intro h
          cases h
          exact ⟨hgood, m, rfl, hm⟩
        · rintro ⟨-, k, rfl, hk⟩
          rw [hm.unique hk]
      · rw [he]
        exact iff_of_false (fun h => by cases h) fun h => h.1 hnone
    · rw [dateArgument_of_not_looksLikeDays hlooks]
      refine iff_of_false (fun h => ?_) fun ⟨_, _, _, hk⟩ => hlooks hk.looksLikeDays
      split at h <;> cases h
  · have hlooks : ¬looksLikeDays raw = true := by
      intro hlooks
      rcases dateArgument_of_looksLikeDays hlooks with ⟨n, hn, -⟩ | ⟨hbad, -⟩
      · exact hdays n hn
      · exact hnone hbad
    rw [dateArgument_of_not_looksLikeDays hlooks]
    refine ⟨fun first last hraw hfirst => ?_, fun hcolon => ?_⟩
    · rw [hraw, splitAtFirst?_append hfirst]
    · rw [splitAtFirst?_of_not_mem hcolon]
  · rw [Period.ofText] at h
    cases hp : DatePattern.ofText? raw with
    | none =>
      rw [hp] at h
      cases h
    | some p =>
      exact dateArgument_of_isNamedBy
        (DatePattern.isNamedBy_iff.2 (DatePattern.ofText?_eq_some_iff.1 hp))
  · rw [failure_filterArguments_iff, ← herror, hdate]
    simp

/-- Digits of another script, and a capital letter. -/
example : dateArgument "٣٠D" = .ok (.value (.int 30)) := by rfl

/-- A directory with a file that holds nothing. -/
def emptyFile : FileSystem where
  entries := [(["in.jsonl"], .file [])]

/-- A superscript digit has a digit value and is no decimal digit. The words are no range and name
no period, and instead of being refused they end the run. -/
theorem superscript_days_fail :
    dateArgument "²d" = .error (.notAWholeNumber 10 "²") ∧
      (run ["home"] emptyFile ["filter", "in.jsonl", "--date", "²d"]).2 =
        .failure (.notAWholeNumber 10 "²") :=
  ⟨rfl, rfl⟩

end CommandLine

end LedgerTags

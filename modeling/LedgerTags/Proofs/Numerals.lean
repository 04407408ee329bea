import LedgerTags.Decimal.Reader
import Mathlib.Data.List.Induction
import Mathlib.Tactic.Ring

/-!
# Numerals of whole numbers

The numeral of a number as the list of its digits, the leading one first. Reading a run of digits
gives the list back (`readDigits_digitText`), and the list stands for the number
(`natOfDigits_digits`). Zeros in front do not count, and zeros at the end are powers of ten.
-/

namespace LedgerTags

/-! ### Digits as characters -/

/-- Numbers below the limit of Unicode are characters. -/
theorem CodePoint.val_ofNat {n : Nat} (h : n < 0x110000) : (CodePoint.ofNat n).val = n := by
  rw [CodePoint.ofNat, dif_pos h]

/-- A character is no digit exactly if its number is below 48 or above 57. -/
theorem CodePoint.isAsciiDigit_eq_false_iff {c : CodePoint} :
    c.isAsciiDigit = false ↔ c.val < 48 ∨ 57 < c.val := by
  rw [CodePoint.isAsciiDigit, Bool.and_eq_false_iff, decide_eq_false_iff_not,
    decide_eq_false_iff_not, not_le, not_le]

namespace Text

/-- A digit as a character. -/
def digitChar (d : Nat) : CodePoint := CodePoint.ofNat (48 + d)

/-- Digits as a text. -/
def digitText (ds : List Nat) : Text := ds.map digitChar

/-- A digit is the character that many places behind that of zero. -/
theorem val_digitChar {d : Nat} (h : d < 10) : (digitChar d).val = 48 + d :=
  CodePoint.val_ofNat (by omega)

/-- The character of a digit is a digit. -/
theorem isAsciiDigit_digitChar {d : Nat} (h : d < 10) : (digitChar d).isAsciiDigit = true := by
  rw [CodePoint.isAsciiDigit, val_digitChar h, Bool.and_eq_true, decide_eq_true_eq,
    decide_eq_true_eq]
  omega

@[simp] theorem digitText_nil : digitText [] = [] := rfl

@[simp] theorem digitText_cons (d : Nat) (ds : List Nat) :
    digitText (d :: ds) = digitChar d :: digitText ds := rfl

@[simp] theorem digitText_append (ds es : List Nat) :
    digitText (ds ++ es) = digitText ds ++ digitText es := List.map_append

@[simp] theorem length_digitText (ds : List Nat) : (digitText ds).length = ds.length :=
  List.length_map _

/-- Zeros are written as zeros. -/
theorem digitText_replicate (n : Nat) :
    digitText (List.replicate n 0) = List.replicate n ('0' : CodePoint) := List.map_replicate

/-- Every member is a decimal digit. -/
def AreDigits (ds : List Nat) : Prop := ∀ d ∈ ds, d < 10

/-- Two lists together are digits exactly if each is. -/
theorem areDigits_append {ds es : List Nat} :
    AreDigits (ds ++ es) ↔ AreDigits ds ∧ AreDigits es := List.forall_mem_append

/-- Zeros are digits. -/
theorem areDigits_replicate (n : Nat) : AreDigits (List.replicate n 0) := by
  intro d hd
  rw [List.eq_of_mem_replicate hd]
  decide

/-- The text does not go on with a digit. -/
def EndsDigits (t : Text) : Prop := ∀ c ∈ t.head?, c.isAsciiDigit = false

theorem endsDigits_nil : EndsDigits [] := fun c hc => by cases hc

/-- Digits end before a character that is none. -/
theorem endsDigits_cons {c : CodePoint} (h : c.isAsciiDigit = false) (t : Text) :
    EndsDigits (c :: t) := fun d hd => by cases hd; exact h

end Text

open Text

/-- Digits are read as they are written. -/
theorem Decimal.readDigits_digitText {ds : List Nat} {rest : Text} (hds : AreDigits ds)
    (hrest : EndsDigits rest) : Decimal.readDigits (digitText ds ++ rest) = (ds, rest) := by
  have hall : ∀ c ∈ digitText ds, c.isAsciiDigit = true := by
    intro c hc
    obtain ⟨d, hd, rfl⟩ := List.mem_map.1 hc
    exact isAsciiDigit_digitChar (hds d hd)
  have hnone : rest.takeWhile CodePoint.isAsciiDigit = [] ∧
      rest.dropWhile CodePoint.isAsciiDigit = rest := by
    cases rest with
    | nil => exact ⟨rfl, rfl⟩
    | cons c rest =>
      have hc : ¬c.isAsciiDigit = true := by rw [hrest c rfl]; decide
      exact ⟨List.takeWhile_cons_of_neg hc, List.dropWhile_cons_of_neg hc⟩
  have hvalues : (digitText ds).map (fun c => c.val - 48) = ds := by
    rw [digitText, List.map_map]
    refine (List.map_congr_left fun d hd => ?_).trans (List.map_id ds)
    rw [Function.comp_apply, val_digitChar (hds d hd), Nat.add_sub_cancel_left, id]
  rw [Decimal.readDigits, List.takeWhile_append_of_pos hall, List.dropWhile_append_of_pos hall,
    hnone.1, hnone.2, List.append_nil, hvalues]

namespace Text

/-! ### The number of digits -/

/-- Digits in front count as many times as the power of ten with as many zeros as digits follow. -/
theorem natOfDigits_append (ds es : List Nat) :
    natOfDigits (ds ++ es) = natOfDigits ds * 10 ^ es.length + natOfDigits es := by
  have hfold (es : List Nat) (n : Nat) :
      es.foldl (fun n d => 10 * n + d) n = n * 10 ^ es.length + natOfDigits es := by
    induction es generalizing n with
    | nil => simp [natOfDigits]
    | cons e es ih =>
      have hcons : natOfDigits (e :: es) = e * 10 ^ es.length + natOfDigits es := by
        rw [natOfDigits, List.foldl_cons, ih, Nat.mul_zero, Nat.zero_add]
      rw [List.foldl_cons, ih, hcons, List.length_cons, Nat.pow_succ]
      ring
  rw [natOfDigits, List.foldl_append, hfold, ← natOfDigits]

/-- Zeros alone stand for zero. -/
theorem natOfDigits_replicate (n : Nat) : natOfDigits (List.replicate n 0) = 0 := by
  induction n with
  | zero => rfl
  | succ n ih => rw [List.replicate_succ', natOfDigits_append, ih]; rfl

/-! ### The digits of a number -/

/-- The digits of a number. -/
def digits (n : Nat) : List Nat := (Nat.toDigits 10 n).map fun c => c.toNat - 48

private theorem digits_of_lt {n : Nat} (h : n < 10) : digits n = [n] := by
  rw [digits, Nat.toDigits_of_lt_base h, List.map_singleton]
  congr 1
  revert n
  decide

private theorem digits_of_le {n : Nat} (h : 10 ≤ n) : digits n = digits (n / 10) ++ [n % 10] := by
  have hmod : n % 10 < 10 := Nat.mod_lt _ (by decide)
  have hlast : (Nat.digitChar (n % 10)).toNat - 48 = n % 10 := by
    generalize n % 10 = d at hmod
    revert d
    decide
  rw [digits, Nat.toDigits_of_base_le (by decide) h, List.map_append, List.map_singleton, hlast,
    ← digits]

/-- The digits of a number are digits. -/
theorem areDigits_digits (n : Nat) : AreDigits (digits n) := by
  induction n using Nat.strongRecOn with
  | _ n ih =>
    rcases Nat.lt_or_ge n 10 with h | h
    · rw [digits_of_lt h]
      exact fun d hd => List.mem_singleton.1 hd ▸ h
    · rw [digits_of_le h]
      refine areDigits_append.2 ⟨ih _ (by omega), fun d hd => ?_⟩
      rw [List.mem_singleton.1 hd]
      exact Nat.mod_lt _ (by decide)

/-- A number is written as its digits. -/
theorem ofNat_eq_digitText (n : Nat) : ofNat n = digitText (digits n) := by
  rw [ofNat, digitText, digits, List.map_map]
  refine List.map_congr_left fun c hc => ?_
  have hdigit : c.isDigit = true := Nat.isDigit_of_mem_toDigits (by decide) (by decide) hc
  rw [Char.isDigit, Bool.and_eq_true, decide_eq_true_eq, decide_eq_true_eq] at hdigit
  have hle : 48 ≤ c.toNat := hdigit.1
  refine CodePoint.ext_val ?_
  rw [Function.comp_apply, digitChar, Nat.add_sub_cancel' hle]
  exact (CodePoint.val_ofNat (CodePoint.ofChar c).val_lt).symm

/-- The digits of a number stand for it. -/
theorem natOfDigits_digits (n : Nat) : natOfDigits (digits n) = n := by
  induction n using Nat.strongRecOn with
  | _ n ih =>
    rcases Nat.lt_or_ge n 10 with h | h
    · rw [digits_of_lt h]
      exact Nat.zero_add n
    · have hlast : natOfDigits [n % 10] = n % 10 := Nat.zero_add _
      rw [digits_of_le h, natOfDigits_append, ih _ (by omega), hlast]
      exact Nat.div_add_mod' n 10

/-- A number has as many digits as are counted. -/
theorem length_digits (n : Nat) : (digits n).length = Decimal.digitCount n := by
  induction n using Nat.strongRecOn with
  | _ n ih =>
    rcases Nat.lt_or_ge n 10 with h | h
    · rw [digits_of_lt h, Decimal.digitCount_of_lt h]
      rfl
    · rw [digits_of_le h, Decimal.digitCount_of_le h, List.length_append, ih _ (by omega)]
      rfl

/-- No numeral of a positive number begins with a zero. -/
theorem exists_digits_eq_cons {n : Nat} (h : n ≠ 0) :
    ∃ d ds, digits n = d :: ds ∧ d ≠ 0 := by
  induction n using Nat.strongRecOn with
  | _ n ih =>
    rcases Nat.lt_or_ge n 10 with hlt | hle
    · exact ⟨n, [], digits_of_lt hlt, h⟩
    · obtain ⟨d, ds, hds, hd⟩ := ih (n / 10) (by omega) (by omega)
      exact ⟨d, ds ++ [n % 10], by rw [digits_of_le hle, hds]; rfl, hd⟩

/-- Digits stand for a number below the power of ten with as many zeros. -/
theorem natOfDigits_lt {ds : List Nat} (h : AreDigits ds) : natOfDigits ds < 10 ^ ds.length := by
  induction ds using List.reverseRecOn with
  | nil => decide
  | append_singleton ds d ih =>
    obtain ⟨hds, hd⟩ := areDigits_append.1 h
    have hlt := ih hds
    have hd' := hd d List.mem_cons_self
    have hone : natOfDigits [d] = d := Nat.zero_add d
    rw [natOfDigits_append, hone, List.length_append, List.length_singleton, Nat.pow_one,
      Nat.pow_succ]
    omega

/-- A number is padded with zeros in front of its digits. -/
theorem ofNatPadded_eq (width n : Nat) :
    ofNatPadded width n = digitText (List.replicate (width - (digits n).length) 0 ++ digits n) := by
  rw [ofNatPadded, ofNat_eq_digitText, length_digitText, digitText_append, digitText_replicate]

/-- The digits of a padded number are digits. -/
theorem areDigits_padded (width n : Nat) :
    AreDigits (List.replicate (width - (digits n).length) 0 ++ digits n) :=
  areDigits_append.2 ⟨areDigits_replicate _, areDigits_digits n⟩

/-- Padding does not change what the digits stand for. -/
theorem natOfDigits_padded (width n : Nat) :
    natOfDigits (List.replicate (width - (digits n).length) 0 ++ digits n) = n := by
  rw [natOfDigits_append, natOfDigits_replicate, Nat.zero_mul, Nat.zero_add, natOfDigits_digits]

/-! ### Digits with a point -/

/-- The digits of a whole number as it is written: without superfluous zeros in front. -/
def IsWhole (ds : List Nat) : Prop := ds = [0] ∨ ∃ d es, ds = d :: es ∧ d ≠ 0

/-- The digits of a number have no zero in front, unless the number is zero. -/
theorem isWhole_digits (n : Nat) : IsWhole (digits n) := by
  by_cases h : n = 0
  · exact .inl (by rw [h, digits_of_lt (by decide)])
  · exact .inr (exists_digits_eq_cons h)

/-- A whole part has a digit. -/
theorem IsWhole.ne_nil {ds : List Nat} (h : IsWhole ds) : ds ≠ [] := by
  rcases h with rfl | ⟨d, es, rfl, -⟩ <;> exact List.cons_ne_nil _ _

/-- A point and the digits behind it; nothing if there are none. -/
def fractionText (ds : List Nat) : Text := if ds.isEmpty then [] else "." ++ digitText ds

/-- A fraction that has digits is written behind a point. -/
theorem fractionText_of_ne_nil {ds : List Nat} (h : ds ≠ []) :
    fractionText ds = "." ++ digitText ds := if_neg (by simpa using h)

/-- Digits of which some stand behind a point, with zeros in front where they are too few. -/
theorem exists_positional {ds : List Nat} (hds : AreDigits ds) (hwhole : IsWhole ds)
    (places : Nat) :
    ∃ w f, AreDigits w ∧ AreDigits f ∧ IsWhole w ∧ f.length = places ∧
      natOfDigits (w ++ f) = natOfDigits ds ∧
      let padded := List.replicate (places + 1 - ds.length) ('0' : CodePoint) ++ digitText ds
      padded.take (padded.length - places) = digitText w ∧
        padded.drop (padded.length - places) = digitText f := by
  -- The padded digits as a list of numbers, with `n` of them before the point.
  let padded := List.replicate (places + 1 - ds.length) 0 ++ ds
  let n := padded.length - places
  have hlength : padded.length = places + 1 - ds.length + ds.length := by
    rw [List.length_append, List.length_replicate]
  have hpadded : AreDigits padded := areDigits_append.2 ⟨areDigits_replicate _, hds⟩
  have hsplit : padded.take n ++ padded.drop n = padded := List.take_append_drop _ _
  have hboth := areDigits_append.1 (hsplit.symm ▸ hpadded)
  refine ⟨padded.take n, padded.drop n, hboth.1, hboth.2, ?_, ?_, ?_, ?_⟩
  -- Either there are digits left before the point, or a zero was put there.
  · rcases Nat.lt_or_ge places ds.length with hlt | hle
    · have hpad : padded = ds := by
        show List.replicate (places + 1 - ds.length) 0 ++ ds = ds
        rw [Nat.sub_eq_zero_of_le hlt, List.replicate_zero, List.nil_append]
      obtain ⟨k, hk⟩ : ∃ k, n = k + 1 := ⟨n - 1, by omega⟩
      rw [hpad, hk]
      rcases hwhole with rfl | ⟨d, es, rfl, hd⟩
      · exact .inl (by cases k <;> rfl)
      · exact .inr ⟨d, es.take k, rfl, hd⟩
    · obtain ⟨k, hk⟩ : ∃ k, places + 1 - ds.length = k + 1 := ⟨places - ds.length, by omega⟩
      have hn : n = 1 := by omega
      have hpad : padded = 0 :: (List.replicate k 0 ++ ds) := by
        show List.replicate (places + 1 - ds.length) 0 ++ ds = _
        rw [hk, List.replicate_succ, List.cons_append]
      rw [hn, hpad]
      exact .inl rfl
  · rw [List.length_drop]
    have := List.length_pos_iff.2 hwhole.ne_nil
    omega
  · rw [hsplit, natOfDigits_append, natOfDigits_replicate, Nat.zero_mul, Nat.zero_add]
  · have htext : List.replicate (places + 1 - ds.length) ('0' : CodePoint) ++ digitText ds =
        digitText padded := by
      rw [digitText_append, digitText_replicate]
    dsimp only
    rw [htext, length_digitText]
    exact ⟨List.map_take.symm, List.map_drop.symm⟩

end Text

end LedgerTags

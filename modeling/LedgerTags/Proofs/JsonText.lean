import LedgerTags.Json.Reader
import LedgerTags.Json.Writer
import LedgerTags.Proofs.Numerals
import Mathlib.Data.List.Chain
import Mathlib.Tactic.SplitIfs

/-!
# Texts in JSON

Writing names code points by 16-bit units, and reading joins a high unit and a low one. A text is
read back as it is written (`readString_escaped`) unless a high surrogate stands directly before
a low one in it, and no text that is read holds such a pair (`noPairs_of_readString`).
-/

namespace LedgerTags.Json

/-! ### Units -/

/-- The first half of a pair of units. -/
def IsHigh (c : CodePoint) : Prop := 0xD800 ≤ c.val ∧ c.val ≤ 0xDBFF

/-- The second half of a pair of units. -/
def IsLow (c : CodePoint) : Prop := 0xDC00 ≤ c.val ∧ c.val ≤ 0xDFFF

/-- No high surrogate stands directly before a low one. -/
def NoPairs (t : Text) : Prop := t.IsChain fun a b => ¬(IsHigh a ∧ IsLow b)

instance (c : CodePoint) : Decidable (IsHigh c) := inferInstanceAs (Decidable (_ ∧ _))
instance (c : CodePoint) : Decidable (IsLow c) := inferInstanceAs (Decidable (_ ∧ _))
instance (t : Text) : Decidable (NoPairs t) :=
  inferInstanceAs (Decidable (t.IsChain fun a b => ¬(IsHigh a ∧ IsLow b)))

/-- A text without surrogates has no pair of them. -/
theorem noPairs_of_isSurrogate {t : Text} (h : ∀ c ∈ t, c.isSurrogate = false) : NoPairs t := by
  induction t with
  | nil => exact .nil
  | cons a t ih =>
    obtain ⟨ha, ht⟩ := List.forall_mem_cons.1 h
    refine List.isChain_cons.2 ⟨fun b _ hab => ?_, ih ht⟩
    have := hab.1
    rw [IsHigh] at this
    simp only [CodePoint.isSurrogate, Bool.and_eq_false_iff, decide_eq_false_iff_not] at ha
    omega

/-- The units of a code point. -/
def units (c : CodePoint) : Text :=
  if c.val < 0x10000 then [c]
  else [CodePoint.ofNat (0xD800 + (c.val - 0x10000) / 0x400),
    CodePoint.ofNat (0xDC00 + (c.val - 0x10000) % 0x400)]

/-- The first unit of a code point is a low one only if it is the code point itself. -/
theorem units_eq_cons (c : CodePoint) :
    ∃ a us, units c = a :: us ∧ (IsLow a → a = c) := by
  have hlt := c.val_lt
  rw [units]
  split
  · exact ⟨c, [], rfl, fun _ => rfl⟩
  · refine ⟨_, _, rfl, fun hlow => ?_⟩
    rw [IsLow, CodePoint.val_ofNat (by omega)] at hlow
    omega

private theorem joinSurrogates_cons {a : CodePoint} {t : Text}
    (h : ∀ b ∈ t.head?, ¬(IsHigh a ∧ IsLow b)) :
    joinSurrogates (a :: t) = a :: joinSurrogates t := by
  cases t with
  | nil => rfl
  | cons b u =>
    rw [joinSurrogates, if_neg]
    rintro ⟨h1, h2, h3, h4⟩
    exact h b rfl ⟨⟨h1, h2⟩, ⟨h3, h4⟩⟩

private theorem joinSurrogates_pair {a b : CodePoint} (ha : IsHigh a) (hb : IsLow b) (t : Text) :
    joinSurrogates (a :: b :: t) =
      CodePoint.ofNat (0x10000 + (a.val - 0xD800) * 0x400 + (b.val - 0xDC00)) ::
        joinSurrogates t := by
  rw [joinSurrogates, if_pos ⟨ha.1, ha.2, hb.1, hb.2⟩]

/-- The units of a text are joined to the text. -/
theorem joinSurrogates_units {t : Text} (h : NoPairs t) :
    joinSurrogates (t.flatMap units) = t := by
  induction t with
  | nil => rfl
  | cons c t ih =>
    obtain ⟨hc, ht⟩ := List.isChain_cons.1 h
    rw [List.flatMap_cons, units]
    split
    -- A unit of its own is not joined to what follows: that would have been a pair in the text.
    · rw [List.singleton_append, joinSurrogates_cons, ih ht]
      intro b hb hpair
      cases t with
      | nil => cases hb
      | cons d t =>
        obtain ⟨a, us, hus, hlow⟩ := units_eq_cons d
        rw [List.flatMap_cons, hus] at hb
        obtain rfl : a = b := Option.some.inj hb
        obtain rfl := hlow hpair.2
        exact hc _ rfl hpair
    -- A code point beyond the units is taken apart and put together again.
    · have hlt := c.val_lt
      have hhi : (CodePoint.ofNat (0xD800 + (c.val - 0x10000) / 0x400)).val =
          0xD800 + (c.val - 0x10000) / 0x400 := CodePoint.val_ofNat (by omega)
      have hlo : (CodePoint.ofNat (0xDC00 + (c.val - 0x10000) % 0x400)).val =
          0xDC00 + (c.val - 0x10000) % 0x400 := CodePoint.val_ofNat (by omega)
      rw [List.cons_append, List.singleton_append, joinSurrogates_pair, ih ht, hhi, hlo]
      · refine congrArg (· :: t) (CodePoint.ext_val ?_)
        rw [CodePoint.val_ofNat (by omega)]
        omega
      · rw [IsHigh, hhi]
        omega
      · rw [IsLow, hlo]
        omega

/-- What is joined begins as before, or with a code point beyond the units. -/
theorem head_joinSurrogates {a b : CodePoint} {t : Text}
    (h : b ∈ (joinSurrogates (a :: t)).head?) : b = a ∨ ¬IsLow b := by
  cases t with
  | nil => exact .inl (Option.some.inj h).symm
  | cons c u =>
    rw [joinSurrogates] at h
    split at h
    · next hpair =>
      right
      obtain rfl := Option.some.inj h
      rw [IsLow, CodePoint.val_ofNat (by omega)]
      omega
    · exact .inl (Option.some.inj h).symm

/-- No pairs are left after joining. -/
theorem noPairs_joinSurrogates (t : Text) : NoPairs (joinSurrogates t) := by
  fun_induction joinSurrogates t with
  | case1 => exact .nil
  | case2 a => exact .singleton a
  | case3 a b u hpair ih =>
    refine List.isChain_cons.2 ⟨fun c _ hc => ?_, ih⟩
    have := hc.1
    rw [IsHigh, CodePoint.val_ofNat (by omega)] at this
    omega
  | case4 a b u hnone ih =>
    refine List.isChain_cons.2 ⟨fun c hc hpair => ?_, ih⟩
    rcases head_joinSurrogates hc with rfl | hlow
    · exact hnone ⟨hpair.1.1, hpair.1.2, hpair.2.1, hpair.2.2⟩
    · exact hlow hpair.2

/-- A string that is read has no pair of surrogates: a pair becomes one character. -/
theorem noPairs_of_readString {t s rest : Text} (h : readString t = some (s, rest)) :
    NoPairs s := by
  obtain ⟨⟨xs, rest'⟩, -, h⟩ := Option.bind_eq_some_iff.1 h
  cases h
  exact noPairs_joinSurrogates xs

/-! ### Escapes -/

/-- A hexadecimal digit as a character. -/
def hexChar (d : ℕ) : CodePoint := CodePoint.ofChar (Nat.digitChar d)

private theorem hexValue?_hexChar {d : ℕ} (h : d < 16) : (hexChar d).hexValue? = some d := by
  revert d
  decide

/-- The numeral of a unit has four digits. -/
theorem hexPadded_four {n : ℕ} (h : n < 0x10000) :
    Text.hexPadded 4 n =
      [hexChar (n / 4096), hexChar (n / 256 % 16), hexChar (n / 16 % 16), hexChar (n % 16)] := by
  have hstep {k : ℕ} (hk : 16 ≤ k) :
      Nat.toDigits 16 k = Nat.toDigits 16 (k / 16) ++ [Nat.digitChar (k % 16)] :=
    Nat.toDigits_of_base_le (by decide) hk
  have hlast {k : ℕ} (hk : k < 16) : Nat.toDigits 16 k = [Nat.digitChar k] :=
    Nat.toDigits_of_lt_base hk
  have hdiv : n / 16 / 16 = n / 256 := Nat.div_div_eq_div_mul n 16 16
  have hdiv' : n / 256 / 16 = n / 4096 := Nat.div_div_eq_div_mul n 256 16
  have hzero : hexChar 0 = ('0' : CodePoint) := rfl
  rw [Text.hexPadded]
  -- The number of digits decides how much is padded.
  rcases Nat.lt_or_ge n 16 with h1 | h1
  · rw [hlast h1, Nat.mod_eq_of_lt h1, Nat.div_eq_of_lt h1,
      Nat.div_eq_of_lt (by omega : n < 256), Nat.div_eq_of_lt (by omega : n < 4096)]
    rfl
  rw [hstep h1]
  rcases Nat.lt_or_ge (n / 16) 16 with h2 | h2
  · rw [hlast h2, Nat.mod_eq_of_lt h2, Nat.div_eq_of_lt (by omega : n < 256),
      Nat.div_eq_of_lt (by omega : n < 4096)]
    rfl
  rw [hstep h2, hdiv]
  rcases Nat.lt_or_ge (n / 256) 16 with h3 | h3
  · rw [hlast h3, Nat.mod_eq_of_lt h3, Nat.div_eq_of_lt (by omega : n < 4096)]
    rfl
  rw [hstep h3, hdiv', hlast (by omega)]
  rfl

private theorem unit?_hexChar {n : ℕ} (h : n < 0x10000) :
    unit? (hexChar (n / 4096)) (hexChar (n / 256 % 16)) (hexChar (n / 16 % 16))
      (hexChar (n % 16)) = some (CodePoint.ofNat n) := by
  rw [unit?, hexValue?_hexChar (by omega), hexValue?_hexChar (by omega),
    hexValue?_hexChar (by omega), hexValue?_hexChar (by omega)]
  have hsum : (n / 4096 * 16 + n / 256 % 16) * 256 + n / 16 % 16 * 16 + n % 16 = n := by omega
  show CodePoint.ofNat? _ = _
  rw [hsum, CodePoint.ofNat?, CodePoint.ofNat, dif_pos (by omega), dif_pos (by omega)]

section Units

variable {c e x : CodePoint} {t : Text}

private theorem readUnits_plain (hquote : c.val ≠ 34) (hslash : c.val ≠ 92)
    (hcontrol : 32 ≤ c.val) : readUnits (c :: t) = (readUnits t).map fun p => (c :: p.1, p.2) := by
  rw [readUnits.eq_def]
  dsimp only
  rw [if_neg hquote, if_neg hslash, if_neg (by omega)]
  cases readUnits t <;> rfl

private theorem readUnits_simple (he : e.val ≠ 117) (hx : simpleEscape? e = some x) :
    readUnits (('\\' : CodePoint) :: e :: t) = (readUnits t).map fun p => (x :: p.1, p.2) := by
  rw [readUnits.eq_def]
  dsimp only
  rw [if_neg (by decide), if_pos (by decide), if_neg he, hx]
  cases readUnits t <;> rfl

private theorem readUnits_unit {n : ℕ} (h : n < 0x10000) :
    readUnits (unitEscape n ++ t) = (readUnits t).map fun p => (CodePoint.ofNat n :: p.1, p.2) := by
  have htext : unitEscape n ++ t =
      ('\\' : CodePoint) :: ('u' : CodePoint) :: hexChar (n / 4096) :: hexChar (n / 256 % 16) ::
        hexChar (n / 16 % 16) :: hexChar (n % 16) :: t := by
    rw [unitEscape, hexPadded_four h]
    rfl
  rw [htext, readUnits.eq_def]
  dsimp only
  rw [if_neg (by decide), if_pos (by decide), if_pos (by decide), unit?_hexChar h]
  cases readUnits t <;> rfl

/-- A code point is read as its units. -/
theorem readUnits_escapeChar (c : CodePoint) (t : Text) :
    readUnits (escapeChar c ++ t) = (readUnits t).map fun p => (units c ++ p.1, p.2) := by
  have hlt := c.val_lt
  have hsimple (n : ℕ) (e : CodePoint) (hval : c.val = n) (hn : n < 0x10000) (he : e.val ≠ 117)
      (hx : simpleEscape? e = some (CodePoint.ofNat n)) :
      readUnits (('\\' : CodePoint) :: e :: t) =
        (readUnits t).map fun p => (units c ++ p.1, p.2) := by
    have hc : CodePoint.ofNat n = c := by rw [← hval, CodePoint.ofNat_val]
    rw [readUnits_simple he hx, hc, units, if_pos (by omega)]
    rfl
  unfold escapeChar
  split
  · next h => exact hsimple 34 '"' h (by decide) (by decide) (by decide)
  · next h => exact hsimple 92 '\\' h (by decide) (by decide) (by decide)
  · next h => exact hsimple 8 'b' h (by decide) (by decide) (by decide)
  · next h => exact hsimple 9 't' h (by decide) (by decide) (by decide)
  · next h => exact hsimple 10 'n' h (by decide) (by decide) (by decide)
  · next h => exact hsimple 12 'f' h (by decide) (by decide) (by decide)
  · next h => exact hsimple 13 'r' h (by decide) (by decide) (by decide)
  · next hquote hslash _ _ _ _ _ =>
    split
    · next hplain =>
      rw [List.singleton_append, readUnits_plain hquote hslash hplain.1, units, if_pos (by omega)]
      rfl
    · split
      · next hunit =>
        rw [readUnits_unit hunit, CodePoint.ofNat_val, units, if_pos hunit]
        rfl
      · next hpair =>
        rw [List.append_assoc, readUnits_unit (by omega), readUnits_unit (by omega), units,
          if_neg hpair, Option.map_map]
        rfl

/-- A text after its opening quote is read back, and so is what follows. -/
theorem readString_escaped {s : Text} (hs : NoPairs s) (rest : Text) :
    readString (s.flatMap escapeChar ++ ('"' : CodePoint) :: rest) = some (s, rest) := by
  -- Escapes are undone unit by unit; only then are the units joined.
  have hunits : readUnits (s.flatMap escapeChar ++ ('"' : CodePoint) :: rest) =
      some (s.flatMap units, rest) := by
    clear hs
    induction s with
    | nil =>
      rw [readUnits.eq_def]
      rfl
    | cons c s ih =>
      rw [List.flatMap_cons, List.append_assoc, readUnits_escapeChar, ih, Option.map_some,
        List.flatMap_cons]
  rw [readString, hunits]
  show some (joinSurrogates (s.flatMap units), rest) = _
  rw [joinSurrogates_units hs]

/-! ### ASCII -/

/-- A character of the lines that are written: no control character, and none beyond ASCII. -/
def IsShown (c : CodePoint) : Prop := 32 ≤ c.val ∧ c.val ≤ 126

instance (c : CodePoint) : Decidable (IsShown c) := inferInstanceAs (Decidable (_ ∧ _))

/-- Every character of a text can be shown. -/
def AllShown (t : Text) : Prop := ∀ c ∈ t, IsShown c

instance (t : Text) : Decidable (AllShown t) := inferInstanceAs (Decidable (∀ c ∈ t, IsShown c))

/-- A text can be shown if its parts can. -/
theorem AllShown.append {t u : Text} (ht : AllShown t) (hu : AllShown u) : AllShown (t ++ u) :=
  List.forall_mem_append.2 ⟨ht, hu⟩

private theorem allShown_unitEscape {n : ℕ} (h : n < 0x10000) : AllShown (unitEscape n) := by
  have hdigit {d : ℕ} (hd : d < 16) : IsShown (hexChar d) := by
    revert d
    decide
  rw [unitEscape, hexPadded_four h]
  refine .append (by decide) ?_
  simp only [AllShown, List.forall_mem_cons, List.not_mem_nil, false_imp_iff, implies_true,
    and_true]
  exact ⟨hdigit (by omega), hdigit (by omega), hdigit (by omega), hdigit (by omega)⟩

private theorem allShown_escapeChar (c : CodePoint) : AllShown (escapeChar c) := by
  have hlt := c.val_lt
  unfold escapeChar
  split
  all_goals try decide
  split
  · next h => exact List.forall_mem_singleton.2 h
  · split
    · next h => exact allShown_unitEscape h
    · exact .append (allShown_unitEscape (by omega)) (allShown_unitEscape (by omega))

/-- Strings are written in characters that can be shown. -/
theorem allShown_writeString (t : Text) : AllShown (writeString t) := by
  refine .append (by decide) (.append ?_ (by decide))
  intro c hc
  obtain ⟨d, -, hd⟩ := List.mem_flatMap.1 hc
  exact allShown_escapeChar d c hd

end Units

end LedgerTags.Json

import LedgerTags.Proofs.DecimalText
import LedgerTags.Proofs.JsonDocument

/-!
# The part of a text that a value is read from

Reading a value uses up a part of the text and does not look beyond it, but for one character that
could go on with a number. So the part is read as the same value whatever follows (`readsParts`),
and with another limit on digits it is read as that value too, unless the numeral of a whole number
in it is longer (`Limited`). A document is such a part with blanks around it
(`exists_used_of_readWith`, `Reads.readWith`).
-/

namespace LedgerTags.Json

open Text

/-! ### Blanks -/

private theorem exists_blanks (t : Text) :
    ∃ b, AreBlanks b ∧ t = b ++ skipBlanks t ∧ ∀ c ∈ (skipBlanks t).head?, isBlank c = false := by
  refine ⟨t.takeWhile isBlank, fun c hc => List.all_eq_true.1 List.all_takeWhile c hc,
    List.takeWhile_append_dropWhile.symm, fun c hc => ?_⟩
  have hhead := List.head?_dropWhile_not isBlank t
  rw [skipBlanks] at hc
  rw [Option.mem_def.1 hc] at hhead
  exact hhead

private theorem exists_blanks_cons {t u : Text} {c : CodePoint} (h : skipBlanks t = c :: u) :
    ∃ b, AreBlanks b ∧ isBlank c = false ∧ t = b ++ c :: u := by
  obtain ⟨b, hb, ht, hhead⟩ := exists_blanks t
  rw [h] at ht hhead
  exact ⟨b, hb, hhead c rfl, ht⟩

/-- Blanks do not go on with a number, and neither does what stands behind them. -/
theorem endsNumber_append {b u : Text} (hb : AreBlanks b) (hu : EndsNumber u) :
    EndsNumber (b ++ u) := by
  cases b with
  | nil => exact hu
  | cons c b =>
    refine endsNumber_cons _ ?_
    have hc := hb c List.mem_cons_self
    simp only [isBlank, Bool.or_eq_true, beq_iff_eq] at hc
    rw [CodePoint.isAsciiDigit_eq_false_iff]
    omega

/-- A mark between the parts of a document does not go on with a number. -/
theorem endsNumber_mark {b : Text} {c : CodePoint} (hb : AreBlanks b)
    (hc : c.val = 93 ∨ c.val = 44 ∨ c.val = 125) (u : Text) : EndsNumber (b ++ c :: u) := by
  refine endsNumber_append hb (endsNumber_cons u ?_)
  rw [CodePoint.isAsciiDigit_eq_false_iff]
  omega

/-! ### Texts -/

private theorem exists_used_of_readUnits {t xs rest : Text} (h : readUnits t = some (xs, rest)) :
    ∃ used, t = used ++ rest ∧ ∀ u, readUnits (used ++ u) = some (xs, u) := by
  fun_induction readUnits t generalizing xs with
  | case2 q t hq =>
    cases h
    refine ⟨[q], rfl, fun u => ?_⟩
    rw [List.singleton_append, readUnits.eq_def]
    exact if_pos hq
  | case4 s hs hs' e he a b c d t ih =>
    obtain ⟨x, hx, h⟩ := Option.bind_eq_some_iff.1 h
    obtain ⟨⟨ys, rest'⟩, hys, h⟩ := Option.bind_eq_some_iff.1 h
    cases h
    obtain ⟨used, rfl, hread⟩ := ih hys
    refine ⟨s :: e :: a :: b :: c :: d :: used, rfl, fun u => ?_⟩
    show readUnits (s :: e :: a :: b :: c :: d :: (used ++ u)) = _
    rw [readUnits.eq_def]
    dsimp only
    rw [if_neg hs, if_pos hs', if_pos he, hx, hread]
    rfl
  | case6 s hs hs' e t he ih =>
    obtain ⟨x, hx, h⟩ := Option.bind_eq_some_iff.1 h
    obtain ⟨⟨ys, rest'⟩, hys, h⟩ := Option.bind_eq_some_iff.1 h
    cases h
    obtain ⟨used, rfl, hread⟩ := ih hys
    refine ⟨s :: e :: used, rfl, fun u => ?_⟩
    show readUnits (s :: e :: (used ++ u)) = _
    rw [readUnits.eq_def]
    dsimp only
    rw [if_neg hs, if_pos hs', if_neg he, hx, hread]
    rfl
  | case8 c t hquote hslash hcontrol ih =>
    obtain ⟨⟨ys, rest'⟩, hys, h⟩ := Option.bind_eq_some_iff.1 h
    cases h
    obtain ⟨used, rfl, hread⟩ := ih hys
    refine ⟨c :: used, rfl, fun u => ?_⟩
    show readUnits (c :: (used ++ u)) = _
    rw [readUnits.eq_def]
    dsimp only
    rw [if_neg hquote, if_neg hslash, if_neg hcontrol, hread]
    rfl
  | case1 | case3 | case5 | case7 => cases h

private theorem exists_used_of_readString {t s rest : Text} (h : readString t = some (s, rest)) :
    ∃ used, t = used ++ rest ∧ ∀ u, readString (used ++ u) = some (s, u) := by
  obtain ⟨⟨xs, rest'⟩, hxs, h⟩ := Option.bind_eq_some_iff.1 h
  cases h
  obtain ⟨used, ht, hread⟩ := exists_used_of_readUnits hxs
  refine ⟨used, ht, fun u => ?_⟩
  rw [readString, hread]
  rfl

/-! ### Words -/

private theorem exists_used_of_readWord {t rest : Text} {v : Value}
    (h : readWord t = some (v, rest)) : (∀ es, v ≠ .dict es) ∧
      ∃ used, used ≠ [] ∧ t = used ++ rest ∧ ∀ u, readWord (used ++ u) = some (v, u) := by
  obtain ⟨⟨w, v'⟩, he, h⟩ := List.exists_of_findSome?_eq_some h
  obtain ⟨rest', hdrop, h⟩ := Option.map_eq_some_iff.1 h
  cases h
  simp only [words, List.mem_cons, List.not_mem_nil, or_false] at he
  refine ⟨?_, w, ?_, ?_, ?_⟩
  · rcases he with he | he | he | he | he | he <;> cases he <;>
      exact fun _ hes => by cases hes
  · rcases he with he | he | he | he | he | he <;> cases he <;> exact List.cons_ne_nil _ _
  · exact Text.dropLiteral?_eq_some_iff.1 hdrop
  · intro u
    rcases he with he | he | he | he | he | he <;> cases he <;> rfl

/-! ### Numbers -/

section Numbers

variable {t rest : Text}

private theorem digitChar_sub {c : CodePoint} (h : c.isAsciiDigit = true) :
    digitChar (c.val - 48) = c ∧ c.val - 48 < 10 := by
  rw [CodePoint.isAsciiDigit, Bool.and_eq_true, decide_eq_true_eq, decide_eq_true_eq] at h
  have hlt : c.val - 48 < 10 := by omega
  refine ⟨CodePoint.ext_val ?_, hlt⟩
  rw [val_digitChar hlt]
  omega

/-- The digits that are read are those of the text. -/
theorem eq_of_readDigits (t : Text) :
    t = digitText (Decimal.readDigits t).1 ++ (Decimal.readDigits t).2 := by
  have hdigits : digitText (Decimal.readDigits t).1 = t.takeWhile CodePoint.isAsciiDigit := by
    rw [Decimal.readDigits, digitText, List.map_map]
    refine (List.map_congr_left fun c hc => ?_).trans (List.map_id _)
    exact (digitChar_sub (List.all_eq_true.1 List.all_takeWhile c hc)).1
  rw [hdigits]
  exact List.takeWhile_append_dropWhile.symm

private theorem eq_of_readWhole {ds : List ℕ} (h : readWhole t = some (ds, rest)) :
    AreDigits ds ∧ IsWhole ds ∧ t = digitText ds ++ rest := by
  have hdigits := areDigits_of_readWhole h
  refine ⟨hdigits, ?_⟩
  rw [readWhole.eq_def] at h
  split at h
  · cases h
  · next c u =>
    split_ifs at h with hzero hdigit
    · cases h
      have hc : digitChar 0 = c := CodePoint.ext_val (by rw [hzero]; rfl)
      exact ⟨.inl rfl, by rw [← hc]; rfl⟩
    · have hread : Decimal.readDigits (c :: u) = (ds, rest) := Option.some.inj h
      have ht := eq_of_readDigits (c :: u)
      rw [hread] at ht
      refine ⟨.inr ?_, ht⟩
      cases ds with
      | nil =>
        have hempty := congrArg (fun p => p.1.length) hread
        simp [Decimal.readDigits, hdigit] at hempty
      | cons d es =>
        refine ⟨d, es, rfl, fun hd => hzero ?_⟩
        rw [(List.cons.inj ht).1, hd]
        rfl

private theorem eq_of_readFraction {f : List ℕ} (h : readFraction t = some (f, rest)) :
    AreDigits f ∧ f ≠ [] ∧ t = fractionText f ++ rest := by
  rw [readFraction.eq_def] at h
  split at h
  · cases h
  · next c u =>
    split at h
    · next hc =>
      split at h
      · cases h
      · next ds rest' hne hread =>
        cases h
        have hdigits := areDigits_readDigits u
        have hu := eq_of_readDigits u
        rw [hread] at hdigits hu
        have hpoint : c = '.' := CodePoint.ext_val hc
        refine ⟨hdigits, hne, ?_⟩
        rw [fractionText_of_ne_nil hne, hpoint]
        exact congrArg _ hu
    · cases h

/-- A sign is read as the same sign before any digit. -/
theorem exists_sign (t : Text) :
    ∃ s, t = s ++ (Decimal.readSign t).2 ∧ ∀ d u, d < 10 →
      Decimal.readSign (s ++ digitChar d :: u) = ((Decimal.readSign t).1, digitChar d :: u) := by
  have hnone (d : ℕ) (u : Text) (hd : d < 10) :
      Decimal.readSign (digitChar d :: u) = (false, digitChar d :: u) := by
    have hval := val_digitChar hd
    rw [Decimal.readSign, if_neg (by omega), if_neg (by omega)]
  cases t with
  | nil => exact ⟨[], rfl, hnone⟩
  | cons c t =>
    rw [Decimal.readSign]
    split_ifs with hminus hplus
    · exact ⟨[c], rfl, fun d u _ => if_pos hminus⟩
    · refine ⟨[c], rfl, fun d u _ => ?_⟩
      show Decimal.readSign (c :: digitChar d :: u) = _
      rw [Decimal.readSign, if_neg hminus, if_pos hplus]
    · exact ⟨[], rfl, hnone⟩

private theorem exists_used_of_readExponent {e : ℤ} (h : readExponent t = some (e, rest)) :
    ∃ c used, (c.val = 69 ∨ c.val = 101) ∧ t = c :: used ++ rest ∧
      ∀ u, EndsDigits u → readExponent (c :: used ++ u) = some (e, u) := by
  rw [readExponent.eq_def] at h
  split at h
  · cases h
  · next c v =>
    split at h
    · next hc =>
      obtain ⟨s, hv, hsign⟩ := exists_sign v
      generalize Decimal.readSign v = sign at h hv hsign
      obtain ⟨negative, w⟩ := sign
      dsimp only at h hv hsign
      have hdigits := areDigits_readDigits w
      have hw := eq_of_readDigits w
      split at h
      · cases h
      · next ds rest' hne hread =>
        cases h
        rw [hread] at hdigits hw
        refine ⟨c, s ++ digitText ds, hc, ?_, fun u hu => ?_⟩
        · rw [hv, hw, List.cons_append, List.append_assoc]
        · obtain ⟨d, es, rfl⟩ := List.exists_cons_of_ne_nil hne
          have hread' := Decimal.readDigits_digitText hdigits hu
          rw [List.cons_append, List.append_assoc, readExponent, if_pos hc]
          rw [digitText_cons, List.cons_append] at hread' ⊢
          rw [hsign d _ (hdigits d List.mem_cons_self)]
          dsimp only
          rw [hread']
    · cases h

/-- The exponent of a numeral, if there is one, and what follows it. -/
def readPower (t : Text) : Option ℤ × Text :=
  ((readExponent t).map (·.1), ((readExponent t).map (·.2)).getD t)

private theorem exists_used_of_readPower (t : Text) :
    ∃ used, t = used ++ (readPower t).2 ∧ ∀ u, EndsNumber u →
      EndsDigits (used ++ u) ∧ readFraction (used ++ u) = none ∧
        readPower (used ++ u) = ((readPower t).1, u) := by
  cases hexponent : readExponent t with
  | none =>
    refine ⟨[], by rw [readPower, hexponent]; rfl, fun u hu => ?_⟩
    refine ⟨hu.endsDigits, readFraction_none hu, ?_⟩
    rw [List.nil_append, readPower, readPower, hexponent, readExponent_none hu]
    rfl
  | some p =>
    obtain ⟨c, used, hc, ht, hread⟩ := exists_used_of_readExponent hexponent
    refine ⟨c :: used, by rw [readPower, hexponent]; exact ht, fun u hu => ?_⟩
    refine ⟨endsDigits_cons ?_ _, if_neg (by omega), ?_⟩
    · rw [CodePoint.isAsciiDigit_eq_false_iff]
      omega
    · rw [readPower, readPower, hexponent, hread u hu.endsDigits]
      rfl

/-- The fraction and the exponent of a numeral, as far as there are any, and what follows them. -/
def readTail (t : Text) : Option (List ℕ) × Option ℤ × Text :=
  ((readFraction t).map (·.1), readPower (((readFraction t).map (·.2)).getD t))

private theorem exists_used_of_readTail (t : Text) :
    ∃ used, t = used ++ (readTail t).2.2 ∧ ∀ u, EndsNumber u →
      EndsDigits (used ++ u) ∧ readTail (used ++ u) = ((readTail t).1, (readTail t).2.1, u) := by
  cases hfraction : readFraction t with
  | none =>
    obtain ⟨used, ht, hread⟩ := exists_used_of_readPower t
    refine ⟨used, by rw [readTail, hfraction]; exact ht, fun u hu => ?_⟩
    obtain ⟨hends, hnone, hpower⟩ := hread u hu
    rw [readTail, readTail, hfraction, hnone]
    exact ⟨hends, Prod.ext rfl hpower⟩
  | some p =>
    obtain ⟨f, t'⟩ := p
    obtain ⟨hf, hne, rfl⟩ := eq_of_readFraction hfraction
    obtain ⟨used, ht', hread⟩ := exists_used_of_readPower t'
    refine ⟨fractionText f ++ used, ?_, fun u hu => ?_⟩
    · rw [readTail, hfraction, List.append_assoc]
      exact congrArg (fractionText f ++ ·) ht'
    · obtain ⟨hends, -, hpower⟩ := hread u hu
      have hpoint : EndsDigits (fractionText f ++ (used ++ u)) := by
        rw [fractionText_of_ne_nil hne]
        exact endsDigits_cons (by decide) _
      rw [List.append_assoc, readTail, readTail, hfraction, readFraction_fractionText hf hne hends]
      exact ⟨hpoint, Prod.ext rfl hpower⟩

/-- The number of some digits, a fraction and an exponent. -/
def numberOf (limit : Option ℕ) (negative : Bool) (w : List ℕ) (f : Option (List ℕ))
    (e : Option ℤ) : Outcome Value :=
  if f.isNone && e.isNone then
    if limit.any fun l => l < w.length then .error (.numeralTooLong (some w.length))
    else .ok (.int (if negative then -(natOfDigits w : ℤ) else natOfDigits w))
  else
    let digits := f.getD []
    .ok (.float (.ofScientific negative (natOfDigits (w ++ digits)) (e.getD 0 - digits.length)))

private theorem readNumber_eq {limit : Option ℕ} {negative : Bool} {w : List ℕ}
    (h : readWhole t = some (w, rest)) :
    readNumber limit negative t =
      (numberOf limit negative w (readTail rest).1 (readTail rest).2.1).map
        fun v => (v, (readTail rest).2.2) := by
  rw [readNumber, h, numberOf, readTail, readPower]
  dsimp only
  simp only [Option.isNone_map]
  split
  · split <;> rfl
  · rfl

/-- With a limit on digits a value is read, or the numeral of a whole number in it is too long. -/
def Limited (limit : Option ℕ) (v : Value) (o : Outcome Value) : Prop :=
  o = .ok v ∨ limit ≠ none ∧ ∃ n, o = .error (.numeralTooLong n)

private theorem Limited.map {limit : Option ℕ} {v : Value} {o : Outcome Value}
    (h : Limited limit v o) (f : Value → Value) : Limited limit (f v) (o.map f) := by
  rcases h with rfl | ⟨hlimit, n, rfl⟩
  · exact .inl rfl
  · exact .inr ⟨hlimit, n, rfl⟩

private theorem Limited.bind {limit : Option ℕ} {v w : Value} {o o' : Outcome Value}
    (h : Limited limit v o) (h' : Limited limit w o') : Limited limit w (o >>= fun _ => o') := by
  rcases h with rfl | ⟨hlimit, n, rfl⟩
  · exact h'
  · exact .inr ⟨hlimit, n, rfl⟩

private theorem limited_numberOf {limit : Option ℕ} {negative : Bool} {w : List ℕ}
    {f : Option (List ℕ)}
    {e : Option ℤ} {v : Value} (h : numberOf limit negative w f e = .ok v) (limit' : Option ℕ) :
    Limited limit' v (numberOf limit' negative w f e) := by
  rw [numberOf] at h ⊢
  split at h
  · next hwhole =>
    split at h
    · cases h
    · cases h
      rw [if_pos hwhole]
      by_cases hlong : (limit'.any fun l => decide (l < w.length)) = true
      · rw [if_pos hlong]
        refine .inr ⟨?_, _, rfl⟩
        rintro rfl
        cases hlong
      · rw [if_neg hlong]
        exact .inl rfl
  · next hfloat =>
    cases h
    rw [if_neg hfloat]
    exact .inl rfl

private theorem numberOf_ne_dict {limit : Option ℕ} {negative : Bool} {w : List ℕ}
    {f : Option (List ℕ)}
    {e : Option ℤ} {v : Value} (h : numberOf limit negative w f e = .ok v) (es) : v ≠ .dict es := by
  rw [numberOf] at h
  rintro rfl
  split_ifs at h <;> cases h

private theorem exists_used_of_readNumber {limit : Option ℕ} {negative : Bool} {v : Value}
    (h : readNumber limit negative t = .ok (v, rest)) :
    (∀ es, v ≠ .dict es) ∧
    ∃ w used, AreDigits w ∧ IsWhole w ∧ t = digitText w ++ used ++ rest ∧
      ∀ limit, ∃ o, Limited limit v o ∧ ∀ u, EndsNumber u →
        readNumber limit negative (digitText w ++ used ++ u) = o.map fun v => (v, u) := by
  cases hread : readWhole t with
  | none =>
    rw [readNumber, hread] at h
    cases h
  | some p =>
    obtain ⟨w, t'⟩ := p
    rw [readNumber_eq hread] at h
    obtain ⟨hw, hwhole, rfl⟩ := eq_of_readWhole hread
    obtain ⟨used, ht', htail⟩ := exists_used_of_readTail t'
    cases hv : numberOf limit negative w (readTail t').1 (readTail t').2.1 with
    | error e =>
      rw [hv] at h
      cases h
    | ok v' =>
      rw [hv] at h
      cases h
      refine ⟨numberOf_ne_dict hv, w, used, hw, hwhole, by rw [List.append_assoc, ← ht'],
        fun limit' => ?_⟩
      refine ⟨_, limited_numberOf hv limit', fun u hu => ?_⟩
      obtain ⟨hends, hread'⟩ := htail u hu
      rw [List.append_assoc, readNumber_eq (readWhole_digitText hw hwhole hends), hread']

end Numbers

/-! ### Values -/

/-- By the reader `p` the text is read as the value, whatever follows; an object is closed. -/
structure Reads (p : Option ℕ → ℕ → Text → Outcome (Value × Text)) (used : Text) (v : Value) :
    Prop where
  ne_nil : used ≠ []
  closed : ∀ es, v = .dict es → ∃ w c, used = w ++ [c] ∧ c.isSpace = false
  reads : ∀ limit, ∃ o, Limited limit v o ∧ ∀ fuel u, 2 * used.length ≤ fuel → EndsNumber u →
    p limit fuel (used ++ u) = o.map fun v => (v, u)

private theorem Reads.of_forall {used : Text} {v : Value} {c : CodePoint}
    (hclosed : ∀ es, v = .dict es → ∃ w c', c :: used = w ++ [c'] ∧ c'.isSpace = false)
    (h : ∀ limit fuel u, readValue limit (fuel + 1) (c :: (used ++ u)) = .ok (v, u)) :
    Reads readValue (c :: used) v := by
  refine ⟨List.cons_ne_nil _ _, hclosed, fun limit => ⟨_, .inl rfl, fun fuel u hfuel _ => ?_⟩⟩
  obtain ⟨k, rfl⟩ : ∃ k, fuel = k + 1 := ⟨fuel - 1, by rw [List.length_cons] at hfuel; omega⟩
  exact h limit k u

/-- A character and blanks in front belong to the part, where the reader goes on behind them. -/
theorem Reads.behind {p q : Option ℕ → ℕ → Text → Outcome (Value × Text)} {b used : Text}
    {v : Value} {c : CodePoint} (h : Reads q used v)
    (hstep : ∀ limit fuel u,
      p limit (fuel + 1) (c :: (b ++ (used ++ u))) = q limit fuel (used ++ u)) :
    Reads p (c :: (b ++ used)) v := by
  refine ⟨List.cons_ne_nil _ _, fun es hes => ?_, fun limit => ?_⟩
  · obtain ⟨w, d, rfl, hspace⟩ := h.closed es hes
    exact ⟨c :: (b ++ w), d, by rw [List.cons_append, List.append_assoc], hspace⟩
  · obtain ⟨o, ho, hread⟩ := h.reads limit
    refine ⟨o, ho, fun fuel u hfuel hu => ?_⟩
    rw [List.length_cons, List.length_append] at hfuel
    obtain ⟨k, rfl⟩ : ∃ k, fuel = k + 1 := ⟨fuel - 1, by omega⟩
    rw [← hread k u (by omega) hu, ← hstep, List.cons_append, List.append_assoc]

/-- With this much fuel whatever the readers use up is a part that is read so everywhere. -/
structure ReadsParts (limit : Option ℕ) (fuel : ℕ) : Prop where
  value : ∀ {t v rest}, readValue limit fuel t = .ok (v, rest) →
    ∃ used, t = used ++ rest ∧ Reads readValue used v
  items : ∀ {done t v rest}, readItems limit fuel done t = .ok (v, rest) →
    ∃ used xs, v = .list xs ∧ t = used ++ rest ∧
      Reads (fun limit fuel => readItems limit fuel done) used v
  entries : ∀ {done t v rest}, readEntries limit fuel done t = .ok (v, rest) →
    ∃ used es, v = .dict es ∧ t = used ++ rest ∧
      Reads (fun limit fuel => readEntries limit fuel done) used v

/-- The entry is read with the mark behind it, whatever follows: the value has the outcome, a brace
ends the object, and behind a comma further entries are read. -/
structure ReadsEntry (limit : Option ℕ) (entry : Text) (c : CodePoint) (key : Text)
    (o : Outcome Value) : Prop where
  close : c.val = 125 → ∀ done fuel u, 2 * entry.length ≤ fuel →
    readEntries limit (fuel + 1) done (entry ++ c :: u) =
      (o.map fun x => .dict (putEntry done key x)).map fun v => (v, u)
  comma : c.val = 44 → ∀ done fuel u, 2 * entry.length ≤ fuel →
    readEntries limit (fuel + 1) done (entry ++ c :: u) =
      o >>= fun x => readEntries limit fuel (putEntry done key x) (skipBlanks u)

/-- Blanks before a part are skipped, whatever follows the part. -/
theorem skipBlanks_part {b used rest : Text} (hb : AreBlanks b) (hne : used ≠ [])
    (hhead : ∀ c ∈ (used ++ rest).head?, isBlank c = false) (u : Text) :
    skipBlanks (b ++ (used ++ u)) = used ++ u := by
  refine skipBlanks_append hb fun c hc => hhead c ?_
  rw [List.head?_append_of_ne_nil _ hne] at hc ⊢
  exact hc

/-! ### One step of reading -/

section Values

variable {limit : Option ℕ} {fuel : ℕ} {s u : Text} {c d : CodePoint}

private theorem readValue_word {r : Value × Text} (hquote : c.val ≠ 34) (hbracket : c.val ≠ 91)
    (hbrace : c.val ≠ 123) (h : readWord (c :: s) = some r) :
    readValue limit (fuel + 1) (c :: s) = .ok r := by
  rw [readValue, if_neg hquote, if_neg hbracket, if_neg hbrace, h]

/-- A number is a part, with its sign. -/
theorem exists_used_of_number {negative : Bool} {v : Value} {rest : Text}
    (h : readNumber limit negative s = .ok (v, rest)) :
    ∃ used, minus negative ++ s = used ++ rest ∧ Reads readValue used v := by
  obtain ⟨hdict, w, used, hw, hwhole, rfl, hreads⟩ := exists_used_of_readNumber h
  obtain ⟨n, ns, rfl⟩ := List.exists_cons_of_ne_nil hwhole.ne_nil
  refine ⟨minus negative ++ (digitText (n :: ns) ++ used), by simp, by simp,
    fun es hes => absurd hes (hdict es), fun limit' => ?_⟩
  obtain ⟨o, ho, hread⟩ := hreads limit'
  refine ⟨o, ho, fun fuel' u hfuel hu => ?_⟩
  obtain ⟨k, rfl⟩ : ∃ k, fuel' = k + 1 := ⟨fuel' - 1, by simp at hfuel; omega⟩
  rw [← hread u hu, List.append_assoc, digitText_cons]
  exact readValue_number negative (hw n List.mem_cons_self)

end Values

section Steps

variable {limit : Option ℕ} {fuel : ℕ} {t rest : Text} {c : CodePoint} {v : Value}
  (ih : ReadsParts limit fuel)
include ih

private theorem exists_used_of_readItems_succ {done : List Value}
    (h : readItems limit (fuel + 1) done t = .ok (v, rest)) :
    ∃ used xs, v = .list xs ∧ t = used ++ rest ∧
      Reads (fun limit fuel => readItems limit fuel done) used v := by
  rw [readItems] at h
  obtain ⟨⟨x, t'⟩, hx, h'⟩ := bind_eq_ok_iff.1 h
  clear h
  obtain ⟨used, rfl, hused⟩ := ih.value hx
  dsimp only at h'
  split at h'
  · cases h'
  next c t'' hskip =>
  obtain ⟨b, hb, hblank, rfl⟩ := exists_blanks_cons hskip
  split_ifs at h' with hclose hcomma
  -- The last member.
  · cases h'
    refine ⟨used ++ (b ++ [c]), _, rfl, by simp, by simp, fun _ hes => (by cases hes),
      fun limit' => ?_⟩
    obtain ⟨o, ho, hread⟩ := hused.reads limit'
    refine ⟨_, ho.map fun x => .list (x :: done).reverse, fun fuel' u hfuel hu => ?_⟩
    simp only [List.length_append, List.length_cons] at hfuel
    obtain ⟨k, rfl⟩ : ∃ k, fuel' = k + 1 := ⟨fuel' - 1, by omega⟩
    rw [List.append_assoc, List.append_assoc]
    exact readItems_close hb hblank hclose
      (hread k _ (by omega) (endsNumber_mark hb (.inl hclose) u))
  -- Further members follow.
  · obtain ⟨used', xs, rfl, ht, hused'⟩ := ih.items h'
    obtain ⟨b', hb', ht', hhead⟩ := exists_blanks t''
    rw [ht] at ht' hhead
    refine ⟨used ++ (b ++ c :: (b' ++ used')), xs, rfl, ?_, by simp, fun _ hes => (by cases hes),
      fun limit' => ?_⟩
    · rw [ht']
      simp
    obtain ⟨o, ho, hread⟩ := hused.reads limit'
    obtain ⟨o', ho', hread'⟩ := hused'.reads limit'
    refine ⟨_, ho.bind ho', fun fuel' u hfuel hu => ?_⟩
    simp only [List.length_append, List.length_cons] at hfuel
    obtain ⟨k, rfl⟩ : ∃ k, fuel' = k + 1 := ⟨fuel' - 1, by omega⟩
    simp only [List.append_assoc, List.cons_append]
    rw [readItems_comma hb hblank hcomma
      (hread k _ (by omega) (endsNumber_mark hb (.inr (.inl hcomma)) _)),
      skipBlanks_part hb' hused'.ne_nil hhead]
    rcases ho with rfl | ⟨hlimit, n, rfl⟩
    · exact hread' k u (by omega) hu
    · rfl

/-- An entry is read with the mark behind it. -/
theorem exists_entry_of_readEntries {done : List (Value × Value)}
    (h : readEntries limit (fuel + 1) done t = .ok (v, rest)) :
    ∃ entry c t' key x, t = entry ++ c :: t' ∧
      (∀ limit', ∃ o, Limited limit' x o ∧ ReadsEntry limit' entry c key o) ∧
      (c.val = 125 ∧ v = .dict (putEntry done key x) ∧ rest = t' ∨
        c.val = 44 ∧
          readEntries limit fuel (putEntry done key x) (skipBlanks t') = .ok (v, rest)) := by
  rw [readEntries.eq_def] at h
  dsimp only at h
  split at h
  · cases h
  next q s =>
  split at h
  · cases h
  next hq =>
  rw [not_not] at hq
  split at h
  · cases h
  next key t₁ hkey =>
  split at h
  · cases h
  next d t₂ hcolon =>
  split at h
  · cases h
  next hd =>
  rw [not_not] at hd
  obtain ⟨⟨x, t₃⟩, hx, h'⟩ := bind_eq_ok_iff.1 h
  clear h
  dsimp only at h'
  split at h'
  · cases h'
  next c t₄ hskip =>
  -- The parts: the key, a colon, the value and a mark, with blanks between them.
  obtain ⟨usedKey, rfl, hreadKey⟩ := exists_used_of_readString hkey
  obtain ⟨b₁, hb₁, hblank₁, rfl⟩ := exists_blanks_cons hcolon
  obtain ⟨b₂, hb₂, ht₂, hhead₂⟩ := exists_blanks t₂
  obtain ⟨used, hx', hused⟩ := ih.value hx
  rw [hx'] at ht₂ hhead₂
  obtain ⟨b₃, hb₃, hblank₃, rfl⟩ := exists_blanks_cons hskip
  refine ⟨q :: (usedKey ++ (b₁ ++ d :: (b₂ ++ (used ++ b₃)))), c, t₄, key, x, ?_,
    fun limit' => ?_, ?_⟩
  · rw [ht₂]
    simp
  · obtain ⟨o, ho, hread⟩ := hused.reads limit'
    have hvalue {k : ℕ} (u : Text)
        (hk : 2 * (q :: (usedKey ++ (b₁ ++ d :: (b₂ ++ (used ++ b₃))))).length ≤ k)
        (hc : c.val = 125 ∨ c.val = 44) :
        readValue limit' k (skipBlanks (b₂ ++ (used ++ (b₃ ++ c :: u)))) =
          o.map fun v => (v, b₃ ++ c :: u) := by
      simp only [List.length_append, List.length_cons] at hk
      rw [skipBlanks_part hb₂ hused.ne_nil hhead₂]
      exact hread k _ (by omega) (endsNumber_mark hb₃ (by omega) u)
    refine ⟨o, ho, fun hclose done k u hk => ?_, fun hcomma done k u hk => ?_⟩
    · simp only [List.append_assoc, List.cons_append]
      exact readEntries_close hq (hreadKey _) (skipBlanks_mark hb₁ hblank₁ _) hd hb₃ hblank₃ hclose
        (hvalue u hk (.inl hclose))
    · simp only [List.append_assoc, List.cons_append]
      exact readEntries_comma hq (hreadKey _) (skipBlanks_mark hb₁ hblank₁ _) hd hb₃ hblank₃ hcomma
        (hvalue u hk (.inr hcomma))
  · split_ifs at h' with hclose hcomma
    · cases h'
      exact .inl ⟨hclose, rfl, rfl⟩
    · exact .inr ⟨hcomma, h'⟩

private theorem exists_used_of_readEntries_succ {done : List (Value × Value)}
    (h : readEntries limit (fuel + 1) done t = .ok (v, rest)) :
    ∃ used es, v = .dict es ∧ t = used ++ rest ∧
      Reads (fun limit fuel => readEntries limit fuel done) used v := by
  obtain ⟨entry, c, t', key, x, rfl, hentry, ⟨hclose, rfl, rfl⟩ | ⟨hcomma, h⟩⟩ :=
    exists_entry_of_readEntries ih h
  -- The last entry.
  · have hspace : c.isSpace = false :=
      CodePoint.IsPlain.isSpace ⟨by omega, by omega, by omega, by omega⟩
    refine ⟨entry ++ [c], _, rfl, by simp, by simp, fun _ _ => ⟨entry, c, rfl, hspace⟩,
      fun limit' => ?_⟩
    obtain ⟨o, ho, hread⟩ := hentry limit'
    refine ⟨_, ho.map fun x => .dict (putEntry done key x), fun fuel' u hfuel hu => ?_⟩
    rw [List.length_append, List.length_singleton] at hfuel
    obtain ⟨k, rfl⟩ : ∃ k, fuel' = k + 1 := ⟨fuel' - 1, by omega⟩
    rw [List.append_assoc]
    exact hread.close hclose done k u (by omega)
  -- Further entries follow.
  · obtain ⟨used', es, rfl, ht, hused'⟩ := ih.entries h
    obtain ⟨b, hb, ht', hhead⟩ := exists_blanks t'
    rw [ht] at ht' hhead
    refine ⟨entry ++ c :: (b ++ used'), es, rfl, by rw [ht']; simp, by simp, fun es' hes => ?_,
      fun limit' => ?_⟩
    · obtain ⟨w, e, rfl, hspace⟩ := hused'.closed es' hes
      exact ⟨entry ++ c :: (b ++ w), e, by simp, hspace⟩
    obtain ⟨o, ho, hread⟩ := hentry limit'
    obtain ⟨o', ho', hread'⟩ := hused'.reads limit'
    refine ⟨_, ho.bind ho', fun fuel' u hfuel hu => ?_⟩
    simp only [List.length_append, List.length_cons] at hfuel
    obtain ⟨k, rfl⟩ : ∃ k, fuel' = k + 1 := ⟨fuel' - 1, by omega⟩
    simp only [List.append_assoc, List.cons_append]
    rw [hread.comma hcomma done k _ (by omega), skipBlanks_part hb hused'.ne_nil hhead]
    rcases ho with rfl | ⟨hlimit, n, rfl⟩
    · exact hread' k u (by omega) hu
    · rfl

private theorem exists_used_of_bracket {s : Text} (hc : c.val = 91)
    (h : readValue limit (fuel + 1) (c :: s) = .ok (v, rest)) :
    ∃ used, c :: s = used ++ rest ∧ Reads readValue used v := by
  cases hskip : skipBlanks s with
  | nil =>
    rw [readValue, if_neg (by omega), if_pos hc, hskip] at h
    cases h
  | cons d s' =>
    rw [readValue_bracket hc hskip] at h
    obtain ⟨b, hb, hblank, rfl⟩ := exists_blanks_cons hskip
    have hopen (limit : Option ℕ) (fuel : ℕ) (u : Text) :
        readValue limit (fuel + 1) (c :: (b ++ d :: u)) =
          if d.val = 93 then .ok (.list [], u) else readItems limit fuel [] (d :: u) :=
      readValue_bracket hc (skipBlanks_mark hb hblank u)
    split_ifs at h with hclose
    · cases h
      refine ⟨c :: (b ++ [d]), by simp, .of_forall (fun _ hes => by cases hes) ?_⟩
      intro limit' fuel' u
      rw [List.append_assoc]
      exact (hopen limit' fuel' u).trans (if_pos hclose)
    · obtain ⟨used, xs, rfl, ht, hused⟩ := ih.items h
      obtain ⟨e, used', rfl⟩ := List.exists_cons_of_ne_nil hused.ne_nil
      obtain ⟨rfl, -⟩ := List.cons.inj ht
      refine ⟨c :: (b ++ d :: used'), by rw [ht]; simp, hused.behind fun limit' fuel' u => ?_⟩
      exact (hopen limit' fuel' _).trans (if_neg hclose)

private theorem exists_used_of_brace {s : Text} (hc : c.val = 123)
    (h : readValue limit (fuel + 1) (c :: s) = .ok (v, rest)) :
    ∃ used, c :: s = used ++ rest ∧ Reads readValue used v := by
  cases hskip : skipBlanks s with
  | nil =>
    rw [readValue, if_neg (by omega), if_neg (by omega), if_pos hc, hskip] at h
    cases h
  | cons d s' =>
    rw [readValue_brace hc hskip] at h
    obtain ⟨b, hb, hblank, rfl⟩ := exists_blanks_cons hskip
    have hopen (limit : Option ℕ) (fuel : ℕ) (u : Text) :
        readValue limit (fuel + 1) (c :: (b ++ d :: u)) =
          if d.val = 125 then .ok (.dict [], u) else readEntries limit fuel [] (d :: u) :=
      readValue_brace hc (skipBlanks_mark hb hblank u)
    split_ifs at h with hclose
    · cases h
      refine ⟨c :: (b ++ [d]), by simp, .of_forall (fun _ _ => ⟨c :: b, d, rfl, ?_⟩)
        fun limit' fuel' u => ?_⟩
      · exact CodePoint.IsPlain.isSpace ⟨by omega, by omega, by omega, by omega⟩
      · rw [List.append_assoc]
        exact (hopen limit' fuel' u).trans (if_pos hclose)
    · obtain ⟨used, es, rfl, ht, hused⟩ := ih.entries h
      obtain ⟨e, used', rfl⟩ := List.exists_cons_of_ne_nil hused.ne_nil
      obtain ⟨rfl, -⟩ := List.cons.inj ht
      refine ⟨c :: (b ++ d :: used'), by rw [ht]; simp, hused.behind fun limit' fuel' u => ?_⟩
      exact (hopen limit' fuel' _).trans (if_neg hclose)

private theorem exists_used_of_readValue_succ (h : readValue limit (fuel + 1) t = .ok (v, rest)) :
    ∃ used, t = used ++ rest ∧ Reads readValue used v := by
  cases t with
  | nil =>
    rw [readValue] at h
    cases h
  | cons c s =>
    by_cases hbracket : c.val = 91
    · exact exists_used_of_bracket ih hbracket h
    by_cases hbrace : c.val = 123
    · exact exists_used_of_brace ih hbrace h
    by_cases hquote : c.val = 34
    · rw [readValue, if_pos hquote] at h
      split at h
      · next w t' hread =>
        cases h
        obtain ⟨used, rfl, hread'⟩ := exists_used_of_readString hread
        refine ⟨c :: used, rfl, .of_forall (fun _ hes => by cases hes) ?_⟩
        intro limit' fuel' u
        rw [readValue, if_pos hquote, hread']
      · cases h
    rw [readValue, if_neg hquote, if_neg hbracket, if_neg hbrace] at h
    split at h
    · next r hword =>
      cases h
      obtain ⟨hdict, used, hne, ht, hread⟩ := exists_used_of_readWord hword
      obtain ⟨c', used', rfl⟩ := List.exists_cons_of_ne_nil hne
      obtain ⟨rfl, -⟩ := List.cons.inj ht
      refine ⟨c :: used', ht, .of_forall (fun es hes => absurd hes (hdict es)) ?_⟩
      intro limit' fuel' u
      exact readValue_word hquote hbracket hbrace (hread u)
    -- A minus sign can begin a word as well as a number.
    · split at h
      · next hminus =>
        obtain rfl : c = '-' := CodePoint.ext_val hminus
        exact exists_used_of_number h
      · exact exists_used_of_number h

end Steps

/-- Every step of reading uses up parts. -/
theorem readsParts (limit : Option ℕ) (fuel : ℕ) : ReadsParts limit fuel := by
  induction fuel with
  | zero =>
    refine ⟨fun h => ?_, fun h => ?_, fun h => ?_⟩
    · rw [readValue] at h
      cases h
    · rw [readItems] at h
      cases h
    · rw [readEntries] at h
      cases h
  | succ fuel ih =>
    exact ⟨exists_used_of_readValue_succ ih, exists_used_of_readItems_succ ih,
      exists_used_of_readEntries_succ ih⟩

/-! ### Documents -/

section Documents

variable {limit : Option ℕ} {fuel : ℕ} {a used a' t u rest : Text} {v : Value}
  {es : List (Value × Value)}

/-- An object begins with a brace. -/
theorem exists_brace_of_readValue (h : readValue limit fuel t = .ok (.dict es, rest)) :
    ∃ c u, t = c :: u ∧ c.val = 123 := by
  cases fuel with
  | zero =>
    rw [readValue] at h
    cases h
  | succ fuel =>
    cases t with
    | nil =>
      rw [readValue] at h
      cases h
    | cons c u =>
      refine ⟨c, u, rfl, by_contra fun hbrace => ?_⟩
      by_cases hbracket : c.val = 91
      · rw [readValue, if_neg (by omega), if_pos hbracket] at h
        split at h
        · cases h
        split_ifs at h
        · cases h
        · obtain ⟨-, xs, hxs, -⟩ := (readsParts limit fuel).items h
          cases hxs
      rw [readValue, if_neg hbracket, if_neg hbrace] at h
      split_ifs at h
      · split at h <;> cases h
      all_goals
        split at h
        · next hword =>
          cases h
          exact (exists_used_of_readWord hword).1 es rfl
        · exact (exists_used_of_readNumber h).1 es rfl

/-- Without a limit on digits a part is read as its value. -/
theorem Reads.readValue_none (h : Reads readValue used v) (hfuel : 2 * used.length ≤ fuel)
    (hu : EndsNumber u) : readValue none fuel (used ++ u) = .ok (v, u) := by
  obtain ⟨o, hlimited, hread⟩ := h.reads none
  obtain rfl : o = .ok v := hlimited.resolve_right fun hlimit => hlimit.1 rfl
  exact hread fuel u hfuel hu

/-- A part begins with a character of the value. -/
theorem Reads.isBlank_head (h : Reads readValue used v) (u : Text) :
    ∀ c ∈ (used ++ u).head?, isBlank c = false := by
  have hused := h.readValue_none le_rfl endsNumber_nil
  rw [List.append_nil] at hused
  obtain ⟨d, w, rfl, hblank, -⟩ := exists_cons_of_readValue hused
  intro c hc
  cases hc
  exact hblank

/-- A value does not start with a blank, so the blanks before it are all that is skipped. -/
theorem Reads.skipBlanks_append (h : Reads readValue used v) (ha : AreBlanks a) (u : Text) :
    skipBlanks (a ++ (used ++ u)) = used ++ u :=
  Json.skipBlanks_append ha (h.isBlank_head u)

/-- With blanks around it a part is read as a document. -/
theorem Reads.readWith (h : Reads readValue used v) (limit : Option ℕ) :
    ∃ o, Limited limit v o ∧
      (∀ a a', AreBlanks a → AreBlanks a' → readWith limit (a ++ (used ++ a')) = o) ∧
      ∀ fuel u, 2 * used.length ≤ fuel → EndsNumber u →
        readValue limit fuel (used ++ u) = o.map fun v => (v, u) := by
  obtain ⟨o, hlimited, hread⟩ := h.reads limit
  refine ⟨o, hlimited, fun a a' ha ha' => ?_, hread⟩
  have hends := endsNumber_append ha' endsNumber_nil
  have hskip : skipBlanks a' = [] := by
    have hskip := Json.skipBlanks_append (u := []) ha' fun _ hc => by cases hc
    rwa [List.append_nil] at hskip
  rw [List.append_nil] at hends
  rw [Json.readWith, h.skipBlanks_append ha, hread _ a' _ hends]
  · cases o with
    | error e => rfl
    | ok w =>
      dsimp only [Except.map]
      rw [ok_bind]
      dsimp only
      rw [hskip]
      rfl
  · simp only [List.length_append]
    omega

/-- A document that is read is a part with blanks around it. -/
theorem exists_used_of_readWith (h : readWith limit t = .ok v) :
    ∃ a used a', AreBlanks a ∧ AreBlanks a' ∧ t = a ++ (used ++ a') ∧ Reads readValue used v ∧
      ∃ fuel, readValue limit fuel (used ++ a') = .ok (v, a') := by
  rw [readWith] at h
  obtain ⟨⟨w, rest⟩, hw, h'⟩ := bind_eq_ok_iff.1 h
  clear h
  dsimp only at h'
  split_ifs at h' with hempty
  cases h'
  obtain ⟨a, ha, ht, -⟩ := exists_blanks t
  obtain ⟨a', ha', hrest, -⟩ := exists_blanks rest
  rw [List.isEmpty_iff.1 hempty, List.append_nil] at hrest
  obtain rfl := hrest
  obtain ⟨used, hused, hreads⟩ := (readsParts _ _).value hw
  rw [hused] at ht hw
  exact ⟨a, used, rest, ha, ha', ht, hreads, _, hw⟩

end Documents

end LedgerTags.Json

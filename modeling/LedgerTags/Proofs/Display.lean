import LedgerTags.Proofs.JsonDocument

/-!
# Displays without surrogates

A character that is printable is no surrogate, so the display of a value of a document has none
(`isScalar_displayIn`), and a text that stands for such a value has no pairs of surrogates
(`noPairs_plain`).
-/

namespace LedgerTags

/-! ### Printable characters -/

private theorem Text.Table.covers_of_mem {c lo hi : ℕ} {rs : List (ℕ × ℕ)}
    (hsorted : rs.Pairwise fun a b => a.1 ≤ b.1) (hmem : (lo, hi) ∈ rs) (hlo : lo ≤ c)
    (hhi : c ≤ hi) : covers c rs = true := by
  induction rs with
  | nil => cases hmem
  | cons r rs ih =>
    obtain ⟨hr, hrs⟩ := List.pairwise_cons.1 hsorted
    rcases List.mem_cons.1 hmem with rfl | hmem
    · rw [covers, if_neg (by omega), decide_eq_true hhi, Bool.true_or]
    · have hle : r.1 ≤ lo := hr _ hmem
      rw [covers, if_neg (by omega), ih hrs hmem, Bool.or_true]

private theorem CodePoint.isSurrogate_of_isPrintable {c : CodePoint} (h : c.isPrintable = true) :
    c.isSurrogate = false := by
  have hsorted : Text.Table.unprintable.IsChain fun a b => a.1 ≤ b.1 := by decide +kernel
  have hmem : (0xd7fc, 0xf8ff) ∈ Text.Table.unprintable := by decide +kernel
  rw [← Bool.not_eq_true]
  intro hsurrogate
  rw [isSurrogate, Bool.and_eq_true, decide_eq_true_iff, decide_eq_true_iff] at hsurrogate
  have hcovers := Text.Table.covers_of_mem (c := c.val) (List.isChain_iff_pairwise.1 hsorted) hmem
    (by omega) (by omega)
  rw [isPrintable, if_neg (by omega), hcovers] at h
  cases h

private theorem CodePoint.isSurrogate_ofChar (c : Char) : (ofChar c).isSurrogate = false := by
  have hvalid : c.toNat < 0xD800 ∨ 0xDFFF < c.toNat ∧ c.toNat < 0x110000 := c.valid
  have hval : (ofChar c).val = c.toNat := rfl
  rw [isSurrogate, Bool.and_eq_false_iff, decide_eq_false_iff_not, decide_eq_false_iff_not]
  omega

namespace Text

/-- The text has no surrogates. -/
def IsScalar (t : Text) : Prop := ∀ c ∈ t, c.isSurrogate = false

instance (t : Text) : Decidable t.IsScalar :=
  inferInstanceAs (Decidable (∀ c ∈ t, c.isSurrogate = false))

variable {t u : Text}

/-- Texts without surrogates stay so when they are joined. -/
theorem IsScalar.append (ht : t.IsScalar) (hu : u.IsScalar) : (t ++ u).IsScalar :=
  List.forall_mem_append.2 ⟨ht, hu⟩

/-- A text whose characters are all shown holds no surrogate. -/
theorem IsScalar.of_allShown (h : Json.AllShown t) : t.IsScalar := by
  intro c hc
  have hle := (h c hc).2
  rw [CodePoint.isSurrogate, Bool.and_eq_false_iff, decide_eq_false_iff_not]
  exact .inl (by omega)

private theorem IsScalar.joinWith (ht : t.IsScalar) {us : List Text} (h : ∀ u ∈ us, u.IsScalar) :
    (joinWith t us).IsScalar := by
  induction us with
  | nil => exact fun c hc => by cases hc
  | cons u us ih =>
    obtain ⟨hu, hus⟩ := List.forall_mem_cons.1 h
    cases us with
    | nil => exact hu
    | cons v vs => exact (hu.append ht).append (ih hus)

private theorem isScalar_map_ofChar (cs : List Char) : IsScalar (cs.map CodePoint.ofChar) := by
  intro c hc
  obtain ⟨d, -, rfl⟩ := List.mem_map.1 hc
  exact CodePoint.isSurrogate_ofChar d

/-- The text of a string holds no surrogate. -/
theorem isScalar_ofString (s : String) : (ofString s).IsScalar := isScalar_map_ofChar s.toList

private theorem isScalar_hexPadded (width n : ℕ) : (hexPadded width n).IsScalar := by
  refine .append (fun c hc => ?_) (isScalar_map_ofChar _)
  rw [List.eq_of_mem_replicate hc]
  decide

private theorem isScalar_quotedChar {quote : CodePoint} (hquote : quote.isSurrogate = false)
    (c : CodePoint) : (quotedChar quote c).IsScalar := by
  have hbackslash : ('\\' : CodePoint).isSurrogate = false := by decide
  unfold quotedChar
  split
  · next h =>
    refine List.forall_mem_cons.2 ⟨hbackslash, List.forall_mem_singleton.2 ?_⟩
    rcases Bool.or_eq_true_iff.1 h with h | h
    · rw [of_decide_eq_true h, hquote]
    · rw [CodePoint.isSurrogate, eq_of_beq h]
      rfl
  split
  · decide
  split
  · decide
  split
  · decide
  split
  · next h => exact List.forall_mem_singleton.2 (CodePoint.isSurrogate_of_isPrintable h)
  split
  · exact .append (isScalar_ofString _) (isScalar_hexPadded _ _)
  split
  · exact .append (isScalar_ofString _) (isScalar_hexPadded _ _)
  · exact .append (isScalar_ofString _) (isScalar_hexPadded _ _)

private theorem isScalar_quoted (t : Text) : (quoted t).IsScalar := by
  have hquote : (quoteOf t).isSurrogate = false := by
    rw [quoteOf]
    split <;> decide
  refine List.forall_mem_cons.2 ⟨hquote, IsScalar.append ?_ (List.forall_mem_singleton.2 hquote)⟩
  intro c hc
  obtain ⟨d, -, hd⟩ := List.mem_flatMap.1 hc
  exact isScalar_quotedChar hquote d c hd

end Text

/-! ### Values -/

namespace Value

open Json Text

private theorem isScalar_bracketed (opening closing : String) {parts : List Text}
    (h : ∀ t ∈ parts, t.IsScalar) : (bracketed opening closing parts).IsScalar :=
  .append (.append (isScalar_ofString opening) (.joinWith (isScalar_ofString _) h))
    (isScalar_ofString closing)

private theorem isScalar_toText (x : Binary64) : x.toText.IsScalar := by
  cases x with
  | infinity s => cases s <;> decide
  | nan => decide
  | finite s m e h => exact .of_allShown (allShown_writeFloat (.finite s m e h))

private theorem isScalar_displayAll {around : List ℕ} {xs : List Value}
    (h : ∀ x ∈ xs, (displayIn around x).IsScalar) : ∀ t ∈ displayAll around xs, t.IsScalar := by
  induction xs with
  | nil => exact fun t ht => by cases ht
  | cons x xs ih =>
    obtain ⟨hx, hxs⟩ := List.forall_mem_cons.1 h
    exact List.forall_mem_cons.2 ⟨hx, ih hxs⟩

private theorem isScalar_displayEntries {around : List ℕ} {es : List (Text × Value)}
    (h : ∀ e ∈ es, (displayIn around e.2).IsScalar) :
    ∀ t ∈ displayEntries around (members es), t.IsScalar := by
  induction es with
  | nil => exact fun t ht => by cases ht
  | cons e es ih =>
    obtain ⟨he, hes⟩ := List.forall_mem_cons.1 h
    exact List.forall_mem_cons.2
      ⟨.append (.append (isScalar_quoted e.1) (isScalar_ofString _)) he, ih hes⟩

/-- The display of a value of a document has no surrogates. -/
theorem isScalar_displayIn {v : Value} (h : IsDocument v) (around : List ℕ) :
    (displayIn around v).IsScalar := by
  induction h with
  | null => exact isScalar_ofString _
  | bool b => cases b <;> exact isScalar_ofString _
  | @int n _ => exact .of_allShown (allShown_ofInt n)
  | float x => exact isScalar_toText x
  | text _ => exact isScalar_quoted _
  | list _ ih => exact isScalar_bracketed _ _ (isScalar_displayAll ih)
  | dict _ _ _ ih => exact isScalar_bracketed _ _ (isScalar_displayEntries ih)

/-- The text that a value of a document stands for has no pairs of surrogates. -/
theorem noPairs_plain {v : Value} (h : IsDocument v) : NoPairs v.plain := by
  have hdisplay : NoPairs v.display := noPairs_of_isSurrogate (isScalar_displayIn h [])
  cases h with
  | text h => exact h
  | _ => exact hdisplay

end Value

end LedgerTags

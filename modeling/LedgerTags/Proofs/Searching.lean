import LedgerTags.Proofs.Composition
import LedgerTags.Proofs.FieldKinds

/-!
# Searching for a part of a text

A search lower-cases the text that it looks for and the text that it looks in, each by itself. Lower
case goes character by character but for the capital sigma, whose small form depends on the letters
around it. So the lower case of a text is made of what its parts become between their neighbours
(`lower_append_append`), and a part becomes its own lower case exactly if the ends of words keep
its sigmas apart as the whole does (`lowerBetween_eq_lower_iff`). Such a part is found
(`search_keeps`); the others may not be (`search_loses_sigma`).
-/

namespace LedgerTags

namespace Text

/-- The capital sigma. -/
def capitalSigma : CodePoint := { val := 0x3a3 }

/-- Whether a sigma stands at the end of a word, given what is before it, nearest first, and what is
after it. -/
def endsWord (before after : Text) : Bool := meetsCased before && !meetsCased after

/-- What one character becomes in lower case between its neighbours. -/
def lowerAt (before : Text) (c : CodePoint) (after : Text) : Text :=
  if c.val = 0x3a3 then
    if endsWord before after then [CodePoint.ofNat 0x3c2] else [CodePoint.ofNat 0x3c3]
  else if c.val = 0x130 then ['i', CodePoint.ofNat 0x307]
  else [c.lower]

/-- What a text becomes in lower case between other texts, of which the one before is given nearest
first. -/
def lowerBetween (before : Text) : Text → Text → Text
  | [], _ => []
  | c :: t, after => lowerAt before c (t ++ after) ++ lowerBetween (c :: before) t after

variable {before after s t x y : Text} {c : CodePoint}

/-- Lower case goes on character by character, with what comes before in mind. -/
theorem lowerAfter_cons (before : Text) (c : CodePoint) (t : Text) :
    lowerAfter before (c :: t) = lowerAt before c t ++ lowerAfter (c :: before) t := rfl

/-- Two texts one after the other are lower-cased each beside the other. -/
theorem lowerAfter_append (before s t : Text) :
    lowerAfter before (s ++ t) = lowerBetween before s t ++ lowerAfter (s.reverse ++ before) t := by
  induction s generalizing before with
  | nil => rfl
  | cons c s ih =>
    rw [List.cons_append, lowerAfter_cons, ih, lowerBetween, List.append_assoc,
      List.reverse_cons, List.append_assoc, List.singleton_append]

private theorem lower_eq_lowerBetween (s : Text) : lower s = lowerBetween [] s [] := by
  have h := lowerAfter_append [] s []
  rwa [List.append_nil, lowerAfter, List.append_nil] at h

/-- The lower case of a text has that of each of its parts between their neighbours. -/
theorem lower_append_append (before s after : Text) :
    lower (before ++ s ++ after) = lowerBetween [] before (s ++ after) ++
      lowerBetween before.reverse s after ++ lowerAfter (s.reverse ++ before.reverse) after := by
  rw [lower, List.append_assoc, lowerAfter_append, lowerAfter_append, List.append_nil,
    List.append_assoc]

/-! ### Sigmas -/

private theorem lowerAt_of_ne (hc : c ≠ capitalSigma) (before after x y : Text) :
    lowerAt before c after = lowerAt x c y := by
  have hval : c.val ≠ 0x3a3 := fun h => hc (CodePoint.ext_val h)
  rw [lowerAt, lowerAt, if_neg hval, if_neg hval]

private theorem lowerAt_capitalSigma_eq_iff :
    lowerAt before capitalSigma after = lowerAt x capitalSigma y ↔
      endsWord before after = endsWord x y := by
  have hform : ∀ b b' : Bool, (if b then [CodePoint.ofNat 0x3c2] else [CodePoint.ofNat 0x3c3]) =
      (if b' then [CodePoint.ofNat 0x3c2] else [CodePoint.ofNat 0x3c3]) ↔ b = b' := by decide
  exact hform _ _

private theorem length_lowerAt (before after x y : Text) (c : CodePoint) :
    (lowerAt before c after).length = (lowerAt x c y).length := by
  by_cases hc : c = capitalSigma
  · subst hc
    have hone : ∀ b : Bool, (if b then [CodePoint.ofNat 0x3c2]
        else [CodePoint.ofNat 0x3c3]).length = 1 := by decide
    exact (hone _).trans (hone _).symm
  · rw [lowerAt_of_ne hc]

/-- Each capital sigma of a text ends a word between two texts exactly if it ends one between two
others. -/
def SameSigmas (s before after x y : Text) : Prop :=
  ∀ p q, s = p ++ capitalSigma :: q →
    endsWord (p.reverse ++ before) (q ++ after) = endsWord (p.reverse ++ x) (q ++ y)

private theorem sameSigmas_cons : SameSigmas (c :: s) before after x y ↔
    (c = capitalSigma → endsWord before (s ++ after) = endsWord x (s ++ y)) ∧
      SameSigmas s (c :: before) after (c :: x) y := by
  constructor
  · intro h
    refine ⟨fun hc => h [] s (by rw [hc]; rfl), fun p q hs => ?_⟩
    have hcons := h (c :: p) q (by rw [hs]; rfl)
    rwa [List.reverse_cons, List.append_assoc, List.append_assoc] at hcons
  · rintro ⟨hhead, htail⟩ p q hs
    cases p with
    | nil =>
      obtain ⟨hc, rfl⟩ := List.cons.inj hs
      exact hhead hc
    | cons d p =>
      obtain ⟨rfl, hrest⟩ := List.cons.inj hs
      rw [List.reverse_cons, List.append_assoc, List.append_assoc]
      exact htail p q hrest

/-- Between two pairs of texts a text becomes the same exactly if its sigmas do. -/
theorem lowerBetween_eq_iff : lowerBetween before s after = lowerBetween x s y ↔
    SameSigmas s before after x y := by
  induction s generalizing before x with
  | nil =>
    refine iff_of_true rfl fun p q hs => ?_
    cases p <;> cases hs
  | cons c s ih =>
    rw [sameSigmas_cons, ← ih, lowerBetween, lowerBetween]
    have hhead : lowerAt before c (s ++ after) = lowerAt x c (s ++ y) ↔
        (c = capitalSigma → endsWord before (s ++ after) = endsWord x (s ++ y)) := by
      by_cases hc : c = capitalSigma
      · subst hc
        rw [lowerAt_capitalSigma_eq_iff]
        exact ⟨fun h _ => h, fun h => h rfl⟩
      · exact iff_of_true (lowerAt_of_ne hc _ _ _ _) fun h => absurd h hc
    rw [← hhead]
    constructor
    · exact fun h => List.append_inj h (length_lowerAt _ _ _ _ c)
    · rintro ⟨hat, hrest⟩
      rw [hat, hrest]

/-- Cutting a text out between two others leaves its sigmas as they are. -/
def KeepsSigmas (before s after : Text) : Prop := SameSigmas s before.reverse after [] []

/-- A part of a text becomes its own lower case exactly if cutting it out leaves its sigmas as they
are. -/
theorem lowerBetween_eq_lower_iff :
    lowerBetween before.reverse s after = lower s ↔ KeepsSigmas before s after := by
  rw [lower_eq_lowerBetween, lowerBetween_eq_iff, KeepsSigmas]

private theorem KeepsSigmas.lower_infix (h : KeepsSigmas before s after) :
    lower s <:+: lower (before ++ s ++ after) := by
  rw [lower_append_append, lowerBetween_eq_lower_iff.2 h]
  exact ⟨_, _, rfl⟩

private theorem meetsCased_append (hy : meetsCased y = false) (x : Text) :
    meetsCased (x ++ y) = meetsCased x := by
  induction x with
  | nil => rw [List.nil_append, hy, meetsCased]
  | cons c x ih => rw [List.cons_append, meetsCased, meetsCased, ih]

/-- Cutting out whole words leaves the sigmas as they are. -/
theorem keepsSigmas_of_words (hbefore : meetsCased before.reverse = false)
    (hafter : meetsCased after = false) (s : Text) : KeepsSigmas before s after := by
  intro p q _
  rw [endsWord, endsWord, meetsCased_append hbefore, meetsCased_append hafter, List.append_nil,
    List.append_nil]

end Text

/-! ### Records that are found -/

namespace Query

variable {rs : List Record} {r : Record} {key : FilterKey}

/-- The keys whose fields are searched for a part. -/
def searchedKeys : List FilterKey := [.name, .description, .notes]

/-- The lower case of a text occurs in that of a field of a record. -/
def finds (key : FilterKey) (s : Text) (r : Record) : Bool :=
  Text.occursIn (Text.lower s) (Criterion.lowerText (r.transaction.get key.field))

/-- A search keeps the records whose field has the lower case of what it looks for. -/
theorem search_eq_filter (hkey : key ∈ searchedKeys)
    (hrs : ∀ r ∈ rs, r.transaction.get key.field = .null ∨
      ∃ w, r.transaction.get key.field = .text w) (s : Text) :
    filterNamed rs [(key.toText, .value (.text s))] false =
      .ok (rs.filter (finds key s)) := by
  have hnamed : Criteria.ofNamed [(key.toText, .value (.text s))] =
      .ok [(key, .value (.text s))] := by
    rw [Criteria.ofNamed, FilterKey.ofText?_eq_some_iff.2 rfl]
    rfl
  have hresolve : Criterion.resolve (rs.map (·.transaction)) [(key, .value (.text s))] =
      .ok [.contains key (Text.lower s)] := by
    cases key with
    | name | description | notes => rfl
    | _ => exact absurd hkey (by decide)
  rw [filterNamed_eq_select hnamed hresolve]
  refine select_eq_filter fun r hr => ?_
  rw [Criterion.testAll_singleton, Criterion.test, Criterion.lowerOrEmpty_eq (hrs r hr)]
  rfl

/-- A search for a part of what a record has in the field keeps the record, if cutting the part out
leaves its sigmas as they are. -/
theorem search_keeps {before s after : Text} (hkey : key ∈ searchedKeys)
    (hfield : r.transaction.get key.field = .text (before ++ s ++ after))
    (hsigmas : Text.KeepsSigmas before s after) :
    filterNamed [r] [(key.toText, .value (.text s))] false = .ok [r] := by
  have hoccurs : finds key s r = true := by
    rw [finds, hfield]
    exact Text.occursIn_iff.2 hsigmas.lower_infix
  rw [search_eq_filter hkey (List.forall_mem_singleton.2 (.inr ⟨_, hfield⟩)),
    List.filter_cons_of_pos hoccurs, List.filter_nil]

/-- A record with a description. -/
def describedRecord (description : Text) : Record where
  id := 0
  transaction :=
    { bank := .text [], account := .text [], postDate := .null, description := .text description }

/-- The sigma of the second word of a text ends a word, whether or not the first one is cut off. -/
theorem search_keeps_word :
    let r := describedRecord "ΣΑΣ ΑΣ"
    let before : Text := "ΣΑΣ "
    let s : Text := "ΑΣ"
    FilterKey.description ∈ searchedKeys ∧
    r.transaction.get FilterKey.description.field = .text (before ++ s ++ []) ∧
    Text.KeepsSigmas before s [] ∧
    filterNamed [r] [("description", .value (.text s))] false = .ok [r] := by
  intro r before s
  have hkey : FilterKey.description ∈ searchedKeys := by decide
  have hfield : r.transaction.get FilterKey.description.field = .text (before ++ s ++ []) := rfl
  have hsigmas : Text.KeepsSigmas before s [] :=
    Text.keepsSigmas_of_words (by decide) rfl s
  exact ⟨hkey, hfield, hsigmas, search_keeps hkey hfield hsigmas⟩

/-- A sigma inside a word is at the end of the part before it, and the part is not found. -/
theorem search_loses_sigma :
    ("ΑΣ" : Text) <:+: "ΑΣΑ" ∧
    filterNamed [describedRecord "ΑΣΑ"] [("description", .value (.text "ΑΣ"))] false = .ok [] := by
  have hrs : ∀ r ∈ [describedRecord "ΑΣΑ"], r.transaction.get FilterKey.description.field = .null ∨
      ∃ w, r.transaction.get FilterKey.description.field = .text w :=
    List.forall_mem_singleton.2 (.inr ⟨_, rfl⟩)
  have hmisses : ¬finds .description "ΑΣ" (describedRecord "ΑΣΑ") = true := by decide
  have hkey : FilterKey.description ∈ searchedKeys := by decide
  have hsearch := search_eq_filter hkey hrs "ΑΣ"
  rw [List.filter_cons_of_neg hmisses] at hsearch
  exact ⟨⟨[], "Α", rfl⟩, hsearch⟩

end Query

end LedgerTags

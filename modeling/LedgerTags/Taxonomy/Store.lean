import LedgerTags.Taxonomy.Rule
import LedgerTags.Value.Operations

/-!
# Taxonomies

A document of a taxonomy is a mapping with a list of rules under `data`, and tags for all of them
under `tags`. A store is the list of the rules of several documents, in order; the first rule that
applies to a text wins.
-/

namespace LedgerTags

/-- A document of a taxonomy. -/
structure TaxonomyFile where
  /-- Where it comes from. -/
  source : Text
  /-- The tags of all its rules. -/
  tags : TagSet
  /-- Its rules. -/
  rules : List Rule

namespace TaxonomyFile

section

variable (tools : Tools)

/-- Reads rules from a position on. -/
def parseRules (source : Text) (shared : TagSet) :
    (index : Nat) → List Value → Outcome (List Rule)
  | _, [] => .ok []
  | i, v :: vs => do
    let r ← Rule.parse tools source i shared v
    return r :: (← parseRules source shared (i + 1) vs)

/-- Reads a document. -/
def parse (source : Text) (doc : Value) : Outcome TaxonomyFile := do
  let p : Rule.Place := ⟨source, none⟩
  match doc.mapping? with
  | none => throw (p.error .notMapping)
  | some entries =>
    let data ←
      match (Value.lookup "data" entries).list? with
      | some vs => pure vs
      | none => throw (p.error .dataMissing)
    let tags ← Rule.readTexts tools p "file tags" (Value.lookup "tags" entries)
    let shared := TagSet.ofList tags
    return { source, tags := shared, rules := ← parseRules tools source shared 0 data }

end

/-- Reads a document with the usual tools. -/
def ofValue (source : Text) (doc : Value) : Outcome TaxonomyFile := parse .usual source doc

end TaxonomyFile

/-- The rules of a taxonomy. -/
structure RuleStore where
  /-- All rules, in the order in which they are tried. -/
  rules : List Rule := []
  /-- The files that they were read from. -/
  files : List Text := []

namespace RuleStore

/-- The first rule that applies to a text. -/
def firstMatch (s : RuleStore) (t : Text) : Option Rule := s.rules.find? (·.occursIn t)

/-- The tags of all rules. -/
def allTags (s : RuleStore) : TagSet := s.rules.foldl (fun tags r => tags.union r.tags) ∅

/-- The number of rules. -/
def size (s : RuleStore) : Nat := s.rules.length

/-- Reads documents from a position on; they have no files, so they are named by position. -/
def readDocuments : (position : Nat) → List Value → Outcome (List Rule)
  | _, [] => .ok []
  | i, doc :: docs => do
    let file ← TaxonomyFile.ofValue ("<memory:" ++ (Text.ofNat i ++ ">")) doc
    return file.rules ++ (← readDocuments (i + 1) docs)

/-- The store of a list of documents. -/
def ofDocuments (docs : Value) : Outcome RuleStore := do
  return { rules := ← readDocuments 0 (← docs.members) }

end RuleStore

end LedgerTags

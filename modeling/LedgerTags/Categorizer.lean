import LedgerTags.Ledger
import LedgerTags.Taxonomy.Directory

/-!
# Naming and tagging transactions

A categorizer has the rules of a taxonomy and two limits for amounts. `categorize` finds the first
rule that applies to a description in lower case; a description to which none applies is its own
name. `annotate` does so for the records of a collection, in order: it sets the name, adds the tags
of the rule, and adds a tag for an amount up to the small limit and one for an amount from the large
limit on. A record whose amount cannot be compared ends the run, and what was written until then
stays.
-/

namespace LedgerTags

/-- The rules and limits by which transactions are named and tagged. -/
structure Categorizer where
  /-- The rules. -/
  store : RuleStore
  /-- Up to this magnitude an amount is small. -/
  smallLimit : Decimal
  /-- From this magnitude on an amount is large. -/
  largeLimit : Decimal

namespace Categorizer

/-- The tag of small amounts. -/
def smallTag : Text := "micro"

/-- The tag of large amounts. -/
def largeTag : Text := "macro"

/-- The small limit unless another one is given. -/
def usualSmallLimit : Value := .decimal (.finite false 100 (-2))

/-- The large limit unless another one is given. -/
def usualLargeLimit : Value := .decimal (.finite false 100000 (-2))

/-- The categorizer of a taxonomy with the given limits. -/
def ofStore (store : RuleStore) (small large : Value) : Outcome Categorizer := do
  return { store, smallLimit := ← small.toAmount, largeLimit := ← large.toAmount }

/-- The categorizer of a taxonomy directory, which must not be null. -/
def ofDirectory (fs : FileSystem) (directory small large : Value) : Outcome Categorizer := do
  match directory with
  | .null => throw .noTaxonomySource
  | .text path => ofStore (← RuleStore.load fs path) small large
  | v => throw (.notAPath v.kindName)

/-- The name and the tags for a description. -/
def categorize (c : Categorizer) (description : Value) : Outcome (Value × TagSet) := do
  let text := description.orElse (.text [])
  match text with
  | .text t =>
    match c.store.firstMatch (Text.lower t) with
    | some r => return (.text r.name, r.tags)
    | none => return (.text t, ∅)
  | v => throw (.missingAttribute v.kindName "lower")

/-! ### Annotating records -/

/-- Which of the limits count. -/
structure Limits where
  small : Bool := true
  large : Bool := true
deriving DecidableEq, Repr

/-- What a run has done. -/
structure Tally where
  /-- How many records got tags from a rule. -/
  tagged : Nat := 0
  /-- How many got the tag of small amounts. -/
  small : Nat := 0
  /-- How many got the tag of large amounts. -/
  large : Nat := 0
deriving DecidableEq, Repr

/-- The sum of two tallies. -/
def Tally.add (a b : Tally) : Tally := ⟨a.tagged + b.tagged, a.small + b.small, a.large + b.large⟩

/-- The tags for an amount: each of the two tests comes with the tag that it gives. The tags that
were given before a test failed are there with the error. -/
def limitTags (c : Categorizer) (limits : Limits) (amount : Value) :
    List Text × Outcome Unit :=
  match amount.magnitude with
  | .error e => ([], .error e)
  | .ok size =>
    match if limits.small then Value.test .le size (.decimal c.smallLimit) else .ok false with
    | .error e => ([], .error e)
    | .ok isSmall =>
      let first := if isSmall then [smallTag] else []
      match if limits.large then Value.test .ge size (.decimal c.largeLimit) else .ok false with
      | .error e => (first, .error e)
      | .ok isLarge => (first ++ (if isLarge then [largeTag] else []), .ok ())

/-- Annotates a transaction: the transaction afterwards, and what was done or why it failed. -/
def annotateOne (c : Categorizer) (limits : Limits) (t : Transaction) :
    Transaction × Outcome Tally :=
  match c.categorize t.description with
  | .error e => (t, .error e)
  | .ok (name, tags) =>
    let (more, result) := c.limitTags limits t.amount
    let tally : Tally := {
      tagged := (!tags.isEmpty).toNat
      small := (more.contains smallTag).toNat
      large := (more.contains largeTag).toNat }
    ({ t with name, tags := (t.tags.union tags).insertAll more }, result.map fun _ => tally)

/-- Annotates records in order: the ledger afterwards, and what was done or why it failed. -/
def annotate (c : Categorizer) (limits : Limits) : List Nat → Ledger → Ledger × Outcome Tally
  | [], l => (l, .ok {})
  | id :: ids, l =>
    match l.get? id with
    | none => annotate c limits ids l
    | some t =>
      match c.annotateOne limits t with
      | (t, .error e) => (l.set id t, .error e)
      | (t, .ok a) =>
        match annotate c limits ids (l.set id t) with
        | (l, result) => (l, result.map a.add)

/-- The line that a run writes to the log. -/
def logLine (count : Nat) (a : Tally) : LogLine :=
  ⟨.debug, "categorizer.service",
    "Categorized " ++ Text.ofNat count ++ " transactions (" ++ Text.ofNat a.tagged ++
      " rule-tagged, " ++ Text.ofNat a.small ++ " micro, " ++ Text.ofNat a.large ++ " macro)"⟩

end Categorizer

end LedgerTags

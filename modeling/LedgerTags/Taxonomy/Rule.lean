import LedgerTags.TagSet
import LedgerTags.Taxonomy.Host

/-!
# Rules

A rule gives a name and tags to the descriptions in which its pattern occurs. It is one entry of a
taxonomy document, and its tags include those of the document. Reading a rule checks its name, then
its pattern, then its tags.
-/

namespace LedgerTags

/-- A rule of a taxonomy. -/
structure Rule where
  /-- The name that it gives. -/
  name : Text
  /-- What has to occur in a description. -/
  pattern : Pattern
  /-- The tags that it gives. -/
  tags : TagSet
  /-- The document that it stands in. -/
  source : Text
  /-- Its position in the document, from zero. -/
  index : Int

namespace Rule

/-- Whether the rule applies to a text. -/
def occursIn (r : Rule) (t : Text) : Bool := r.pattern.occursIn t

/-- Where a rule stands. -/
structure Place where
  /-- The document. -/
  source : Text
  /-- The position in the document; none for what concerns the document as a whole. -/
  index : Option Int

/-- An error at a place. -/
def Place.error (p : Place) (problem : ConfigProblem) : Error :=
  .config problem (some p.source) p.index

section

variable (tools : Tools)

/-- Checks that all members of a list are texts. -/
def readTextsFrom (p : Place) (what : Text) : List Value → Outcome (List Text)
  | [] => .ok []
  | .text t :: vs => do return t :: (← readTextsFrom p what vs)
  | v :: _ => do
    let shown ← tools.display v
    throw (p.error (.notAText what shown))

/-- The texts of a list, null being the empty list. -/
def readTexts (p : Place) (what : Text) (v : Value) : Outcome (List Text) :=
  match v with
  | .null => .ok []
  | v =>
    match v.sequence? with
    | some vs => readTextsFrom tools p what vs
    | none => .error (p.error (.notAList what))

/-- Prepares the pattern of a rule. -/
def readPattern (p : Place) (t : Text) : Outcome Pattern :=
  match tools.compile t with
  | .ok pattern => .ok pattern
  | .error (.refused (problem, place)) => .error (p.error (.badPattern t problem place))
  | .error (.raised e) => .error e

/-- Reads one entry of a document with the tags `shared`. -/
def parse (source : Text) (index : Int) (shared : TagSet) (v : Value) : Outcome Rule := do
  let p : Place := ⟨source, some index⟩
  match v.mapping? with
  | none => throw (p.error .ruleNotMapping)
  | some entries =>
    match Value.lookup "name" entries with
    | .text name =>
      if name.trim.isEmpty then throw (p.error .ruleWithoutName)
      match Value.lookup "match" entries with
      | .text pattern =>
        if pattern.isEmpty then throw (p.error (.ruleWithoutMatch name))
        let compiled ← readPattern tools p pattern
        let tags ← readTexts tools p "rule tags" (Value.lookup "tags" entries)
        return { name, pattern := compiled, tags := shared.insertAll tags, source, index }
      | _ => throw (p.error (.ruleWithoutMatch name))
    | _ => throw (p.error .ruleWithoutName)

end

/-- Reads one entry of a document with the usual tools. -/
def ofValue (source : Text) (index : Int) (shared : TagSet) (v : Value) : Outcome Rule :=
  parse .usual source index shared v

end Rule

end LedgerTags

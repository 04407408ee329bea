import LedgerTags.Categorizer
import LedgerTags.Toml.Document

/-!
# Configurations

A configuration has three sections: where the taxonomy is, the limits for amounts, and the log. What
a file leaves out has its usual value. A taxonomy directory that is not absolute is meant relative
to the directory of the file.
-/

namespace LedgerTags.Config

/-- The sections with their usual entries. -/
def usual : List (Text × Toml.Table) := [
  ("taxonomy", [("dir", "config/taxonomy")]),
  ("thresholds", [("micro", "1.00"), ("macro", "1000.00")]),
  ("logging", [("level", "INFO")])]

/-- The entries of a table in place of those of another and after them. -/
def override (base : Toml.Table) : Toml.Table → Toml.Table
  | [] => base
  | (k, v) :: es => override (Toml.put base ((k.text?).getD []) v) es

/-- A section of a document on top of its usual entries. -/
def readSection (document : Toml.Table) (name : Text) (entries : Toml.Table) :
    Outcome Toml.Table :=
  match Value.lookup? name document with
  | none => .ok entries
  | some (.dict es) => .ok (override entries es)
  | some v => .error (.notMapping v.kindName)

/-- The sections of a document on top of the usual ones. -/
def readSections (document : Toml.Table) : Outcome (List (Text × Toml.Table)) :=
  usual.mapM fun (name, entries) => do return (name, ← readSection document name entries)

/-- The absolute form of a taxonomy directory that is named in a file. -/
def resolve (fs : FileSystem) (file directory : Text) : Text :=
  if Path.isAbsolute directory then Path.simplify directory
  else
    match fs.place file with
    | .ok p => Path.join (FileSystem.absolute p.dropLast) directory
    | .error _ => Path.simplify directory

/-- The sections with the taxonomy directory in its absolute form. -/
def resolveSections (fs : FileSystem) (file : Text) :
    List (Text × Toml.Table) → Outcome (List (Text × Toml.Table))
  | [] => .ok []
  | (name, entries) :: rest => do
    let entries ←
      if name ≠ ("taxonomy" : Text) then pure entries
      else
        match Value.lookup "dir" entries with
        | .text directory => pure (Toml.put entries "dir" (.text (resolve fs file directory)))
        | v => throw (.notAPath v.kindName)
    return (name, entries) :: (← resolveSections fs file rest)

/-- The configuration of a file as a mapping of mappings. -/
def load (fs : FileSystem) (path : Text) : Outcome Value := do
  let path := Path.simplify path
  if !fs.contains path then throw (.configMissing path)
  let document ← Toml.read (← fs.readText path)
  let sections ← resolveSections fs path (← readSections document)
  return .dict (sections.map fun (name, entries) => (.text name, .dict entries))

/-! ### Looking things up -/

/-- The entries of something that has to be a mapping. -/
def entries (v : Value) : Outcome Toml.Table :=
  match v.mapping? with
  | some es => .ok es
  | none => .error (.missingAttribute v.kindName "get")

/-- The entry of a mapping under a key, which has to be there. -/
def item (v : Value) (key : Text) : Outcome Value :=
  match v with
  | .dict es =>
    match Value.lookup? key es with
    | some w => .ok w
    | none => .error (.missingKey (.text key))
  | .list _ | .tuple _ => .error (.notAnIndex v.kindName "str")
  | .text _ => .error (.notAnIndex "string" "str")
  | v => .error (.notSubscriptable v.kindName)

/-- The name of the configuration in messages about its limits. -/
def fileName : Text := "config.toml"

/-- A limit of a configuration, the usual one if there is none. -/
def limit (thresholds : Toml.Table) (key : Text) (usual : Value) : Outcome Decimal :=
  match ((Value.lookup? key thresholds).getD usual).toAmount with
  | .ok x => .ok x
  | .error e =>
    if e.isBadValue then .error (.config (.badThreshold e.message) (some fileName) none)
    else .error e

end LedgerTags.Config

namespace LedgerTags

/-- Where the taxonomy of a configuration is, and its limits. -/
structure Config.Source where
  /-- The directory of the taxonomy. -/
  directory : Value
  /-- The small limit. -/
  small : Decimal
  /-- The large limit. -/
  large : Decimal

/-- Looks up what a categorizer is made from: first the limits, then the directory. -/
def Config.source (config : Value) : Outcome Config.Source := do
  let thresholds ← entries ((Value.lookup? "thresholds" (← entries config)).getD (.dict []))
  let small ← limit thresholds "micro" Categorizer.usualSmallLimit
  let large ← limit thresholds "macro" Categorizer.usualLargeLimit
  let directory ← item (← item config "taxonomy") "dir"
  return { directory, small, large }

/-- The categorizer of a configuration. -/
def Categorizer.ofConfig (fs : FileSystem) (config : Value) : Outcome Categorizer := do
  let s ← Config.source config
  ofDirectory fs s.directory (.decimal s.small) (.decimal s.large)

/-- The lines that reading the taxonomy of a configuration writes. -/
def Config.taxonomyLines (fs : FileSystem) (config : Value) : List LogLine :=
  match source config with
  | .ok ⟨.text directory, _, _⟩ => RuleStore.loadLines (.ofTree fs) directory
  | _ => []

/-- The level of the log in a configuration. -/
def Config.level (config : Value) : Value :=
  let logging := Value.lookup "logging" ((config.mapping?).getD [])
  ((logging.mapping?).bind (Value.lookup? "level")).getD "INFO"

end LedgerTags

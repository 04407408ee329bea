import LedgerTags.Logging
import LedgerTags.Taxonomy.Store

/-!
# Taxonomies in directories

A taxonomy is a directory of YAML documents, each a mapping with a list of rules. The files are
taken in the order of their paths. One broken file breaks the taxonomy, with an error that names the
file, and so does one that cannot be opened. Other errors of the host are passed on.
-/

namespace LedgerTags

/-- Reads a document from a file of a host; `source` is how messages name the file. -/
def TaxonomyFile.readFrom (host : Host) (source : Text) : Outcome TaxonomyFile :=
  match host.document source with
  | .ok doc => TaxonomyFile.parse host.toTools source doc
  | .error (.refused ()) => .error (.config .invalidYaml (some source) none)
  | .error (.raised e) =>
    if e.isFileError then .error (.config (.unreadable e.message) (some source) none) else .error e

/-- Reads a document from a file of a tree. -/
def TaxonomyFile.read (fs : FileSystem) (source : Text) : Outcome TaxonomyFile :=
  readFrom (.ofTree fs) source

namespace RuleStore

/-- The endings of the names of taxonomy files, in lower case. -/
def fileEndings : List Text := [".yaml", ".yml"]

/-- Whether a file belongs to a taxonomy by its name. -/
def isTaxonomyName (name : Text) : Bool := fileEndings.contains (Text.lower (Path.ending name))

/-- The paths of the taxonomy files among some names in a directory. Of every name it is asked
whether it is that of a file, also if it is not that of a taxonomy file. -/
def filesAmong (host : Host) (directory : Text) : List Text → Outcome (List Text)
  | [] => .ok []
  | name :: names => do
    let path := Path.join directory name
    let isFile ← host.isFile path
    let paths ← filesAmong host directory names
    return if isFile && isTaxonomyName name then path :: paths else paths

/-- The files of a taxonomy directory in order. -/
def discover (host : Host) (directory : Text) : Outcome (List Text) := do
  let names ← host.names directory
  let paths ← filesAmong host directory names
  return paths.mergeSort Path.le

/-- Reads a taxonomy directory of a host. -/
def loadFrom (host : Host) (directory : Text) : Outcome RuleStore := do
  let directory := Path.simplify directory
  if !(← host.isDirectory directory) then
    throw (.config .directoryMissing (some directory) none)
  let files ← discover host directory
  let documents ← files.mapM (TaxonomyFile.readFrom host)
  return { rules := documents.flatMap (·.rules), files }

/-- Reads a taxonomy directory of a tree. -/
def load (fs : FileSystem) (directory : Text) : Outcome RuleStore :=
  loadFrom (.ofTree fs) directory

/-! ### The log -/

/-- The part that writes these lines. -/
def logSource : Text := "categorizer.rules"

/-- The line about one file. -/
def fileLine (path : Text) (file : TaxonomyFile) : LogLine :=
  ⟨.debug, logSource,
    "Loaded " ++ Text.ofNat file.rules.length ++ " rules from " ++ path⟩

/-- The lines about the files up to the first broken one. -/
def fileLines (host : Host) : List Text → List LogLine
  | [] => []
  | path :: paths =>
    match TaxonomyFile.readFrom host path with
    | .ok file => fileLine path file :: fileLines host paths
    | .error _ => []

/-- The lines that reading a taxonomy directory writes. -/
def loadLines (host : Host) (directory : Text) : List LogLine :=
  let directory := Path.simplify directory
  match host.isDirectory directory, discover host directory with
  | .ok true, .ok files =>
    let warning : List LogLine :=
      if files.isEmpty then
        [⟨.warning, logSource,
          "No taxonomy files in " ++ directory ++ "; every description stays unmatched."⟩]
      else []
    let summary : List LogLine :=
      match loadFrom host directory with
      | .ok store =>
        [⟨.info, logSource,
          "Loaded " ++ Text.ofNat store.size ++ " rules from " ++ Text.ofNat files.length ++
            " taxonomy files in " ++ directory⟩]
      | .error _ => []
    warning ++ fileLines host files ++ summary
  | _, _ => []

end RuleStore

end LedgerTags

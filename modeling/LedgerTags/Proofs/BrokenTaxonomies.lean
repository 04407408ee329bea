import LedgerTags.Proofs.RuleSelection

/-!
# Taxonomies that are not loaded

A taxonomy is loaded if all its files are read. Otherwise loading it ends with an error that names
the directory or the first of its files that is broken, or an error of the host is passed on.
Nothing is assumed of the host, so this holds whatever goes wrong with directories, files,
documents, patterns or values (`RuleStore.load_or_blames`).

Which errors of the host are passed on depends on where they arise. One that arises while the files
are looked for always is (`RuleStore.ListingEscapes`). While a file is read it is passed on unless
it is one of the file system, or says that a document or a pattern is malformed
(`TaxonomyFile.FileEscapes`).
-/

namespace LedgerTags

open Declaration

/-! ### Rules -/

namespace Rule

/-- An error that names a document. -/
def Blames (source : Text) (e : Error) : Prop :=
  ∃ problem index, e = .config problem (some source) index

/-- An error that names a place. -/
def BlamesAt (p : Place) (e : Error) : Prop := ∃ problem, e = p.error problem

private theorem BlamesAt.blames {p : Place} {e : Error} (h : BlamesAt p e) : Blames p.source e := by
  obtain ⟨problem, rfl⟩ := h
  exact ⟨problem, p.index, rfl⟩

section Tools

variable (tools : Tools)

/-- A pattern is refused with an error that does not say where it stands. -/
def PatternEscapes (t : Text) (e : Error) : Prop := tools.compile t = .error (.raised e)

/-- The first member of a list of tags that is no text cannot be shown in the message about it. -/
inductive TagsEscape (v : Value) (e : Error) : Prop
  | hidden {before : List Text} {member : Value} {after : List Value}
    (hlist : v.sequence? = some (before.map .text ++ member :: after))
    (hmember : ∀ t, member ≠ .text t) (hhidden : tools.display member = .error e) : TagsEscape v e

/-- An entry of a document has such a pattern or such tags. -/
def EntryEscapes (v : Value) (e : Error) : Prop :=
  ∃ own, v.mapping? = some own ∧
    ((∃ t, Value.lookup "match" own = .text t ∧ PatternEscapes tools t e) ∨
      TagsEscape tools (Value.lookup "tags" own) e)

variable {tools}

private theorem readPattern_eq_error {p : Place} {t : Text} {e : Error}
    (h : readPattern tools p t = .error e) : BlamesAt p e ∨ PatternEscapes tools t e := by
  unfold readPattern at h
  split at h
  · cases h
  · cases h
    exact .inl ⟨_, rfl⟩
  · next hraised =>
    cases h
    exact .inr hraised

/-- The first member that is no text breaks a list of texts. -/
theorem readTextsFrom_eq_error {p : Place} {what : Text} {vs : List Value} {e : Error}
    (h : readTextsFrom tools p what vs = .error e) :
    ∃ (before : List Text) (member : Value) (after : List Value),
      vs = before.map .text ++ member :: after ∧ (∀ t, member ≠ .text t) ∧
      (BlamesAt p e ∨ tools.display member = .error e) := by
  induction vs with
  | nil => cases h
  | cons v vs ih =>
    cases v with
    | text t =>
      rcases bind_eq_error_iff.1 h with hrest | ⟨ts, -, hrest⟩
      · obtain ⟨before, member, after, rfl, hmember, he⟩ := ih hrest
        exact ⟨t :: before, member, after, rfl, hmember, he⟩
      · cases hrest
    | _ =>
      refine ⟨[], _, vs, rfl, nofun, ?_⟩
      rcases bind_eq_error_iff.1 h with hhidden | ⟨shown, -, hshown⟩
      · exact .inr hhidden
      · cases hshown
        exact .inl ⟨_, rfl⟩

private theorem readTexts_eq_error {p : Place} {what : Text} {v : Value} {e : Error}
    (h : readTexts tools p what v = .error e) : BlamesAt p e ∨ TagsEscape tools v e := by
  unfold readTexts at h
  split at h
  · cases h
  · split at h
    · next vs hvs =>
      obtain ⟨before, member, after, rfl, hmember, he⟩ := readTextsFrom_eq_error h
      exact he.imp_right (.hidden hvs hmember)
    · cases h
      exact .inl ⟨_, rfl⟩

/-- An entry that is not read is blamed in the error, or the error is one that escapes. -/
theorem parse_eq_error {source : Text} {index : Int} {shared : TagSet} {v : Value} {e : Error}
    (h : parse tools source index shared v = .error e) :
    BlamesAt ⟨source, some index⟩ e ∨ EntryEscapes tools v e := by
  unfold parse at h
  dsimp only at h
  split at h
  · cases h
    exact .inl ⟨_, rfl⟩
  · next own hown =>
    split at h
    · next name hname =>
      split at h
      · cases h
        exact .inl ⟨_, rfl⟩
      · split at h
        · next t ht =>
          split at h
          · cases h
            exact .inl ⟨_, rfl⟩
          · rcases bind_eq_error_iff.1 h with hpattern | ⟨pattern, -, h⟩
            · exact (readPattern_eq_error hpattern).imp_right
                fun hescapes => ⟨own, hown, .inl ⟨t, ht, hescapes⟩⟩
            · rcases bind_eq_error_iff.1 h with htags | ⟨tags, -, h⟩
              · exact (readTexts_eq_error htags).imp_right
                  fun hescapes => ⟨own, hown, .inr hescapes⟩
              · cases h
        · cases h
          exact .inl ⟨_, rfl⟩
    · cases h
      exact .inl ⟨_, rfl⟩

end Tools

end Rule

/-! ### Files -/

namespace TaxonomyFile

open Rule

section Tools

variable (tools : Tools)

/-- A document has such tags or such an entry. -/
def DocumentEscapes (doc : Value) (e : Error) : Prop :=
  ∃ fields, doc.mapping? = some fields ∧
    (TagsEscape tools (Value.lookup "tags" fields) e ∨
      ∃ rules v, (Value.lookup "data" fields).list? = some rules ∧ v ∈ rules ∧
        EntryEscapes tools v e)

/-- A document is a mapping with a list of rules and with tags for all of them. -/
def HasParts (doc : Value) (rules : List Value) (shared : List Text) : Prop :=
  ∃ fields, doc.mapping? = some fields ∧ (Value.lookup "data" fields).list? = some rules ∧
    Lists (Value.lookup "tags" fields) shared

/-- The error of a document that lacks a part names it without a position, unless its tags
escape. -/
def LacksPart (source : Text) (doc : Value) (e : Error) : Prop :=
  BlamesAt ⟨source, none⟩ e ∨
    ∃ fields, doc.mapping? = some fields ∧ TagsEscape tools (Value.lookup "tags" fields) e

variable {tools}

/-- The first entry that is not read breaks a list of rules. -/
theorem parseRules_eq_error {source : Text} {shared : TagSet} {i : ℕ} {vs : List Value} {e : Error}
    (h : parseRules tools source shared i vs = .error e) :
    ∃ before v after, vs = before ++ v :: after ∧
      (∀ w ∈ before, ∃ (j : ℕ) (r : Rule), Rule.parse tools source j shared w = .ok r) ∧
      Rule.parse tools source (i + before.length : ℕ) shared v = .error e := by
  induction vs generalizing i with
  | nil => cases h
  | cons v vs ih =>
    rcases bind_eq_error_iff.1 h with hv | ⟨r, hr, h⟩
    · exact ⟨[], v, vs, rfl, fun w hw => absurd hw List.not_mem_nil, hv⟩
    · rcases bind_eq_error_iff.1 h with hvs | ⟨rs, -, h⟩
      · obtain ⟨before, w, after, rfl, hbefore, hw⟩ := ih hvs
        refine ⟨v :: before, w, after, rfl, List.forall_mem_cons.2 ⟨⟨i, r, hr⟩, hbefore⟩, ?_⟩
        rwa [List.length_cons, ← Nat.add_assoc, Nat.add_right_comm]
      · cases h

/-- A document that is not read lacks a part, or one of its rules is not read. -/
theorem parse_eq_error {source : Text} {doc : Value} {e : Error}
    (h : parse tools source doc = .error e) :
    ((¬∃ rules shared, HasParts doc rules shared) ∧ LacksPart tools source doc e) ∨
      ∃ rules shared, HasParts doc rules shared ∧
        parseRules tools source (TagSet.ofList shared) 0 rules = .error e := by
  unfold parse at h
  dsimp only at h
  split at h
  · next hnone =>
    cases h
    refine .inl ⟨?_, .inl ⟨_, rfl⟩⟩
    rintro ⟨rules, shared, fields, hfields, -⟩
    rw [hnone] at hfields
    cases hfields
  · next fields hfields =>
    have hparts {rules : List Value} {shared : List Text} (hdoc : HasParts doc rules shared) :
        (Value.lookup "data" fields).list? = some rules ∧
          Lists (Value.lookup "tags" fields) shared := by
      obtain ⟨fields', hfields', hdata, htags⟩ := hdoc
      obtain rfl := Option.some.inj (hfields.symm.trans hfields')
      exact ⟨hdata, htags⟩
    split at h
    · next rules hrules =>
      rw [pure_eq_ok, ok_bind] at h
      rcases bind_eq_error_iff.1 h with htags | ⟨shared, hshared, h⟩
      · refine .inl ⟨?_, (readTexts_eq_error htags).imp_right fun h => ⟨fields, hfields, h⟩⟩
        rintro ⟨rules', shared, hdoc⟩
        rw [readTexts_of_lists (hparts hdoc).2] at htags
        cases htags
      · rcases bind_eq_error_iff.1 h with hentries | ⟨rs, -, h⟩
        · exact .inr ⟨rules, shared, ⟨fields, hfields, hrules, readTexts_eq_ok hshared⟩, hentries⟩
        · cases h
    · next hdata =>
      cases h
      refine .inl ⟨?_, .inl ⟨_, rfl⟩⟩
      rintro ⟨rules, shared, hdoc⟩
      rw [(hparts hdoc).1] at hdata
      cases hdata

private theorem blames_or_escapes {source : Text} {doc : Value} {e : Error}
    (h : parse tools source doc = .error e) : Blames source e ∨ DocumentEscapes tools doc e := by
  rcases parse_eq_error h with ⟨-, hlacks⟩ | ⟨rules, shared, ⟨fields, hfields, hrules, -⟩, hread⟩
  · exact hlacks.imp BlamesAt.blames fun ⟨fields, hfields, htags⟩ =>
      ⟨fields, hfields, .inl htags⟩
  · obtain ⟨before, v, after, rfl, -, hv⟩ := parseRules_eq_error hread
    exact (Rule.parse_eq_error hv).imp BlamesAt.blames fun hescapes =>
      ⟨fields, hfields, .inr ⟨_, v, hrules, by simp, hescapes⟩⟩

end Tools

/-- Reading a file ends with an error of the host: one that arises while the file is opened and the
document in it is read, and that is neither one of the file system nor about the form of the
document; or one that arises while the document is gone through. -/
inductive FileEscapes (host : Host) (path : Text) (e : Error) : Prop
  | opening (h : host.document path = .error (.raised e)) (hfamily : e.isFileError = false) :
    FileEscapes host path e
  | document {doc : Value} (hdoc : host.document path = .ok doc)
    (h : DocumentEscapes host.toTools doc e) : FileEscapes host path e

/-- A file that is not read is named by the error, unless the error is one of the host. -/
theorem readFrom_eq_error {host : Host} {path : Text} {e : Error}
    (h : readFrom host path = .error e) : Blames path e ∨ FileEscapes host path e := by
  unfold readFrom at h
  split at h
  · next doc hdoc => exact (blames_or_escapes h).imp_right (.document hdoc)
  · cases h
    exact .inl ⟨_, _, rfl⟩
  · next e' hraised =>
    split at h
    · cases h
      exact .inl ⟨_, _, rfl⟩
    · next hfamily =>
      cases h
      exact .inr (.opening hraised (Bool.eq_false_of_not_eq_true hfamily))

end TaxonomyFile

/-! ### Directories -/

namespace RuleStore

variable (host : Host) (directory : Text)

/-- The host finds a taxonomy file at the end of a path directly in a directory. -/
def IsFileOf (path : Text) : Prop :=
  ∃ names name, host.names directory = .ok names ∧ name ∈ names ∧ isTaxonomyName name = true ∧
    path = Path.join directory name ∧ host.isFile path = .ok true

/-- Looking for the files of a directory ends with an error of the host. Whether a name is that of a
file is asked of all names in turn. -/
inductive ListingEscapes (e : Error) : Prop
  | isDirectory (h : host.isDirectory directory = .error e) : ListingEscapes e
  | names (hdir : host.isDirectory directory = .ok true) (h : host.names directory = .error e) :
    ListingEscapes e
  | isFile {before after : List Text} {name : Text} (hdir : host.isDirectory directory = .ok true)
    (hnames : host.names directory = .ok (before ++ name :: after))
    (hbefore : ∀ n ∈ before, ∃ b, host.isFile (Path.join directory n) = .ok b)
    (h : host.isFile (Path.join directory name) = .error e) : ListingEscapes e

/-- There is a directory, and every taxonomy file in it is read. -/
structure AllRead : Prop where
  isDirectory : host.isDirectory directory = .ok true
  read : ∀ path, IsFileOf host directory path → ∃ file, TaxonomyFile.readFrom host path = .ok file

/-- A file of a taxonomy that is not read, while all files before it are. -/
structure FirstBroken (path : Text) (e : Error) : Prop where
  isFileOf : IsFileOf host directory path
  before : ∀ path', IsFileOf host directory path' → Path.le path path' = false →
    ∃ file, TaxonomyFile.readFrom host path' = .ok file
  read : TaxonomyFile.readFrom host path = .error e

variable {host directory}

/-- The files among some names, if it can be told which names are those of files. -/
theorem mem_filesAmong_iff {names paths : List Text}
    (h : filesAmong host directory names = .ok paths) {path : Text} :
    path ∈ paths ↔ ∃ name ∈ names, isTaxonomyName name = true ∧
      path = Path.join directory name ∧ host.isFile path = .ok true := by
  induction names generalizing paths with
  | nil =>
    cases h
    simp
  | cons name names ih =>
    obtain ⟨isFile, hfile, h⟩ := bind_eq_ok_iff.1 h
    obtain ⟨rest, hrest, h⟩ := bind_eq_ok_iff.1 h
    obtain rfl := Except.ok.inj h
    have hhead : (isTaxonomyName name = true ∧ path = Path.join directory name ∧
        host.isFile path = .ok true) ↔
          path = Path.join directory name ∧ (isFile && isTaxonomyName name) = true := by
      constructor
      · rintro ⟨hname, rfl, htrue⟩
        rw [hfile] at htrue
        rw [Except.ok.inj htrue, hname]
        exact ⟨rfl, rfl⟩
      · rintro ⟨rfl, hkept⟩
        obtain ⟨rfl, hname⟩ := Bool.and_eq_true_iff.1 hkept
        exact ⟨hname, rfl, hfile⟩
    rw [List.exists_mem_cons_iff, hhead, ← ih hrest]
    split
    · next hkept => simp [hkept]
    · next hleft => simp [hleft]

/-- The first name of which it cannot be told. -/
theorem filesAmong_eq_error {names : List Text} {e : Error}
    (h : filesAmong host directory names = .error e) :
    ∃ before name after, names = before ++ name :: after ∧
      (∀ n ∈ before, ∃ b, host.isFile (Path.join directory n) = .ok b) ∧
      host.isFile (Path.join directory name) = .error e := by
  induction names with
  | nil => cases h
  | cons name names ih =>
    rcases bind_eq_error_iff.1 h with hfile | ⟨b, hb, h⟩
    · exact ⟨[], name, names, rfl, fun n hn => absurd hn List.not_mem_nil, hfile⟩
    · rcases bind_eq_error_iff.1 h with hrest | ⟨paths, -, h⟩
      · obtain ⟨before, n, after, rfl, hbefore, hn⟩ := ih hrest
        exact ⟨name :: before, n, after, rfl, List.forall_mem_cons.2 ⟨⟨b, hb⟩, hbefore⟩, hn⟩
      · cases h

/-- The files that are discovered are those of the directory, in ascending order. -/
theorem discover_eq_ok {files : List Text} (h : discover host directory = .ok files) :
    (∀ path, path ∈ files ↔ IsFileOf host directory path) ∧
      files.Pairwise (Path.le · · = true) := by
  obtain ⟨names, hnames, h⟩ := bind_eq_ok_iff.1 h
  obtain ⟨paths, hpaths, h⟩ := bind_eq_ok_iff.1 h
  obtain rfl := Except.ok.inj h
  refine ⟨fun path => ?_, Path.pairwise_mergeSort paths⟩
  rw [List.mem_mergeSort, mem_filesAmong_iff hpaths]
  constructor
  · rintro ⟨name, hname, hfile⟩
    exact ⟨names, name, hnames, hname, hfile⟩
  · rintro ⟨names', name, hnames', hname, hfile⟩
    obtain rfl : names = names' := Except.ok.inj (hnames.symm.trans hnames')
    exact ⟨name, hname, hfile⟩

private theorem discover_eq_error (hdir : host.isDirectory directory = .ok true) {e : Error}
    (h : discover host directory = .error e) : ListingEscapes host directory e := by
  rcases bind_eq_error_iff.1 h with hnames | ⟨names, hnames, h⟩
  · exact .names hdir hnames
  · rcases bind_eq_error_iff.1 h with hfiles | ⟨paths, -, h⟩
    · obtain ⟨before, name, after, rfl, hbefore, hname⟩ := filesAmong_eq_error hfiles
      exact .isFile hdir hnames hbefore hname
    · cases h

/-- Of files in ascending order the first one that fails is the first broken one. -/
theorem firstBroken_of_mapM {files : List Text} (hfiles : discover host directory = .ok files)
    {e : Error} (h : files.mapM (TaxonomyFile.readFrom host) = .error e) :
    ∃ path, FirstBroken host directory path e := by
  obtain ⟨hmem, hsorted⟩ := discover_eq_ok hfiles
  obtain ⟨before, path, after, rfl, hbefore, hread⟩ := mapM_eq_error h
  refine ⟨path, (hmem path).1 (by simp), fun path' hfile hle => ?_, hread⟩
  rw [List.pairwise_append, List.pairwise_cons] at hsorted
  rcases List.mem_append.1 ((hmem path').2 hfile) with hin | hin
  · exact hbefore path' hin
  -- What is not among the files before does not stand before the broken one.
  rcases List.mem_cons.1 hin with rfl | hin
  · rw [Path.le_refl] at hle
    cases hle
  · rw [hsorted.2.1.1 path' hin] at hle
    cases hle

variable (host directory)

/-- Whatever the host does, a taxonomy is loaded and then all its files are read, or the error names
the directory that is missing or the first broken file, or it is an error of the host: one that
arises while the files are looked for, or one that the first broken file gives. -/
theorem load_or_blames :
    (∃ store, loadFrom host directory = .ok store ∧ AllRead host (Path.simplify directory)) ∨
    (host.isDirectory (Path.simplify directory) = .ok false ∧
      loadFrom host directory =
        .error (.config .directoryMissing (some (Path.simplify directory)) none)) ∨
    (∃ path e, FirstBroken host (Path.simplify directory) path e ∧
      loadFrom host directory = .error e ∧
      (Rule.Blames path e ∨ TaxonomyFile.FileEscapes host path e)) ∨
    ∃ e, ListingEscapes host (Path.simplify directory) e ∧
      loadFrom host directory = .error e := by
  rw [loadFrom]
  dsimp only
  cases hdir : host.isDirectory (Path.simplify directory) with
  | error e => exact .inr (.inr (.inr ⟨e, .isDirectory hdir, rfl⟩))
  | ok found =>
    cases found with
    | false => exact .inr (.inl ⟨rfl, rfl⟩)
    | true =>
      cases hfiles : discover host (Path.simplify directory) with
      | error e => exact .inr (.inr (.inr ⟨e, discover_eq_error hdir hfiles, rfl⟩))
      | ok files =>
        simp only [ok_bind, Bool.not_true, Bool.false_eq_true, if_false, pure_eq_ok]
        cases hread : files.mapM (TaxonomyFile.readFrom host) with
        | ok documents =>
          exact .inl ⟨_, rfl, hdir, fun path hpath =>
            exists_ok_of_mapM hread (((discover_eq_ok hfiles).1 path).2 hpath)⟩
        | error e =>
          obtain ⟨path, hbroken⟩ := firstBroken_of_mapM hfiles hread
          exact .inr (.inr (.inl ⟨path, e, hbroken, rfl,
            TaxonomyFile.readFrom_eq_error hbroken.read⟩))

/-- The octets of a document, but for the one `FF` in a name, which is in no text. -/
def unreadableOctets : List UInt8 :=
  Text.Utf8.encode "data: [\x7bname: " ++ 0xFF :: Text.Utf8.encode ", match: a\x7d]"

/-- A directory with one file. -/
def unreadableTree : FileSystem where
  entries := [(["t"], .directory), (["t", "a.yaml"], .file unreadableOctets)]

/-- The error says nothing about the taxonomy. -/
theorem load_unreadableTree :
    load unreadableTree "/t" = .error .undecodable ∧ Error.undecodable.kind ≠ .config := by
  have hsimplify : Path.simplify "/t" = "/t" := by decide
  have hdirectory : unreadableTree.isDirectory "/t" = true := by decide
  have hnames : (((unreadableTree.names "/t").filter isTaxonomyName).map
      (Path.join "/t")).filter unreadableTree.isFile = (["/t/a.yaml"] : List Text) := by
    decide
  have hfiles : taxonomyPaths unreadableTree "/t" = (["/t/a.yaml"] : List Text) := by
    rw [taxonomyPaths, hnames, List.mergeSort_singleton]
  have hoctets : unreadableTree.read "/t/a.yaml" = .ok unreadableOctets := by rfl
  have hdecode : Text.Utf8.decode? unreadableOctets = none := by decide
  have htext : unreadableTree.readText "/t/a.yaml" = .error .undecodable := by
    rw [FileSystem.readText, hoctets, ok_bind, hdecode]
    rfl
  have hread : TaxonomyFile.read unreadableTree "/t/a.yaml" = .error .undecodable := by
    rw [TaxonomyFile.read, TaxonomyFile.readFrom, Host.ofTree]
    dsimp only
    rw [htext]
    rfl
  refine ⟨?_, by decide⟩
  rw [load_eq_of_isDirectory (hsimplify.symm ▸ hdirectory), hsimplify, hfiles]
  dsimp only
  rw [List.mapM_cons, hread]
  rfl

end RuleStore

end LedgerTags

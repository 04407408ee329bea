import LedgerTags.Categorizer
import LedgerTags.Proofs.Octets
import LedgerTags.Proofs.Paths
import LedgerTags.Proofs.TagSets
import LedgerTags.Proofs.TreeHost
import Mathlib

/-!
# Which rule names a description

A `Declaration` is a rule as a taxonomy directory holds it: the path of its file, its position in
the list of that file, and what the document says there. `Declared` reads declarations off the tree
of files alone, without an order in which files are taken. The rules of the store that is loaded
from the directory are the declared ones (`exists_declared`, `exists_mem_rules`) and stand in the
order of their positions (`pairwise_rules`), so the rule that names a description is the declared
one with the least position among those whose pattern occurs in it (`categorize_eq_least`).
-/

namespace LedgerTags

/-- A rule as a taxonomy declares it. -/
structure Declaration where
  /-- The path of its file. -/
  path : Text
  /-- Its position in the list of rules of the file, from zero. -/
  index : Nat
  /-- The name that it gives. -/
  name : Text
  /-- What has to occur in a description. -/
  pattern : Pattern
  /-- The tags of the file. -/
  sharedTags : List Text
  /-- The tags of the rule itself. -/
  ownTags : List Text

namespace Declaration

/-- The tags that the rule gives: those of its file and its own. -/
def tags (e : Declaration) : TagSet := (TagSet.ofList e.sharedTags).union (TagSet.ofList e.ownTags)

/-- One declaration stands before another: in an earlier file, or earlier in the same file. -/
def Before (e f : Declaration) : Prop :=
  Text.lt e.path f.path = true ∨ e.path = f.path ∧ e.index < f.index

/-- A value says which texts there are: by a list of them, or by being null for none. -/
def Lists (v : Value) (ts : List Text) : Prop :=
  v = .null ∧ ts = [] ∨ v.sequence? = some (ts.map .text)

/-- A document holds the rule of a declaration at its position. -/
def InDocument (e : Declaration) (doc : Value) : Prop :=
  ∃ fields rules entry own source,
    doc.mapping? = some fields ∧
    Lists (Value.lookup "tags" fields) e.sharedTags ∧
    (Value.lookup "data" fields).list? = some rules ∧
    rules[e.index]? = some entry ∧
    entry.mapping? = some own ∧
    Value.lookup "name" own = .text e.name ∧
    Value.lookup "match" own = .text source ∧
    Pattern.compile source = .ok e.pattern ∧
    Lists (Value.lookup "tags" own) e.ownTags

/-- A regular file directly in a directory that belongs to a taxonomy by the ending of its name. -/
def IsTaxonomyFile (fs : FileSystem) (directory path : Text) (octets : List UInt8) : Prop :=
  ∃ p name,
    fs.place (Path.simplify directory) = .ok p ∧
    fs.find? (p ++ [name]) = some (.file octets) ∧
    RuleStore.isTaxonomyName name = true ∧
    path = Path.join (Path.simplify directory) name

/-- A directory declares a rule. -/
def Declared (fs : FileSystem) (directory : Text) (e : Declaration) : Prop :=
  ∃ octets text doc,
    IsTaxonomyFile fs directory e.path octets ∧
    Text.Utf8.decode? octets = some text ∧
    Yaml.read text = .ok doc ∧
    e.InDocument doc

/-- A rule that is loaded is the one of a declaration. -/
structure Gives (e : Declaration) (r : Rule) : Prop where
  source : r.source = e.path
  index : r.index = e.index
  name : r.name = e.name
  pattern : r.pattern = e.pattern
  tags : r.tags = e.tags

/-! ### Documents -/

/-- A value lists at most one list of texts. -/
theorem Lists.unique {v : Value} {ts us : List Text} (ht : Lists v ts) (hu : Lists v us) :
    ts = us := by
  have hinj : Function.Injective Value.text := fun _ _ h => Value.text.inj h
  rcases ht with ⟨rfl, rfl⟩ | ht <;> rcases hu with ⟨hv, rfl⟩ | hu
  · rfl
  · cases hu
  · rw [hv] at ht
    cases ht
  · exact List.map_injective_iff.2 hinj (Option.some.inj (ht.symm.trans hu))

section Tools

variable {tools : Tools}

private theorem readTextsFrom_eq_ok {p : Rule.Place} {what : Text} {vs : List Value}
    {ts : List Text} (h : Rule.readTextsFrom tools p what vs = .ok ts) : vs = ts.map .text := by
  induction vs generalizing ts with
  | nil => cases h; rfl
  | cons v vs ih =>
    cases v with
    | text t =>
      obtain ⟨us, hus, h⟩ := bind_eq_ok_iff.1 h
      cases h
      rw [ih hus]
      rfl
    | _ =>
      obtain ⟨shown, -, h⟩ := bind_eq_ok_iff.1 h
      cases h

/-- Tags that are read are those that the value lists. -/
theorem readTexts_eq_ok {p : Rule.Place} {what : Text} {v : Value} {ts : List Text}
    (h : Rule.readTexts tools p what v = .ok ts) : Lists v ts := by
  unfold Rule.readTexts at h
  split at h
  · cases h
    exact .inl ⟨rfl, rfl⟩
  · split at h
    · next vs hvs => exact .inr (by rw [hvs, readTextsFrom_eq_ok h])
    · cases h

/-- Tags that a value lists are read. -/
theorem readTexts_of_lists {v : Value} {ts : List Text} (h : Lists v ts) (p : Rule.Place)
    (what : Text) : Rule.readTexts tools p what v = .ok ts := by
  rcases h with ⟨rfl, rfl⟩ | hlist
  · rfl
  · have htexts : Rule.readTextsFrom tools p what (ts.map .text) = .ok ts := by
      clear hlist
      induction ts with
      | nil => rfl
      | cons t ts ih =>
        rw [List.map_cons, Rule.readTextsFrom, ih]
        rfl
    unfold Rule.readTexts
    split
    · cases hlist
    · rw [hlist]
      exact htexts

private theorem compile_of_readPattern {p : Rule.Place} {t : Text} {pattern : Pattern}
    (h : Rule.readPattern tools p t = .ok pattern) : tools.compile t = .ok pattern := by
  unfold Rule.readPattern at h
  split at h
  · next hp => rw [hp, Except.ok.inj h]
  all_goals cases h

end Tools

/-- What a rule that is read has taken from its entry. -/
theorem ofValue_eq_ok {source : Text} {index : Int} {shared : TagSet} {v : Value} {r : Rule}
    (h : Rule.ofValue source index shared v = .ok r) :
    ∃ own match_ ownTags,
      v.mapping? = some own ∧
      Value.lookup "name" own = .text r.name ∧
      Value.lookup "match" own = .text match_ ∧
      Pattern.compile match_ = .ok r.pattern ∧
      Lists (Value.lookup "tags" own) ownTags ∧
      r.tags = shared.insertAll ownTags ∧ r.source = source ∧ r.index = index ∧
      r.name.trim.isEmpty = false ∧ match_.isEmpty = false := by
  unfold Rule.ofValue Rule.parse at h
  dsimp only at h
  split at h
  · cases h
  · next own hown =>
    split at h
    · next name hname =>
      split at h
      · cases h
      · next hblank =>
        split at h
        · next match_ hmatch =>
          split at h
          · cases h
          · next hempty =>
            obtain ⟨pattern, hpattern, h⟩ := bind_eq_ok_iff.1 h
            obtain ⟨ownTags, htags, h⟩ := bind_eq_ok_iff.1 h
            cases h
            exact ⟨own, match_, ownTags, hown, hname, hmatch,
              Tools.compile_usual_eq_ok_iff.1 (compile_of_readPattern hpattern),
              readTexts_eq_ok htags, rfl, rfl, rfl, Bool.eq_false_of_not_eq_true hblank,
              Bool.eq_false_of_not_eq_true hempty⟩
        · cases h
    · cases h

/-- Rules are read one by one, each with its position. -/
theorem parseRules_eq_ok {source : Text} {shared : TagSet} {i : Nat} {vs : List Value}
    {rs : List Rule} (h : TaxonomyFile.parseRules .usual source shared i vs = .ok rs) :
    rs.length = vs.length ∧ ∀ k (hv : k < vs.length) (hr : k < rs.length),
      Rule.ofValue source (i + k : Nat) shared vs[k] = .ok rs[k] := by
  induction vs generalizing i rs with
  | nil => cases h; exact ⟨rfl, fun k hv => absurd hv (Nat.not_lt_zero k)⟩
  | cons v vs ih =>
    obtain ⟨r, hr, h⟩ := bind_eq_ok_iff.1 h
    obtain ⟨rest, hrest, h⟩ := bind_eq_ok_iff.1 h
    cases h
    obtain ⟨hlen, hget⟩ := ih hrest
    refine ⟨congrArg Nat.succ hlen, fun k hv hk => ?_⟩
    cases k with
    | zero => exact hr
    | succ k =>
      have hnext := hget k (Nat.lt_of_succ_lt_succ hv) (Nat.lt_of_succ_lt_succ hk)
      rwa [Nat.add_right_comm i 1 k] at hnext

/-- What a document that is read says as a whole. -/
theorem taxonomyFile_eq_ok {source : Text} {doc : Value} {file : TaxonomyFile}
    (h : TaxonomyFile.ofValue source doc = .ok file) :
    ∃ fields rules shared,
      doc.mapping? = some fields ∧
      (Value.lookup "data" fields).list? = some rules ∧
      Lists (Value.lookup "tags" fields) shared ∧
      file.source = source ∧
      file.rules.length = rules.length ∧
      ∀ k (hv : k < rules.length) (hr : k < file.rules.length),
        Rule.ofValue source (k : Nat) (TagSet.ofList shared) rules[k] = .ok file.rules[k] := by
  unfold TaxonomyFile.ofValue TaxonomyFile.parse at h
  dsimp only at h
  split at h
  · cases h
  · next fields hfields =>
    split at h
    · next rules hrules =>
      rw [pure_eq_ok, ok_bind] at h
      obtain ⟨shared, hshared, h⟩ := bind_eq_ok_iff.1 h
      obtain ⟨rs, hrs, h⟩ := bind_eq_ok_iff.1 h
      cases h
      obtain ⟨hlen, hget⟩ := parseRules_eq_ok hrs
      simp only [Nat.zero_add] at hget
      exact ⟨fields, rules, shared, hfields, hrules, readTexts_eq_ok hshared, rfl, hlen, hget⟩
    · cases h

/-- Adding tags one by one gives the union. -/
theorem ofList_insertAll (shared own : List Text) :
    (TagSet.ofList shared).insertAll own = (TagSet.ofList shared).union (TagSet.ofList own) := by
  refine TagSet.ext fun x => ?_
  simp [or_comm]

/-- The rules of a document that is read are the ones that it holds. -/
theorem exists_gives_iff {source : Text} {doc : Value} {file : TaxonomyFile}
    (h : TaxonomyFile.ofValue source doc = .ok file) :
    (∀ r ∈ file.rules, ∃ e : Declaration, e.path = source ∧ e.InDocument doc ∧ e.Gives r) ∧
    ∀ e : Declaration, e.path = source → e.InDocument doc → ∃ r ∈ file.rules, e.Gives r := by
  obtain ⟨fields, rules, shared, hfields, hrules, hshared, -, hlen, hget⟩ := taxonomyFile_eq_ok h
  constructor
  · intro r hr
    obtain ⟨k, hk, rfl⟩ := List.getElem_of_mem hr
    obtain ⟨own, match_, ownTags, hown, hname, hmatch, hpattern, htags, hall, hsource, hindex, -⟩ :=
      ofValue_eq_ok (hget k (hlen ▸ hk) hk)
    refine ⟨⟨source, k, _, _, shared, ownTags⟩, rfl, ?_, ⟨hsource, hindex, rfl, rfl, ?_⟩⟩
    · exact ⟨fields, rules, _, own, match_, hfields, hshared, hrules,
        List.getElem?_eq_getElem (hlen ▸ hk), hown, hname, hmatch, hpattern, htags⟩
    · rw [hall, tags, ofList_insertAll]
  · rintro ⟨path, k, name, pattern, sharedTags, ownTags⟩ rfl
      ⟨fields', rules', entry, own, source, hfields', hshared', hrules', hentry, hown, hname,
        hmatch, hpattern, htags⟩
    obtain rfl : fields = fields' := Option.some.inj (hfields.symm.trans hfields')
    obtain rfl : rules = rules' := Option.some.inj (hrules.symm.trans hrules')
    obtain ⟨hk, rfl⟩ := List.getElem?_eq_some_iff.1 hentry
    have hk' : k < file.rules.length := hlen ▸ hk
    obtain ⟨own', match_, ownTags', hown', hname', hmatch', hpattern', htags', hall, hsource,
      hindex, -⟩ := ofValue_eq_ok (hget k hk hk')
    obtain rfl : own = own' := Option.some.inj (hown.symm.trans hown')
    obtain rfl : source = match_ := Value.text.inj (hmatch.symm.trans hmatch')
    refine ⟨file.rules[k], List.getElem_mem hk', ⟨hsource, hindex, ?_, ?_, ?_⟩⟩
    · exact Value.text.inj (hname'.symm.trans hname)
    · exact Except.ok.inj (hpattern'.symm.trans hpattern)
    · rw [hall, hshared.unique hshared', htags'.unique htags, tags, ofList_insertAll]

/-- The rules of a document come in the order of their indices, and from that document. -/
theorem pairwise_rules_of_ofValue {source : Text} {doc : Value} {file : TaxonomyFile}
    (h : TaxonomyFile.ofValue source doc = .ok file) :
    (∀ r ∈ file.rules, r.source = source) ∧ file.rules.Pairwise fun r s => r.index < s.index := by
  obtain ⟨_, rules, _, _, _, _, _, hlen, hget⟩ := taxonomyFile_eq_ok h
  have hplace (k : Nat) (hk : k < file.rules.length) :
      file.rules[k].source = source ∧ file.rules[k].index = k := by
    obtain ⟨_, _, _, _, _, _, _, _, _, hsource, hindex, -⟩ := ofValue_eq_ok (hget k (hlen ▸ hk) hk)
    exact ⟨hsource, hindex⟩
  constructor
  · intro r hr
    obtain ⟨k, hk, rfl⟩ := List.getElem_of_mem hr
    exact (hplace k hk).1
  · refine List.pairwise_iff_getElem.2 fun j k hj hk hjk => ?_
    rw [(hplace j hj).2, (hplace k hk).2]
    exact Int.ofNat_lt.2 hjk

/-! ### Files -/

section Files

variable {fs : FileSystem} {directory : Text}

/-- The files of a taxonomy are the files of the directory whose names have one of the endings. -/
theorem isTaxonomyFile_iff {p : Location} (hp : fs.place (Path.simplify directory) = .ok p)
    {path : Text} {octets : List UInt8} :
    IsTaxonomyFile fs directory path octets ↔
      ∃ name, fs.find? (p ++ [name]) = some (.file octets) ∧
        RuleStore.isTaxonomyName name = true ∧ path = Path.join (Path.simplify directory) name := by
  constructor
  · rintro ⟨q, name, hq, h⟩
    obtain rfl : p = q := Except.ok.inj (hp.symm.trans hq)
    exact ⟨name, h⟩
  · rintro ⟨name, h⟩
    exact ⟨p, name, hp, h⟩

/-- The files that are found are the taxonomy files of the directory. -/
theorem mem_taxonomyPaths_iff (h : fs.isDirectory (Path.simplify directory) = true) {path : Text} :
    path ∈ RuleStore.taxonomyPaths fs (Path.simplify directory) ↔
      ∃ octets, IsTaxonomyFile fs directory path octets := by
  obtain ⟨p, hp, hdir⟩ := FileSystem.place_of_isDirectory h
  simp only [isTaxonomyFile_iff hp, RuleStore.taxonomyPaths, List.mem_mergeSort, List.mem_filter,
    List.mem_map]
  constructor
  · rintro ⟨⟨name, ⟨hname, hending⟩, rfl⟩, hfile⟩
    obtain ⟨e, he⟩ := (FileSystem.mem_names_iff hp).1 hname
    obtain ⟨octets, hoctets⟩ :=
      (FileSystem.isFile_join_iff hp hdir (FileSystem.isName_of_find? he)).1 hfile
    exact ⟨octets, name, hoctets, hending, rfl⟩
  · rintro ⟨octets, name, hoctets, hending, rfl⟩
    exact ⟨⟨name, ⟨(FileSystem.mem_names_iff hp).2 ⟨_, hoctets⟩, hending⟩, rfl⟩,
      (FileSystem.isFile_join_iff hp hdir (FileSystem.isName_of_find? hoctets)).2 ⟨octets, hoctets⟩⟩

private theorem join_injective {m n : Text} (hm : Path.IsName m) (hn : Path.IsName n)
    (h : Path.join (Path.simplify directory) m = Path.join (Path.simplify directory) n) :
    m = n := by
  obtain ⟨front, hfront⟩ := Path.exists_join_eq_append directory
  rwa [hfront m hm, hfront n hn, List.append_cancel_left_eq] at h

/-- The files that are found stand in strictly ascending order. -/
theorem pairwise_taxonomyPaths (h : fs.isDirectory (Path.simplify directory) = true) :
    (RuleStore.taxonomyPaths fs (Path.simplify directory)).Pairwise (Text.lt · · = true) := by
  obtain ⟨p, hp, hdir⟩ := FileSystem.place_of_isDirectory h
  have hle : (RuleStore.taxonomyPaths fs (Path.simplify directory)).Pairwise (Path.le · · = true) :=
    Path.pairwise_mergeSort _
  -- Different names are joined to different paths, so nothing is found twice.
  have hnodup : (RuleStore.taxonomyPaths fs (Path.simplify directory)).Nodup := by
    refine (List.mergeSort_perm _ _).nodup_iff.2 (List.Nodup.filter _ (List.pairwise_map.2 ?_))
    refine ((fs.nodup_names _).filter _).imp_of_mem fun {a b} ha hb hab hjoin => hab ?_
    obtain ⟨_, ha⟩ := (FileSystem.mem_names_iff hp).1 (List.mem_of_mem_filter ha)
    obtain ⟨_, hb⟩ := (FileSystem.mem_names_iff hp).1 (List.mem_of_mem_filter hb)
    exact join_injective (FileSystem.isName_of_find? ha) (FileSystem.isName_of_find? hb) hjoin
  -- On paths below one directory the order by parts is the order of the texts.
  refine (hle.and hnodup).imp_of_mem fun {a b} ha hb hab => ?_
  obtain ⟨_, ha⟩ := (mem_taxonomyPaths_iff h).1 ha
  obtain ⟨_, hb⟩ := (mem_taxonomyPaths_iff h).1 hb
  obtain ⟨m, hm, -, rfl⟩ := (isTaxonomyFile_iff hp).1 ha
  obtain ⟨n, hn, -, rfl⟩ := (isTaxonomyFile_iff hp).1 hb
  rw [Path.le_join_iff directory (FileSystem.isName_of_find? hm) (FileSystem.isName_of_find? hn),
    Text.le_iff] at hab
  exact hab.1.resolve_right hab.2

/-- What a file that is read has gone through. -/
theorem taxonomyFile_read_eq_ok {source : Text} {file : TaxonomyFile}
    (h : TaxonomyFile.read fs source = .ok file) :
    ∃ octets text doc, fs.read source = .ok octets ∧ Text.Utf8.decode? octets = some text ∧
      Yaml.read text = .ok doc ∧ TaxonomyFile.ofValue source doc = .ok file := by
  obtain ⟨text, doc, htext, hdoc, hfile⟩ := TaxonomyFile.read_eq_ok_iff.1 h
  obtain ⟨octets, hoctets, hdecode⟩ := bind_eq_ok_iff.1 htext
  split at hdecode
  · next hsome =>
    cases hdecode
    exact ⟨octets, text, doc, hoctets, hsome, hdoc, hfile⟩
  · cases hdecode

private theorem source_of_read {source : Text} {file : TaxonomyFile}
    (h : TaxonomyFile.read fs source = .ok file) : file.source = source := by
  obtain ⟨_, _, _, _, _, _, h⟩ := taxonomyFile_read_eq_ok h
  obtain ⟨_, _, _, _, _, _, hsource, _⟩ := taxonomyFile_eq_ok h
  exact hsource

private theorem forall₂_read {paths : List Text} {files : List TaxonomyFile}
    (h : List.Forall₂ (fun path file => TaxonomyFile.read fs path = .ok file) paths files) :
    files.map (·.source) = paths ∧ ∀ file ∈ files, TaxonomyFile.read fs file.source = .ok file := by
  induction h with
  | nil => exact ⟨rfl, fun _ h => absurd h List.not_mem_nil⟩
  | cons hread _ ih =>
    have hsource := source_of_read hread
    refine ⟨by rw [List.map_cons, hsource, ih.1], List.forall_mem_cons.2 ⟨?_, ih.2⟩⟩
    rw [hsource]
    exact hread

/-- The rules of a taxonomy that is loaded, file by file. -/
theorem load_eq_ok {store : RuleStore} (h : RuleStore.load fs directory = .ok store) :
    fs.isDirectory (Path.simplify directory) = true ∧
    ∃ files : List TaxonomyFile,
      files.map (·.source) = RuleStore.taxonomyPaths fs (Path.simplify directory) ∧
      (∀ file ∈ files, TaxonomyFile.read fs file.source = .ok file) ∧
      store.rules = files.flatMap (·.rules) := by
  cases hdir : fs.isDirectory (Path.simplify directory) with
  | false =>
    rw [RuleStore.load_eq_of_not_isDirectory hdir] at h
    cases h
  | true =>
    rw [RuleStore.load_eq_of_isDirectory hdir] at h
    obtain ⟨files, hfiles, h⟩ := bind_eq_ok_iff.1 h
    cases h
    obtain ⟨hsources, hread⟩ := forall₂_read (mapM_eq_ok_iff.1 hfiles)
    exact ⟨rfl, files, hsources, hread, rfl⟩

/-! ### The rules of a directory -/

variable {store : RuleStore}

private theorem read_of_isTaxonomyFile (hdir : fs.isDirectory (Path.simplify directory) = true)
    {path : Text} {octets : List UInt8} (h : IsTaxonomyFile fs directory path octets) :
    fs.read path = .ok octets := by
  obtain ⟨p, hp, hfind⟩ := FileSystem.place_of_isDirectory hdir
  obtain ⟨name, hname, -, rfl⟩ := (isTaxonomyFile_iff hp).1 h
  exact FileSystem.read_join hp hfind (FileSystem.isName_of_find? hname) hname

/-- Every rule that is loaded is declared. -/
theorem exists_declared (h : RuleStore.load fs directory = .ok store) {r : Rule}
    (hr : r ∈ store.rules) : ∃ e, Declared fs directory e ∧ e.Gives r := by
  obtain ⟨hdir, files, hsources, hread, hrules⟩ := load_eq_ok h
  rw [hrules] at hr
  obtain ⟨file, hfile, hr⟩ := List.mem_flatMap.1 hr
  obtain ⟨octets, text, doc, hoctets, htext, hdoc, hvalue⟩ :=
    taxonomyFile_read_eq_ok (hread _ hfile)
  obtain ⟨e, hpath, hin, hgives⟩ := (exists_gives_iff hvalue).1 r hr
  have hfound : file.source ∈ RuleStore.taxonomyPaths fs (Path.simplify directory) :=
    hsources ▸ List.mem_map_of_mem hfile
  obtain ⟨octets', hoctets'⟩ := (mem_taxonomyPaths_iff hdir).1 hfound
  obtain rfl : octets = octets' :=
    Except.ok.inj (hoctets.symm.trans (read_of_isTaxonomyFile hdir hoctets'))
  exact ⟨e, ⟨octets, text, doc, hpath ▸ hoctets', htext, hdoc, hin⟩, hgives⟩

/-- Every declared rule is loaded. -/
theorem exists_mem_rules (h : RuleStore.load fs directory = .ok store) {e : Declaration}
    (he : Declared fs directory e) : ∃ r ∈ store.rules, e.Gives r := by
  obtain ⟨hdir, files, hsources, hread, hrules⟩ := load_eq_ok h
  obtain ⟨octets, text, doc, hfile, htext, hdoc, hin⟩ := he
  have hfound := (mem_taxonomyPaths_iff hdir).2 ⟨octets, hfile⟩
  rw [← hsources] at hfound
  obtain ⟨file, hmem, hpath⟩ := List.mem_map.1 hfound
  obtain ⟨octets', text', doc', hoctets', htext', hdoc', hvalue⟩ :=
    taxonomyFile_read_eq_ok (hread _ hmem)
  rw [hpath, read_of_isTaxonomyFile hdir hfile] at hoctets'
  cases hoctets'
  obtain rfl : text = text' := Option.some.inj (htext.symm.trans htext')
  obtain rfl : doc = doc' := Except.ok.inj (hdoc.symm.trans hdoc')
  obtain ⟨r, hr, hgives⟩ := (exists_gives_iff hvalue).2 e hpath.symm hin
  exact ⟨r, hrules ▸ List.mem_flatMap_of_mem hmem hr, hgives⟩

/-- The rules that are loaded stand in the order of their files and of their positions there. -/
theorem pairwise_rules (h : RuleStore.load fs directory = .ok store) :
    store.rules.Pairwise fun r s =>
      Text.lt r.source s.source = true ∨ r.source = s.source ∧ r.index < s.index := by
  obtain ⟨hdir, files, hsources, hread, hrules⟩ := load_eq_ok h
  have hplace (file : TaxonomyFile) (hfile : file ∈ files) :
      (∀ r ∈ file.rules, r.source = file.source) ∧
        file.rules.Pairwise fun r s => r.index < s.index := by
    obtain ⟨_, _, _, _, _, _, hvalue⟩ := taxonomyFile_read_eq_ok (hread _ hfile)
    exact pairwise_rules_of_ofValue hvalue
  have hfiles := pairwise_taxonomyPaths hdir
  rw [← hsources, List.pairwise_map] at hfiles
  rw [hrules, List.pairwise_flatMap]
  constructor
  · intro file hfile
    obtain ⟨hsource, hindex⟩ := hplace file hfile
    refine hindex.imp_of_mem fun hr hs hlt => .inr ⟨?_, hlt⟩
    rw [hsource _ hr, hsource _ hs]
  · refine hfiles.imp_of_mem fun hfile hother hlt r hr s hs => .inl ?_
    rwa [(hplace _ hfile).1 r hr, (hplace _ hother).1 s hs]

/-- A taxonomy does not depend on the order in which the tree holds its entries. -/
theorem load_of_perm {fs' : FileSystem} (hentries : fs'.entries.Perm fs.entries)
    (hcurrent : fs'.current = fs.current) :
    RuleStore.load fs' directory = RuleStore.load fs directory := by
  have hentry := FileSystem.entry_of_perm hentries hcurrent
  have hdir : fs'.isDirectory = fs.isDirectory := by
    funext path
    rw [FileSystem.isDirectory, FileSystem.isDirectory, hentry]
  have hread : TaxonomyFile.read fs' = TaxonomyFile.read fs := by
    funext path
    simp only [TaxonomyFile.read, TaxonomyFile.readFrom, Host.ofTree, FileSystem.readText,
      FileSystem.read, hentry]
  cases h : fs.isDirectory (Path.simplify directory) with
  | false =>
    have h' : fs'.isDirectory (Path.simplify directory) = false := by rwa [hdir]
    rw [RuleStore.load_eq_of_not_isDirectory h, RuleStore.load_eq_of_not_isDirectory h']
  | true =>
    have h' : fs'.isDirectory (Path.simplify directory) = true := by rwa [hdir]
    -- The files are found in ascending order, and an ascending list is known by its members.
    have hfiles : RuleStore.taxonomyPaths fs' (Path.simplify directory) =
        RuleStore.taxonomyPaths fs (Path.simplify directory) := by
      refine Text.eq_of_mem_iff (pairwise_taxonomyPaths h') (pairwise_taxonomyPaths h)
        fun path => ?_
      have hplace : fs'.place = fs.place := by
        funext path
        simp only [FileSystem.place, FileSystem.follow_of_perm hentries, hcurrent,
          FileSystem.find?_of_perm hentries]
      rw [mem_taxonomyPaths_iff h', mem_taxonomyPaths_iff h]
      simp only [IsTaxonomyFile, hplace, FileSystem.find?_of_perm hentries]
    rw [RuleStore.load_eq_of_isDirectory h, RuleStore.load_eq_of_isDirectory h', hread, hfiles]

end Files

/-! ### The first rule that applies -/

private theorem Before.irrefl (e : Declaration) : ¬e.Before e := by
  rintro (h | ⟨-, h⟩)
  · rw [Text.lt_irrefl] at h
    cases h
  · exact Nat.lt_irrefl _ h

private theorem Before.asymm {e f : Declaration} (h : e.Before f) : ¬f.Before e := by
  intro k
  rcases h with h | ⟨h, hlt⟩ <;> rcases k with k | ⟨k, klt⟩
  · have hself := Text.lt_trans h k
    rw [Text.lt_irrefl] at hself
    cases hself
  · rw [k, Text.lt_irrefl] at h
    cases h
  · rw [h, Text.lt_irrefl] at k
    cases k
  · exact Nat.lt_asymm hlt klt

private theorem Gives.before_iff {e f : Declaration} {r s : Rule} (hr : e.Gives r)
    (hs : f.Gives s) :
    (Text.lt r.source s.source = true ∨ r.source = s.source ∧ r.index < s.index) ↔ e.Before f := by
  rw [hr.source, hs.source, hr.index, hs.index, Int.ofNat_lt, Before]

private theorem Gives.occursIn {e : Declaration} {r : Rule} (h : e.Gives r) (t : Text) :
    r.occursIn t = e.pattern.occursIn t := by
  rw [Rule.occursIn, h.pattern]

section Selection

variable {fs : FileSystem} {directory : Text} {c : Categorizer} {t : Text}

/-- A directory declares one rule at most at a position. -/
theorem Declared.unique {e f : Declaration} (he : Declared fs directory e)
    (hf : Declared fs directory f) (hpath : e.path = f.path) (hindex : e.index = f.index) :
    e = f := by
  obtain ⟨path, index, name, pattern, sharedTags, ownTags⟩ := e
  obtain ⟨path', index', name', pattern', sharedTags', ownTags'⟩ := f
  obtain rfl : path = path' := hpath
  obtain rfl : index = index' := hindex
  -- Each step from the path to the entry is a function, so both go the same way.
  obtain ⟨octets, text, doc, ⟨p, m, hp, hm, -, hpath⟩, htext, hdoc, hin⟩ := he
  obtain ⟨octets', text', doc', ⟨p', m', hp', hm', -, hpath'⟩, htext', hdoc', hin'⟩ := hf
  obtain rfl : p = p' := Except.ok.inj (hp.symm.trans hp')
  obtain rfl : m = m' := join_injective (FileSystem.isName_of_find? hm)
    (FileSystem.isName_of_find? hm') (hpath.symm.trans hpath')
  obtain rfl : octets = octets' := Entry.file.inj (Option.some.inj (hm.symm.trans hm'))
  obtain rfl : text = text' := Option.some.inj (htext.symm.trans htext')
  obtain rfl : doc = doc' := Except.ok.inj (hdoc.symm.trans hdoc')
  obtain ⟨fields, rules, entry, own, source, hfields, hshared, hrules, hentry, hown, hname, hmatch,
    hpattern, htags⟩ := hin
  obtain ⟨fields', rules', entry', own', source', hfields', hshared', hrules', hentry', hown',
    hname', hmatch', hpattern', htags'⟩ := hin'
  obtain rfl : fields = fields' := Option.some.inj (hfields.symm.trans hfields')
  obtain rfl : rules = rules' := Option.some.inj (hrules.symm.trans hrules')
  obtain rfl : entry = entry' := Option.some.inj (hentry.symm.trans hentry')
  obtain rfl : own = own' := Option.some.inj (hown.symm.trans hown')
  obtain rfl : source = source' := Value.text.inj (hmatch.symm.trans hmatch')
  obtain rfl : name = name' := Value.text.inj (hname.symm.trans hname')
  obtain rfl : pattern = pattern' := Except.ok.inj (hpattern.symm.trans hpattern')
  obtain rfl : sharedTags = sharedTags' := hshared.unique hshared'
  obtain rfl : ownTags = ownTags' := htags.unique htags'
  rfl

/-- A declared rule whose pattern occurs in a text. -/
def Matches (fs : FileSystem) (directory t : Text) (e : Declaration) : Prop :=
  Declared fs directory e ∧ e.pattern.occursIn t = true

/-- The matching rule with the least position. -/
def IsLeast (fs : FileSystem) (directory t : Text) (e : Declaration) : Prop :=
  Matches fs directory t e ∧ ∀ f, Matches fs directory t f → f = e ∨ e.Before f

/-- At most one declared rule is the first that matches. -/
theorem IsLeast.unique {e f : Declaration} (he : IsLeast fs directory t e)
    (hf : IsLeast fs directory t f) : e = f := by
  rcases he.2 f hf.1 with h | h
  · exact h.symm
  · exact (hf.2 e he.1).resolve_right h.asymm

/-- The first rule of a loaded taxonomy that applies is the least declared one. -/
theorem isLeast_of_firstMatch {store : RuleStore} (h : RuleStore.load fs directory = .ok store)
    {r : Rule} (hr : store.firstMatch t = some r) :
    ∃ e, IsLeast fs directory t e ∧ e.Gives r := by
  obtain ⟨hoccurs, before, after, hrules, hbefore⟩ := List.find?_eq_some_iff_append.1 hr
  obtain ⟨e, he, hgives⟩ := exists_declared h (List.mem_of_find?_eq_some hr)
  refine ⟨e, ⟨⟨he, hgives.occursIn t ▸ hoccurs⟩, fun f hf => ?_⟩, hgives⟩
  obtain ⟨s, hs, hgives'⟩ := exists_mem_rules h hf.1
  have hpairwise := pairwise_rules h
  rw [hrules] at hs hpairwise
  have hafter := (List.pairwise_cons.1 (List.pairwise_append.1 hpairwise).2.1).1
  -- The other rule stands before the first one, where none applies, or is it, or stands behind it.
  rcases List.mem_append.1 hs with hs | hs
  · have hnot := hbefore s hs
    rw [hgives'.occursIn, hf.2] at hnot
    cases hnot
  · rcases List.mem_cons.1 hs with rfl | hs
    · refine .inl (hf.1.unique he ?_ ?_)
      · exact hgives'.source.symm.trans hgives.source
      · exact Int.ofNat_inj.1 (hgives'.index.symm.trans hgives.index)
    · exact .inr ((hgives.before_iff hgives').1 (hafter s hs))

/-- A rule applies to a text exactly if one is declared that does. -/
theorem firstMatch_eq_none_iff {store : RuleStore}
    (h : RuleStore.load fs directory = .ok store) :
    store.firstMatch t = none ↔ ¬∃ e, Matches fs directory t e := by
  rw [RuleStore.firstMatch, List.find?_eq_none]
  constructor
  · rintro hnone ⟨e, he, hoccurs⟩
    obtain ⟨r, hr, hgives⟩ := exists_mem_rules h he
    exact hnone r hr (hgives.occursIn t ▸ hoccurs)
  · intro hnone r hr hoccurs
    obtain ⟨e, he, hgives⟩ := exists_declared h hr
    exact hnone ⟨e, he, hgives.occursIn t ▸ hoccurs⟩

end Selection

end Declaration

/-! ### Naming descriptions -/

/-- A description that is given, or none. -/
def descriptionValue : Option Text → Value
  | some t => .text t
  | none => .null

/-- A description gets the name and the tags of the first rule that matches its lower case, and else
its own text as its name and no tags. -/
theorem Categorizer.categorize_eq (c : Categorizer) (d : Option Text) :
    c.categorize (descriptionValue d) =
      .ok (match c.store.firstMatch (Text.lower (d.getD [])) with
        | some r => (.text r.name, r.tags)
        | none => (.text (d.getD []), ∅)) := by
  have hpresent : (descriptionValue d).orElse (.text []) = .text (d.getD []) := by
    cases d with
    | none => rfl
    | some t => cases t <;> rfl
  rw [categorize, hpresent]
  dsimp only
  cases c.store.firstMatch (Text.lower (d.getD [])) <;> rfl

namespace Declaration

variable {fs : FileSystem} {directory : Text} {c : Categorizer} {d : Option Text}

private theorem categorize_of_isLeast (h : RuleStore.load fs directory = .ok c.store)
    {e : Declaration} (he : IsLeast fs directory (Text.lower (d.getD [])) e) :
    c.categorize (descriptionValue d) = .ok (.text e.name, e.tags) := by
  rw [Categorizer.categorize_eq]
  cases hr : c.store.firstMatch (Text.lower (d.getD [])) with
  | none => exact absurd ⟨e, he.1⟩ ((firstMatch_eq_none_iff h).1 hr)
  | some r =>
    obtain ⟨f, hf, hgives⟩ := isLeast_of_firstMatch h hr
    obtain rfl := hf.unique he
    dsimp only
    rw [hgives.name, hgives.tags]

/-- The least matching rule stays the least one when nothing changes up to its position. -/
theorem IsLeast.of_same_before {fs' : FileSystem} {t : Text} {e : Declaration}
    (he : IsLeast fs directory t e)
    (hsame : ∀ f, ¬e.Before f → (Declared fs' directory f ↔ Declared fs directory f)) :
    IsLeast fs' directory t e := by
  refine ⟨⟨(hsame e (Before.irrefl e)).2 he.1.1, he.1.2⟩, fun f hf => ?_⟩
  by_cases hef : e.Before f
  · exact .inr hef
  · exact he.2 f ⟨(hsame f hef).1 hf.1, hf.2⟩

/-- A description is named by the matching rule with the least position among all rules that the
directory declares: it gets the name and the tags of that rule, and without a matching rule it keeps
its own text and gets no tags. The tags are tags of the taxonomy. The order in which the tree holds
its entries does not matter, nor does what comes behind the rule that wins. -/
theorem categorize_eq_least (h : RuleStore.load fs directory = .ok c.store) (d : Option Text) :
    let t := Text.lower (d.getD [])
    ((¬∃ e, Matches fs directory t e) →
      c.categorize (descriptionValue d) = .ok (.text (d.getD []), ∅)) ∧
    ((∃ e, Matches fs directory t e) →
      ∃ e, IsLeast fs directory t e ∧
        c.categorize (descriptionValue d) = .ok (.text e.name, e.tags)) ∧
    (∀ name tags, c.categorize (descriptionValue d) = .ok (name, tags) →
      ∀ x ∈ tags, x ∈ c.store.allTags) ∧
    (∀ fs' : FileSystem, fs'.entries.Perm fs.entries → fs'.current = fs.current →
      RuleStore.load fs' directory = .ok c.store) ∧
    ∀ (fs' : FileSystem) (c' : Categorizer) (e : Declaration),
      RuleStore.load fs' directory = .ok c'.store → IsLeast fs directory t e →
      (∀ f, ¬e.Before f → (Declared fs' directory f ↔ Declared fs directory f)) →
      c'.categorize (descriptionValue d) = c.categorize (descriptionValue d) := by
  intro t
  refine ⟨fun hnone => ?_, fun hsome => ?_, fun name tags hanswer x hx => ?_,
    fun fs' hentries hcurrent => ?_, fun fs' c' e h' he hsame => ?_⟩
  · rw [Categorizer.categorize_eq, (firstMatch_eq_none_iff h).2 hnone]
  · cases hr : c.store.firstMatch t with
    | none => exact absurd hsome ((firstMatch_eq_none_iff h).1 hr)
    | some r =>
      obtain ⟨e, he, -⟩ := isLeast_of_firstMatch h hr
      exact ⟨e, he, categorize_of_isLeast h he⟩
  · rw [Categorizer.categorize_eq] at hanswer
    split at hanswer
    · next r hr =>
      cases hanswer
      exact RuleStore.mem_allTags_iff.2 ⟨r, List.mem_of_find?_eq_some hr, hx⟩
    · cases hanswer
      exact absurd hx (TagSet.not_mem_empty x)
  · rw [load_of_perm hentries hcurrent, h]
  · rw [categorize_of_isLeast h he, categorize_of_isLeast h' (he.of_same_before hsame)]

/-! ### A directory with two documents -/

/-- A document with one rule. -/
def sampleText : Text := "{tags: [x], data: [{name: A, match: b}]}"

/-- The entry of the rule. -/
def sampleEntry : List (Value × Value) := [(.text "name", .text "A"), (.text "match", .text "b")]

/-- The value of the document. -/
def sampleFields : List (Value × Value) :=
  [(.text "tags", .list [.text "x"]), (.text "data", .list [.dict sampleEntry])]

/-- The tokens of the document. -/
def sampleTokens : List Yaml.Token :=
  [.openBrace, .key, .scalar "tags" true, .value, .openBracket, .scalar "x" true, .closeBracket,
    .comma, .key, .scalar "data" true, .value, .openBracket, .openBrace, .key, .scalar "name" true,
    .value, .scalar "A" true, .comma, .key, .scalar "match" true, .value, .scalar "b" true,
    .closeBrace, .closeBracket, .closeBrace, .finish]

/-- The pattern of the rule. -/
def samplePattern : Pattern := (Pattern.compile "b").toOption.getD ⟨[], []⟩

/-- The rule as a document at a path gives it. -/
def sampleRule (path : Text) : Rule := ⟨"A", samplePattern, TagSet.ofList ["x"], path, 0⟩

/-- A directory in which the document lies twice. The tree does not hold it in the order of the
paths. -/
def sampleTree : FileSystem where
  entries :=
    [(["t"], .directory), (["t", "b.yml"], .file (Text.Utf8.encode sampleText)),
      (["t", "a.YAML"], .file (Text.Utf8.encode sampleText))]

/-- The rules of the directory. -/
def sampleStore : RuleStore where
  rules := [sampleRule "/t/a.YAML", sampleRule "/t/b.yml"]
  files := ["/t/a.YAML", "/t/b.yml"]

private theorem read_sampleText : Yaml.read sampleText = .ok (.dict sampleFields) := by
  have htokens : (Yaml.tokens (Text.unifyNewlines sampleText)).tokens = sampleTokens := by
    decide +kernel
  have hfault : (Yaml.tokens (Text.unifyNewlines sampleText)).fault.isNone := by decide +kernel
  have hlexed : Yaml.tokens (Text.unifyNewlines sampleText) = ⟨sampleTokens, none⟩ := by
    rw [← htokens, ← Option.isNone_iff_eq_none.1 hfault]
  have hgraph : ∃ g, Yaml.Graph.ofTokens? ⟨sampleTokens, none⟩ = .ok (some g) ∧
      Yaml.Document.ofGraph g = .ok (.dict sampleFields) := by
    refine ⟨?_, ?_, ?_⟩
    rotate_left
    · cbv
      rfl
    · cbv
  obtain ⟨g, hg, hvalue⟩ := hgraph
  rw [Yaml.read, hlexed, hg, ok_bind]
  exact hvalue

private theorem ofValue_sampleEntry (path : Text) :
    Rule.ofValue path (0 : Nat) (TagSet.ofList ["x"]) (.dict sampleEntry) =
      .ok (sampleRule path) := by
  have hcompile : Pattern.compile "b" = .ok samplePattern := by cbv
  have hpattern (p : Rule.Place) : Rule.readPattern .usual p "b" = .ok samplePattern := by
    rw [Rule.readPattern, Tools.compile_usual_eq_ok_iff.2 hcompile]
  have hname : Value.lookup "name" sampleEntry = .text "A" := by rfl
  have hmatch : Value.lookup "match" sampleEntry = .text "b" := by rfl
  have htags : Value.lookup "tags" sampleEntry = .null := by rfl
  unfold Rule.ofValue Rule.parse
  simp only [Value.mapping?, hname, hmatch, htags, hpattern]
  rfl

private theorem ofValue_sampleFields (path : Text) :
    TaxonomyFile.ofValue path (.dict sampleFields) =
      .ok ⟨path, TagSet.ofList ["x"], [sampleRule path]⟩ := by
  have htags : Value.lookup "tags" sampleFields = .list [.text "x"] := by rfl
  have hdata : Value.lookup "data" sampleFields = .list [.dict sampleEntry] := by rfl
  have hentry := ofValue_sampleEntry path
  rw [Rule.ofValue] at hentry
  unfold TaxonomyFile.ofValue TaxonomyFile.parse
  simp only [Value.mapping?, htags, hdata, Value.list?, Rule.readTexts, Value.sequence?,
    Rule.readTextsFrom, pure_eq_ok, ok_bind, TaxonomyFile.parseRules, hentry]

private theorem load_sampleTree : RuleStore.load sampleTree "/t" = .ok sampleStore := by
  have hsimplify : Path.simplify "/t" = "/t" := by decide
  have hdirectory : sampleTree.isDirectory "/t" = true := by decide
  have hfiles : (((sampleTree.names "/t").filter RuleStore.isTaxonomyName).map
      (Path.join "/t")).filter sampleTree.isFile = (["/t/b.yml", "/t/a.YAML"] : List Text) := by
    decide
  have hfound : RuleStore.taxonomyPaths sampleTree "/t" =
      (["/t/a.YAML", "/t/b.yml"] : List Text) := by
    rw [RuleStore.taxonomyPaths, hfiles]
    cbv
  have hdecode : Text.Utf8.decode? (Text.Utf8.encode sampleText) = some sampleText :=
    Text.Utf8.decode?_encode (by decide)
  have hread (path : Text) (h : sampleTree.read path = .ok (Text.Utf8.encode sampleText)) :
      TaxonomyFile.read sampleTree path =
        .ok ⟨path, TagSet.ofList ["x"], [sampleRule path]⟩ := by
    have htext : sampleTree.readText path = .ok sampleText := by
      rw [FileSystem.readText, h, ok_bind, hdecode]
      rfl
    exact TaxonomyFile.read_eq_ok_iff.2
      ⟨sampleText, _, htext, read_sampleText, ofValue_sampleFields path⟩
  have ha := hread "/t/a.YAML" (by rfl)
  have hb := hread "/t/b.yml" (by rfl)
  have hdocuments : (["/t/a.YAML", "/t/b.yml"] : List Text).mapM (TaxonomyFile.read sampleTree) =
      .ok [⟨"/t/a.YAML", TagSet.ofList ["x"], [sampleRule "/t/a.YAML"]⟩,
        ⟨"/t/b.yml", TagSet.ofList ["x"], [sampleRule "/t/b.yml"]⟩] := by
    rw [List.mapM_cons, List.mapM_cons, List.mapM_nil, ha, hb]
    rfl
  rw [RuleStore.load_eq_of_isDirectory (hsimplify.symm ▸ hdirectory), hsimplify, hfound]
  dsimp only
  rw [hdocuments]
  rfl

/-- The categorizer of the directory, with limits of one and a thousand. -/
def sampleCategorizer : Categorizer where
  store := sampleStore
  smallLimit := .finite false 1 0
  largeLimit := .finite false 1000 0

private theorem categorize_sample :
    sampleCategorizer.categorize (descriptionValue (some "Ab")) =
      .ok (.text "A", TagSet.ofList ["x"]) := by
  have hlower : Text.lower "Ab" = "ab" := by decide
  have hoccurs : (sampleRule "/t/a.YAML").occursIn "ab" = true := by decide
  have hfirst : sampleCategorizer.store.firstMatch "ab" = some (sampleRule "/t/a.YAML") :=
    List.find?_cons_of_pos hoccurs
  rw [Categorizer.categorize_eq, Option.getD_some, hlower, hfirst]
  rfl

/-- Two rules of the directory occur in the description; the least one names it. -/
theorem categorize_eq_least_sampleTree :
    RuleStore.load sampleTree "/t" = .ok sampleCategorizer.store ∧
    ∃ e, IsLeast sampleTree "/t" "ab" e ∧ e.name = "A" ∧ e.tags = TagSet.ofList ["x"] := by
  have hlower : Text.lower "Ab" = "ab" := by decide
  obtain ⟨hnone, hsome, -⟩ :=
    categorize_eq_least (c := sampleCategorizer) load_sampleTree (some "Ab")
  rw [Option.getD_some, hlower, categorize_sample] at hnone hsome
  have hexists : ∃ e, Matches sampleTree "/t" "ab" e := by
    by_contra hno
    cases hnone hno
  obtain ⟨e, he, hanswer⟩ := hsome hexists
  obtain ⟨hname, htags⟩ := Prod.mk.inj (Except.ok.inj hanswer)
  exact ⟨load_sampleTree, e, he, (Value.text.inj hname).symm, htags.symm⟩

end Declaration

end LedgerTags

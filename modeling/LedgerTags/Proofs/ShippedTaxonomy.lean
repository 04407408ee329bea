import LedgerTags.Proofs.DeclaredRules
import LedgerTags.Proofs.Display
import LedgerTags.Proofs.Installation
import LedgerTags.Proofs.LiteralPatterns
import LedgerTags.Proofs.ValidDocuments

/-!
# Food deliveries in the shipped taxonomy

A company that drives people also delivers food, and its name is in the descriptions of both. The
shipped taxonomy tells them apart by the order of its files: the rules for food come first
(`Shipped.exists_load`), one of them applies to every description with the name of the delivery
service in it (`Shipped.occursIn_delivery`), and none of them gives the tag of travel
(`Shipped.outlines?_food`). So no other word of the description can make a ride of a meal
(`Shipped.delivery_is_food`).

The four documents are read once, as they are shipped; what is said of their rules does not depend
on where the files lie.
-/

namespace LedgerTags

open Pattern Declaration

/-! ### What the documents say -/

private theorem Pattern.text_of_compile {t : Text} {p : Pattern} (h : Pattern.compile t = .ok p) :
    p.text = t := by
  obtain ⟨reading, -, h⟩ := bind_eq_ok_iff.1 h
  obtain ⟨steps, -, h⟩ := bind_eq_ok_iff.1 h
  cases h
  rfl

/-- The rules of a document have the patterns that their texts say. -/
theorem compile_text_of_ofValue {source : Text} {doc : Value} {file : TaxonomyFile}
    (h : TaxonomyFile.ofValue source doc = .ok file) {r : Rule} (hr : r ∈ file.rules) :
    Pattern.compile r.pattern.text = .ok r.pattern := by
  obtain ⟨_, rules, _, _, _, _, _, hlen, hget⟩ := taxonomyFile_eq_ok h
  obtain ⟨k, hk, rfl⟩ := List.getElem_of_mem hr
  obtain ⟨_, _, _, _, _, _, hcompile, -⟩ := ofValue_eq_ok (hget k (hlen ▸ hk) hk)
  rwa [Pattern.text_of_compile hcompile]

namespace Shipped

/-- Every file of the taxonomy declares rules. -/
theorem exists_outlines? {name : Text} {lines : List String}
    (h : ((["config", "taxonomy", name] : Location), lines) ∈ files) :
    ∃ rules, outlines? lines = some rules := by
  have hlines : ∀ f ∈ files, f.1.length = 3 → f.2 = food ∨ f.2 ∈ [shopping, transfers, travel] := by
    simp [files]
  rcases hlines _ h rfl with rfl | hlines
  · exact ⟨_, outlines?_food⟩
  · exact Option.isSome_iff_exists.1 (isSome_outlines? lines hlines)

/-- A document that declares rules declares the same ones wherever its file lies. -/
theorem exists_ofValue {lines : List String} {rules : List Rule.Outline}
    (h : outlines? lines = some rules) :
    ∃ doc, Yaml.read (text lines) = .ok doc ∧
      ∀ source, ∃ file, TaxonomyFile.ofValue source doc = .ok file ∧
        file.rules.map Rule.outline = rules := by
  unfold outlines? at h
  split at h
  · next doc hdoc =>
    refine ⟨doc, hdoc, fun source => ?_⟩
    cases hread : TaxonomyFile.ofValue [] doc with
    | error e => simp [hread, Except.toOption] at h
    | ok file =>
      obtain ⟨c, hc, rfl⟩ := TaxonomyFile.ofValue_eq_ok_iff.1 hread
      refine ⟨c.toFile source, TaxonomyFile.ofValue_eq_ok_iff.2 ⟨c, hc, rfl⟩, ?_⟩
      rw [hread] at h
      rw [← Option.some.inj h]
      refine List.ext_getElem (by simp [TaxonomyFile.Contents.toFile]) fun i _ _ => ?_
      simp [TaxonomyFile.Contents.toFile, Rule.outline, Rule.Contents.toRule]
  · cases h

/-! ### The files of the directory -/

section Files

variable {fs : FileSystem} {directory : Text}

private theorem decode?_octets (lines : List String) :
    Text.Utf8.decode? (octets lines) = some (text lines) := by
  refine Text.Utf8.decode?_encode fun c hc => ?_
  obtain ⟨l, -, hc⟩ := List.mem_flatMap.1 hc
  exact (Text.isScalar_ofString l).append (by decide) c hc

/-- A file of the taxonomy is read, and has the rules that its document declares. -/
theorem exists_read (h : IsTaxonomyAt fs directory) {name : Text} {lines : List String}
    (hname : ((["config", "taxonomy", name] : Location), lines) ∈ files)
    {rules : List Rule.Outline} (hrules : outlines? lines = some rules) :
    ∃ file, TaxonomyFile.read fs (Path.join (Path.simplify directory) name) = .ok file ∧
      file.rules.map Rule.outline = rules ∧
      ∀ r ∈ file.rules, r.source = Path.join (Path.simplify directory) name ∧
        Pattern.compile r.pattern.text = .ok r.pattern := by
  obtain ⟨p, hp, hdir, hentries⟩ := h
  obtain ⟨doc, hdoc, hdeclares⟩ := exists_ofValue hrules
  obtain ⟨file, hfile, hfileRules⟩ := hdeclares (Path.join (Path.simplify directory) name)
  have hfind : fs.find? (p ++ [name]) = some (.file (octets lines)) :=
    (hentries name _).2 ⟨lines, hname, rfl⟩
  have htext : fs.readText (Path.join (Path.simplify directory) name) = .ok (text lines) := by
    rw [FileSystem.readText, FileSystem.read_join hp hdir (FileSystem.isName_of_find? hfind) hfind,
      ok_bind, decode?_octets]
    rfl
  refine ⟨file, ?_, hfileRules, fun r hr => ⟨(pairwise_rules_of_ofValue hfile).1 r hr,
    compile_text_of_ofValue hfile hr⟩⟩
  exact TaxonomyFile.read_eq_ok_iff.2 ⟨_, doc, htext, hdoc, hfile⟩

/-- The names of the files of the taxonomy. -/
def names : List Text := ["food.yaml", "shopping.yaml", "transfers.yaml", "travel.yaml"]

private theorem names_valid :
    ∀ n ∈ names, Path.IsName n ∧ RuleStore.isTaxonomyName n = true := by decide

private theorem mem_names_iff {name : Text} :
    name ∈ names ↔ ∃ lines, ((["config", "taxonomy", name] : Location), lines) ∈ files := by
  constructor
  · intro h
    have hplaces : ∀ n ∈ names, (["config", "taxonomy", n] : Location) ∈ files.map Prod.fst := by
      decide
    obtain ⟨f, hf, hplace⟩ := List.mem_map.1 (hplaces name h)
    exact ⟨f.2, hplace ▸ hf⟩
  · rintro ⟨lines, h⟩
    have hnames : ∀ f ∈ files, f.1.length = 3 → f.1.getLast? ∈ names.map some := by decide
    simpa using hnames _ h rfl

private theorem isDirectory_of_isTaxonomyAt (h : IsTaxonomyAt fs directory) :
    fs.isDirectory (Path.simplify directory) = true := by
  obtain ⟨p, hp, hdir, -⟩ := h
  unfold FileSystem.isDirectory FileSystem.entry
  rw [hp, ok_bind, hdir]
  rfl

/-- The files of the taxonomy are found in the order of their names. -/
theorem taxonomyPaths_eq (h : IsTaxonomyAt fs directory) :
    RuleStore.taxonomyPaths fs (Path.simplify directory) =
      names.map (Path.join (Path.simplify directory)) := by
  have hdirectory := isDirectory_of_isTaxonomyAt h
  obtain ⟨p, hp, -, hentries⟩ := h
  obtain ⟨front, hfront⟩ := Path.exists_join_eq_append directory
  refine Text.eq_of_mem_iff (pairwise_taxonomyPaths hdirectory) ?_ fun path => ?_
  · rw [List.pairwise_map]
    have hascending : names.Pairwise (Text.lt · · = true) := by decide
    refine hascending.imp_of_mem fun {m n} hm hn hlt => ?_
    rwa [hfront m (names_valid m hm).1, hfront n (names_valid n hn).1, Text.lt_append_iff]
  · rw [mem_taxonomyPaths_iff hdirectory, List.mem_map]
    simp only [isTaxonomyFile_iff hp, hentries]
    constructor
    · rintro ⟨_, name, ⟨lines, hlines, -⟩, -, rfl⟩
      exact ⟨name, mem_names_iff.2 ⟨lines, hlines⟩, rfl⟩
    · rintro ⟨name, hname, rfl⟩
      obtain ⟨lines, hlines⟩ := mem_names_iff.1 hname
      exact ⟨octets lines, name, ⟨lines, hlines, rfl⟩, (names_valid name hname).2, rfl⟩

/-- The taxonomy is loaded, and the rules for food stand before all others. -/
theorem exists_load (h : IsTaxonomyAt fs directory) :
    ∃ store rules rest, RuleStore.load fs directory = .ok store ∧ store.rules = rules ++ rest ∧
      outlines? food = some (rules.map Rule.outline) ∧
      ∀ r ∈ rules, r.source = Path.join (Path.simplify directory) "food.yaml" ∧
        Pattern.compile r.pattern.text = .ok r.pattern := by
  obtain ⟨file, hfile, hrules, hplace⟩ := exists_read h
    (List.mem_cons_of_mem _ List.mem_cons_self) outlines?_food
  have hreads : ∀ path ∈ names.map (Path.join (Path.simplify directory)),
      ∃ file, TaxonomyFile.read fs path = .ok file := by
    intro path hpath
    obtain ⟨name, hname, rfl⟩ := List.mem_map.1 hpath
    obtain ⟨lines, hlines⟩ := mem_names_iff.1 hname
    obtain ⟨rules, hrules⟩ := exists_outlines? hlines
    obtain ⟨file, hfile, -⟩ := exists_read h hlines hrules
    exact ⟨file, hfile⟩
  have hload : RuleStore.load fs directory = (do
      let documents ← (names.map (Path.join (Path.simplify directory))).mapM (TaxonomyFile.read fs)
      return ⟨documents.flatMap (·.rules), names.map (Path.join (Path.simplify directory))⟩) := by
    rw [RuleStore.load_eq_of_isDirectory (isDirectory_of_isTaxonomyAt h), taxonomyPaths_eq h]
  cases hdocuments :
      (names.map (Path.join (Path.simplify directory))).mapM (TaxonomyFile.read fs) with
  | error e =>
    obtain ⟨before, path, after, hpaths, -, herror⟩ := mapM_eq_error hdocuments
    obtain ⟨file, hfile⟩ := hreads path (hpaths ▸ List.mem_append_right _ List.mem_cons_self)
    rw [hfile] at herror
    cases herror
  | ok documents =>
    rw [hdocuments, ok_bind] at hload
    cases mapM_eq_ok_iff.1 hdocuments with
    | @cons _ first _ others hfirst _ =>
      obtain rfl : file = first := Except.ok.inj (hfile.symm.trans hfirst)
      exact ⟨_, file.rules, others.flatMap (·.rules), hload, List.flatMap_cons,
        hrules ▸ outlines?_food, hplace⟩

end Files

/-! ### Rides and meals -/

/-- The options of a pattern that has none of its own. -/
def caseless : Options := { ignoreCase := true, unicode := true }

/-- The steps of a literal text. -/
def letters (t : Text) : List Step := t.map fun c => .char (literalTest caseless false c)

private theorem spells_letters {t : Text}
    (h : ∀ c ∈ t, (literalTest caseless false c).holds c = true) : Spells (letters t) t :=
  spells_chars h

/-- The pattern of the delivery service. -/
def deliveryPattern : Pattern where
  text := "uber ?eats"
  steps := letters "uber" ++ ([.repeat .greedy 0 (some 1) (letters " ")] ++ letters "eats")

private theorem compile_delivery : Pattern.compile "uber ?eats" = .ok deliveryPattern := by cbv

/-- The pattern occurs wherever the name of the service does, in one word or in two. -/
theorem occursIn_delivery {t : Text}
    (h : ("uber eats" : Text) <:+: t ∨ ("ubereats" : Text) <:+: t) :
    deliveryPattern.occursIn t = true := by
  have huber : Spells (letters "uber") "uber" := spells_letters (by decide)
  have hspace : Spells (letters " ") " " := spells_letters (by decide)
  have heats : Spells (letters "eats") "eats" := spells_letters (by decide)
  rcases h with h | h
  · exact occursIn_of_spells (huber.append (hspace.optional.append heats)) h
  · exact occursIn_of_spells (huber.append ((spells_optional_nil _).append heats)) h

/-- With the shipped taxonomy, a description with the name of the delivery service in its lower case
is named by a rule for food, with the tag of food and without the one of travel, whatever else the
description holds. -/
theorem delivery_is_food {fs : FileSystem} {directory : Text} (h : IsTaxonomyAt fs directory)
    {small large : Value} {s l : Decimal} (hsmall : small.toAmount = .ok s)
    (hlarge : large.toAmount = .ok l) :
    ∃ c, Categorizer.ofDirectory fs (.text directory) small large = .ok c ∧
      ∀ d : Text, ("uber eats" : Text) <:+: Text.lower d ∨ ("ubereats" : Text) <:+: Text.lower d →
        ∃ r ∈ c.store.rules, r.source = Path.join (Path.simplify directory) "food.yaml" ∧
          c.categorize (.text d) = .ok (.text r.name, r.tags) ∧
          ("food" : Text) ∈ r.tags ∧ ("travel" : Text) ∉ r.tags := by
  obtain ⟨store, rules, rest, hload, hrules, houtlines, hplace⟩ := exists_load h
  refine ⟨⟨store, s, l⟩, ?_, fun d hd => ?_⟩
  · rw [Categorizer.ofDirectory, hload, ok_bind, Categorizer.ofStore, hsmall, ok_bind, hlarge]
    rfl
  -- The rule of the delivery service applies, so the first rule that does is one for food.
  have hfood := Option.some.inj (houtlines.symm.trans outlines?_food)
  obtain ⟨delivery, hdelivery, hpattern⟩ :
      ∃ r ∈ rules, r.pattern = deliveryPattern := by
    obtain ⟨r, hr, houtline⟩ := List.mem_map.1 (hfood ▸ (by decide) :
      (⟨"Uber Eats", "uber ?eats", ["delivery", "food"]⟩ : Rule.Outline) ∈ rules.map Rule.outline)
    have htext : r.pattern.text = "uber ?eats" := congrArg Rule.Outline.pattern houtline
    have hcompile := (hplace r hr).2
    rw [htext, compile_delivery] at hcompile
    exact ⟨r, hr, (Except.ok.inj hcompile).symm⟩
  obtain ⟨r, hr⟩ : ∃ r, rules.find? (·.occursIn (Text.lower d)) = some r := by
    rw [← Option.isSome_iff_exists, List.find?_isSome]
    exact ⟨delivery, hdelivery, by rw [Rule.occursIn, hpattern, occursIn_delivery hd]⟩
  have hmem : r ∈ rules := List.mem_of_find?_eq_some hr
  have hfirst : store.firstMatch (Text.lower d) = some r := by
    rw [RuleStore.firstMatch, hrules, List.find?_append, hr, Option.some_or]
  refine ⟨r, by simp [hrules, hmem], (hplace r hmem).1, ?_, ?_⟩
  · have hname := Categorizer.categorize_eq ⟨store, s, l⟩ (some d)
    rwa [Option.getD_some, hfirst] at hname
  · have htags : ∀ o ∈ rules.map Rule.outline,
        ("food" : Text) ∈ o.tags ∧ ("travel" : Text) ∉ o.tags := by
      rw [hfood]
      decide
    exact htags _ (List.mem_map_of_mem hmem)

/-- A delivery whose description has the name of a shop in it too. -/
theorem delivery_from_shop :
    IsTaxonomyAt (install ["home"] {}) (taxonomyPath ["home"]) ∧
      ∃ c, Categorizer.ofDirectory (install ["home"] {}) (.text (taxonomyPath ["home"]))
          Categorizer.usualSmallLimit Categorizer.usualLargeLimit = .ok c ∧
        ∃ r ∈ c.store.rules,
          r.source = Path.join (Path.simplify (taxonomyPath ["home"])) "food.yaml" ∧
          c.categorize (.text "AMAZON Uber Eats ride") = .ok (.text r.name, r.tags) ∧
          ("food" : Text) ∈ r.tags ∧ ("travel" : Text) ∉ r.tags := by
  have hway (q : Location) :
      FileSystem.find? {} q = some .directory ∨ FileSystem.find? {} q = none := by
    cases q with
    | nil => exact .inl rfl
    | cons n ns => exact .inr rfl
  have hinstalled : IsTaxonomyAt (install ["home"] {}) (taxonomyPath ["home"]) :=
    isTaxonomyAt_install (by decide) (fun q _ => hway q) fun _ _ => rfl
  have hname : ("uber eats" : Text) <:+: Text.lower "AMAZON Uber Eats ride" := by decide
  have hsmall : Categorizer.usualSmallLimit.toAmount = .ok (.finite false 100 (-2)) := rfl
  have hlarge : Categorizer.usualLargeLimit.toAmount = .ok (.finite false 100000 (-2)) := rfl
  obtain ⟨c, hc, hnamed⟩ := delivery_is_food hinstalled hsmall hlarge
  exact ⟨hinstalled, c, hc, hnamed _ (.inl hname)⟩

end Shipped

end LedgerTags

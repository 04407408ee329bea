import LedgerTags.Proofs.Paths
import LedgerTags.Taxonomy.Shipped
import Mathlib.Data.List.Induction
import Mathlib.Data.List.Infix

/-!
# Where the shipped files are found

Putting an entry at a place changes what is found there and nothing else (`FileSystem.find?_put`),
and the directories that lead to it are added where nothing was (`FileSystem.find?_add`). So what is
found below the directory of the shipped files, if nothing was there before, is these files and the
directories that lead to them, and the taxonomy directory holds the four taxonomy files alone
(`Shipped.isTaxonomyAt_install`).
-/

namespace LedgerTags

namespace FileSystem

variable {fs : FileSystem} {p q : Location} {e x : Entry}

/-! ### Adding an entry -/

private theorem mem_putEntry_iff {entries : List (Location × Entry)} :
    (q, x) ∈ putEntry entries p e ↔ q = p ∧ x = e ∨ q ≠ p ∧ (q, x) ∈ entries := by
  have hmiss : entries.lookup p = none → (q, x) ∈ entries → q ≠ p := by
    intro hnone hmem heq
    have hne := List.lookup_eq_none_iff.1 hnone (q, x) hmem
    simp [heq] at hne
  unfold putEntry
  split
  · next hsome =>
    obtain ⟨y, hy, hp⟩ := List.lookup_isSome_iff.1 hsome
    obtain rfl : p = y.1 := by simpa using hp
    rw [List.mem_map]
    constructor
    · rintro ⟨z, hz, heq⟩
      split at heq
      · cases heq
        exact .inl ⟨rfl, rfl⟩
      · next hne =>
        subst heq
        exact .inr ⟨hne, hz⟩
    · rintro (⟨rfl, rfl⟩ | ⟨hne, hmem⟩)
      · exact ⟨y, hy, if_pos rfl⟩
      · exact ⟨(q, x), hmem, if_neg hne⟩
  · next hnone =>
    have hlookup : entries.lookup p = none := Option.not_isSome_iff_eq_none.1 hnone
    rw [List.mem_append, List.mem_singleton, Prod.mk.injEq, or_comm]
    exact or_congr_right ⟨fun hmem => ⟨hmiss hlookup hmem, hmem⟩, fun h => h.2⟩

/-- Nothing changes but what is found at the place itself. -/
theorem find?_put (hp : p ≠ []) (hnames : ∀ n ∈ p, Path.IsName n) :
    (fs.put p e).find? q = if q = p then some e else fs.find? q := by
  have hentries : (fs.put p e).entries = putEntry fs.entries p e := by
    rw [put, dif_pos hnames]
  by_cases hq : q = []
  · subst hq
    rw [if_neg hp.symm]
    rfl
  · refine Option.ext fun x => ?_
    rw [find?_eq_some_iff hq, hentries, mem_putEntry_iff, ← find?_eq_some_iff hq]
    split <;> simp_all [eq_comm]

/-- The directories at some places, where nothing is found yet. -/
theorem find?_foldl_put (hp : p ≠ []) (hnames : ∀ n ∈ p, Path.IsName n) {ns : List ℕ}
    (hns : ∀ n ∈ ns, 0 < n) :
    (ns.foldl (fun fs n => if (fs.find? (p.take n)).isSome then fs
        else fs.put (p.take n) .directory) fs).find? q =
      (fs.find? q).or (if ∃ n ∈ ns, q = p.take n then some .directory else none) := by
  induction ns generalizing fs with
  | nil => simp
  | cons n ns ih =>
    obtain ⟨hn, hns⟩ := List.forall_mem_cons.1 hns
    have htake : p.take n ≠ [] := by
      rw [ne_eq, List.take_eq_nil_iff]
      exact not_or.2 ⟨Nat.ne_of_gt hn, hp⟩
    have hstep : (if (fs.find? (p.take n)).isSome then fs
        else fs.put (p.take n) .directory).find? q =
          (fs.find? q).or (if q = p.take n then some .directory else none) := by
      split
      · next hsome =>
        by_cases hq : q = p.take n
        · subst hq
          obtain ⟨y, hy⟩ := Option.isSome_iff_exists.1 hsome
          rw [hy, Option.some_or]
        · rw [if_neg hq, Option.or_none]
      · next hnone =>
        rw [find?_put htake fun m hm => hnames m (List.mem_of_mem_take hm)]
        by_cases hq : q = p.take n
        · subst hq
          rw [if_pos rfl, if_pos rfl, Option.not_isSome_iff_eq_none.1 hnone, Option.none_or]
        · rw [if_neg hq, if_neg hq, Option.or_none]
    rw [List.foldl_cons, ih hns, hstep, Option.or_assoc]
    simp only [List.exists_mem_cons_iff]
    congr 1
    by_cases hq : q = p.take n <;> simp [hq]

/-- What is found once an entry is added: the entry, what was found before, and directories on the
way to the entry where nothing was. -/
theorem find?_add (hp : p ≠ []) (hnames : ∀ n ∈ p, Path.IsName n) :
    (fs.add p e).find? q = if q = p then some e
      else (fs.find? q).or (if q <+: p then some .directory else none) := by
  have hpositive : ∀ n ∈ (List.range p.length).drop 1, 0 < n := by
    intro n hn
    rw [List.range_eq_range', List.drop_range', List.mem_range'_1] at hn
    omega
  have hparents : (fs.makeParents p).find? q = (fs.find? q).or
      (if ∃ n ∈ (List.range p.length).drop 1, q = p.take n then some .directory else none) :=
    find?_foldl_put hp hnames hpositive
  rw [add, find?_put hp hnames, hparents]
  by_cases hq : q = p
  · rw [if_pos hq, if_pos hq]
  rw [if_neg hq, if_neg hq]
  by_cases hroot : q = []
  · subst hroot
    rfl
  refine congrArg (Option.or _) (if_congr ?_ rfl rfl)
  rw [List.prefix_iff_eq_take]
  constructor
  · rintro ⟨n, hn, rfl⟩
    rw [List.range_eq_range', List.drop_range', List.mem_range'_1] at hn
    rw [List.length_take, Nat.min_eq_left (by omega)]
  · intro hleads
    refine ⟨q.length, ?_, hleads⟩
    have hle : q.length ≤ p.length := by
      rw [hleads, List.length_take]
      exact Nat.min_le_right _ _
    have hne : q.length ≠ p.length := fun hlength => hq (by rw [hleads, hlength, List.take_length])
    have hpos : 0 < q.length := List.length_pos_iff.2 hroot
    rw [List.range_eq_range', List.drop_range', List.mem_range'_1]
    omega

/-! ### Absolute paths -/

private theorem names_absolute (hnames : ∀ n ∈ p, Path.IsName n) : Path.names (absolute p) = p :=
  Path.names_ofNames (p := [Path.slash]) fun n hn => (hnames n hn).isKept

private theorem root_absolute (hnames : ∀ n ∈ p, Path.IsName n) :
    Path.root (absolute p) = [Path.slash] :=
  Path.root_ofNames (p := [Path.slash]) fun n hn => (hnames n hn).isKept

private theorem simplify_absolute (hnames : ∀ n ∈ p, Path.IsName n) :
    Path.simplify (absolute p) = absolute p := by
  rw [Path.simplify, root_absolute hnames, names_absolute hnames]
  rfl

/-- The absolute path of a place leads there, if directories do. -/
theorem place_absolute (hnames : ∀ n ∈ p, Path.IsName n)
    (hdirs : ∀ q, q <+: p → fs.find? q = some .directory) : fs.place (absolute p) = .ok p := by
  induction p using List.reverseRecOn with
  | nil => rfl
  | append_singleton p n ih =>
    obtain ⟨hp, hn⟩ := List.forall_mem_append.1 hnames
    have hn : Path.IsName n := hn n (List.mem_singleton.2 rfl)
    have hdirectory : fs.place (Path.simplify (absolute p)) = .ok p := by
      rw [simplify_absolute hp]
      exact ih hp fun q hq => hdirs q (hq.trans (List.prefix_append _ _))
    have hjoin : absolute (p ++ [n]) = Path.join (Path.simplify (absolute p)) n := by
      rw [Path.join_eq _ hn, root_absolute hp, names_absolute hp]
      rfl
    rw [hjoin]
    exact place_join hdirectory (hdirs p (List.prefix_append _ _)) hn

end FileSystem

namespace Shipped

variable {fs : FileSystem} {home : Location}

/-! ### The shipped files -/

/-- A path leads to a directory that holds the shipped taxonomy, and nothing else. -/
def IsTaxonomyAt (fs : FileSystem) (directory : Text) : Prop :=
  ∃ p, fs.place (Path.simplify directory) = .ok p ∧ fs.find? p = some .directory ∧
    ∀ name entry, fs.find? (p ++ [name]) = some entry ↔
      ∃ lines, ((["config", "taxonomy", name] : Location), lines) ∈ files ∧
        entry = .file (octets lines)

/-- What is found at a place below a directory once some files are added there, if `found` was found
before. -/
def foundAt (place : Location) (found : Option Entry) (shipped : List (Location × List String)) :
    Option Entry :=
  shipped.foldl (fun found f => if place = f.1 then some (.file (octets f.2))
    else found.or (if place <+: f.1 then some .directory else none)) found

private theorem find?_foldl_add (hhome : ∀ n ∈ home, Path.IsName n)
    {shipped : List (Location × List String)}
    (hshipped : ∀ f ∈ shipped, f.1 ≠ [] ∧ ∀ n ∈ f.1, Path.IsName n) (place : Location) :
    (shipped.foldl (fun fs f => fs.add (home ++ f.1) (.file (octets f.2))) fs).find?
        (home ++ place) = foundAt place (fs.find? (home ++ place)) shipped := by
  induction shipped generalizing fs with
  | nil => rfl
  | cons f shipped ih =>
    obtain ⟨⟨hne, hnames⟩, hshipped⟩ := List.forall_mem_cons.1 hshipped
    have hplace : home ++ f.1 ≠ [] := List.append_ne_nil_of_right_ne_nil home hne
    rw [List.foldl_cons, ih hshipped,
      FileSystem.find?_add hplace (List.forall_mem_append.2 ⟨hhome, hnames⟩)]
    simp only [List.append_cancel_left_eq, List.prefix_append_right_inj]
    rfl

/-- On the way to the directory of the shipped files there are directories. -/
theorem find?_foldl_add_of_prefix (hhome : ∀ n ∈ home, Path.IsName n)
    {shipped : List (Location × List String)}
    (hshipped : ∀ f ∈ shipped, f.1 ≠ [] ∧ ∀ n ∈ f.1, Path.IsName n) {q : Location}
    (hq : q <+: home) (hfs : fs.find? q = some .directory ∨ fs.find? q = none ∧ shipped ≠ []) :
    (shipped.foldl (fun fs f => fs.add (home ++ f.1) (.file (octets f.2))) fs).find? q =
      some .directory := by
  induction shipped generalizing fs with
  | nil => exact hfs.resolve_right fun h => h.2 rfl
  | cons f shipped ih =>
    obtain ⟨⟨hne, hnames⟩, hshipped⟩ := List.forall_mem_cons.1 hshipped
    have hplace : home ++ f.1 ≠ [] := List.append_ne_nil_of_right_ne_nil home hne
    have hnot : q ≠ home ++ f.1 := by
      rintro rfl
      have hlength := hq.length_le
      have hpos := List.length_pos_iff.2 hne
      rw [List.length_append] at hlength
      omega
    refine ih hshipped (.inl ?_)
    rw [FileSystem.find?_add hplace (List.forall_mem_append.2 ⟨hhome, hnames⟩), if_neg hnot,
      if_pos (hq.trans (List.prefix_append _ _))]
    rcases hfs with hdirectory | ⟨hnone, -⟩
    · rw [hdirectory, Option.some_or]
    · rw [hnone, Option.none_or]

/-- Where the shipped files have no directory, what is found is a shipped file. -/
theorem foundAt_eq_some_iff {shipped : List (Location × List String)} {place : Location}
    (hdistinct : (shipped.map Prod.fst).Nodup)
    (hlast : ∀ f ∈ shipped, place <+: f.1 → place = f.1) {found : Option Entry} {entry : Entry} :
    foundAt place found shipped = some entry ↔
      (∃ lines, (place, lines) ∈ shipped ∧ entry = .file (octets lines)) ∨
        found = some entry ∧ ∀ lines, (place, lines) ∉ shipped := by
  induction shipped generalizing found with
  | nil => simp [foundAt]
  | cons f shipped ih =>
    obtain ⟨hfresh, hdistinct⟩ := List.nodup_cons.1 hdistinct
    obtain ⟨hf, hlast⟩ := List.forall_mem_cons.1 hlast
    rw [foundAt, List.foldl_cons, ← foundAt, ih hdistinct hlast]
    by_cases hplace : place = f.1
    · have hnone : ∀ lines, (place, lines) ∉ shipped := fun lines hmem =>
        hfresh (List.mem_map.2 ⟨_, hmem, hplace⟩)
      subst hplace
      simp [hnone, eq_comm, Prod.ext_iff]
    · rw [if_neg hplace, if_neg fun hleads => hplace (hf hleads), Option.or_none]
      simp [Prod.ext_iff, hplace]

private theorem isName_files : ∀ f ∈ files, f.1 ≠ [] ∧ ∀ n ∈ f.1, Path.IsName n := by decide

/-- Installed below a directory in which nothing is found, the taxonomy lies where its path says. -/
theorem isTaxonomyAt_install (hhome : ∀ n ∈ home, Path.IsName n)
    (hway : ∀ q, q <+: home → fs.find? q = some .directory ∨ fs.find? q = none)
    (hempty : ∀ n ns, fs.find? (home ++ n :: ns) = none) :
    IsTaxonomyAt (install home fs) (taxonomyPath home) := by
  have hbelow (n : Text) (ns : List Text) : (install home fs).find? (home ++ n :: ns) =
      foundAt (n :: ns) (fs.find? (home ++ n :: ns)) files :=
    find?_foldl_add hhome isName_files (n :: ns)
  simp only [hempty] at hbelow
  have hnames : ∀ n ∈ home ++ (["config", "taxonomy"] : Location), Path.IsName n :=
    List.forall_mem_append.2 ⟨hhome, by decide⟩
  have hdirectory (q : Location) (hq : q <+: home) :
      (install home fs).find? q = some .directory :=
    find?_foldl_add_of_prefix hhome isName_files hq
      ((hway q hq).imp_right fun hnone => ⟨hnone, by decide⟩)
  have hconfig : (install home fs).find? (home ++ (["config"] : Location)) = some .directory := by
    rw [hbelow]
    rfl
  have htaxonomy : (install home fs).find? (home ++ (["config", "taxonomy"] : Location)) =
      some .directory := by
    rw [hbelow]
    rfl
  refine ⟨home ++ (["config", "taxonomy"] : Location), ?_, htaxonomy, fun name entry => ?_⟩
  · rw [taxonomyPath, FileSystem.simplify_absolute hnames]
    refine FileSystem.place_absolute hnames fun q hq => ?_
    rcases List.prefix_or_prefix_of_prefix hq (List.prefix_append home _) with hq | ⟨r, rfl⟩
    · exact hdirectory q hq
    · rw [List.prefix_append_right_inj] at hq
      have hr : r ∈ [[], (["config"] : Location), ["config", "taxonomy"]] :=
        (List.mem_inits _ _).2 hq
      simp only [List.mem_cons, List.not_mem_nil, or_false] at hr
      rcases hr with rfl | rfl | rfl
      · rw [List.append_nil]
        exact hdirectory home (List.prefix_refl home)
      · exact hconfig
      · exact htaxonomy
  · have hlast : ∀ f ∈ files, (["config", "taxonomy", name] : Location) <+: f.1 →
        (["config", "taxonomy", name] : Location) = f.1 := by
      have hshort : ∀ f ∈ files, f.1.length ≤ 3 := by decide
      exact fun f hf hleads => hleads.eq_of_length_le (hshort f hf)
    have hthree : home ++ (["config", "taxonomy"] : Location) ++ [name] =
      home ++ (["config", "taxonomy", name] : Location) := List.append_assoc _ _ _
    rw [hthree, hbelow, foundAt_eq_some_iff (by decide) hlast]
    simp

end Shipped

end LedgerTags

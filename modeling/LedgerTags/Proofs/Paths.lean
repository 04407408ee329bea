import LedgerTags.Proofs.Outcome
import LedgerTags.FileSystem.Tree
import LedgerTags.Text.Order

/-!
# Paths below a directory

A simplified path is determined by its root and its names, and both can be read off it again
(`root_ofNames`, `names_ofNames`). So going from a directory to a name in it leads to the place
behind that of the directory (`place_join`), and the paths that do so for different names share all
that stands before the name (`exists_join_eq_append`): part by part or character by character, they
stand in the order of the names (`le_join_iff`).
-/

namespace LedgerTags

namespace Text

private theorem splitOn_eq (c : CodePoint) (t : Text) : splitOn c t = List.splitOn c t := by
  induction t with
  | nil => rfl
  | cons d t ih =>
    rw [splitOn, List.splitOn_cons_eq_if_modifyHead, ih]
    by_cases h : d = c
    · simp [h]
    · obtain ⟨p, ps, hp⟩ := List.exists_cons_of_ne_nil (List.splitOn_ne_nil c t)
      simp [h, hp]

private theorem joinWith_eq (sep : Text) (ts : List Text) :
    joinWith sep ts = sep.intercalate ts := by
  induction ts with
  | nil => rfl
  | cons t ts ih =>
    cases ts with
    | nil => simp [joinWith]
    | cons u us => rw [joinWith, ih, List.intercalate_cons_cons]; simp

private theorem not_mem_of_mem_splitOn {c : CodePoint} {t p : Text} (h : p ∈ splitOn c t) :
    c ∉ p := by
  induction t generalizing p with
  | nil => simp_all [splitOn]
  | cons d t ih =>
    rw [splitOn] at h
    split at h
    · rcases List.mem_cons.1 h with rfl | h
      · simp
      · exact ih h
    -- The character belongs to the first part of what the rest is split into.
    · next hd =>
      split at h
      · obtain rfl := List.mem_singleton.1 h
        simpa using Ne.symm hd
      · next q qs hq =>
        rcases List.mem_cons.1 h with rfl | h
        · have hc : c ∉ q := ih (hq ▸ List.mem_cons_self)
          simp [hc, Ne.symm hd]
        · exact ih (hq ▸ List.mem_cons_of_mem q h)

/-- What is joined stands behind something that does not depend on the last text. -/
theorem exists_joinWith_append (sep : Text) (ts : List Text) :
    ∃ front, ∀ t, joinWith sep (ts ++ [t]) = front ++ t := by
  induction ts with
  | nil => exact ⟨[], fun t => rfl⟩
  | cons u us ih =>
    obtain ⟨front, h⟩ := ih
    refine ⟨u ++ sep ++ front, fun t => ?_⟩
    rw [joinWith_eq, List.cons_append, List.intercalate_cons_of_ne_nil (by simp), ← joinWith_eq, h,
      List.append_assoc _ front]

/-! ### The order of texts with a common beginning -/

/-- What two texts begin with alike does not count for their order. -/
theorem lt_append_iff (front s t : Text) : lt (front ++ s) (front ++ t) = lt s t := by
  induction front with
  | nil => rfl
  | cons c front ih => simp [lt, ih]

/-- A text comes not after another if it comes before it or is the same. -/
theorem le_iff {s t : Text} : le s t = true ↔ lt s t = true ∨ s = t := by
  rw [le, Bool.not_eq_true', Bool.eq_false_iff]
  constructor
  · intro h
    rcases lt_or_eq_or_gt s t with k | k | k
    · exact .inl k
    · exact .inr k
    · exact absurd k h
  · rintro (h | rfl) k
    · have hss := lt_trans h k
      rw [lt_irrefl] at hss
      cases hss
    · rw [lt_irrefl] at k
      cases k

private theorem le_append_iff (front s t : Text) : le (front ++ s) (front ++ t) = le s t := by
  rw [le, le, lt_append_iff]

end Text

namespace Path

/-- A name that a path keeps when it is simplified. -/
def IsKept (n : Text) : Prop := n ≠ [] ∧ slash ∉ n ∧ n ≠ ("." : Text)

/-- Names are kept when a path is simplified. -/
theorem IsName.isKept {n : Text} (h : IsName n) : IsKept n := ⟨h.1, h.2.1, h.2.2.1⟩

private theorem isKept_of_mem_names {p n : Text} (h : n ∈ names p) : IsKept n := by
  obtain ⟨hmem, hn⟩ := List.mem_filter.1 h
  simp only [Bool.and_eq_true, Bool.not_eq_true', List.isEmpty_eq_false_iff,
    decide_eq_true_eq] at hn
  exact ⟨hn.1, Text.not_mem_of_mem_splitOn hmem, hn.2⟩

/-- The beginnings of simplified paths. -/
theorem root_cases (p : Text) : root p = [] ∨ root p = [slash] ∨ root p = [slash, slash] := by
  unfold root
  split <;> simp

private theorem names_slash_cons (t : Text) : names (slash :: t) = names t := by
  simp [names, Text.splitOn]

private theorem names_joinWith {ns : List Text} (h : ∀ n ∈ ns, IsKept n) :
    names (Text.joinWith [slash] ns) = ns := by
  by_cases hne : ns = []
  · subst hne
    rfl
  · have hsplit : Text.splitOn slash (Text.joinWith [slash] ns) = ns := by
      rw [Text.splitOn_eq, Text.joinWith_eq]
      exact List.splitOn_intercalate slash (fun n hn => (h n hn).2.1) hne
    rw [names, hsplit, List.filter_eq_self]
    intro n hn
    simp [(h n hn).1, (h n hn).2.2]

private theorem joinWith_ne_nil {ns : List Text} (h : ∀ n ∈ ns, IsKept n) (hne : ns ≠ []) :
    Text.joinWith [slash] ns ≠ [] := by
  intro hnil
  apply hne
  rw [← names_joinWith h, hnil]
  rfl

/-- A path has the names that it is made of. -/
theorem names_ofNames {p : Text} {ns : List Text} (h : ∀ n ∈ ns, IsKept n) :
    names (ofNames (root p) ns) = ns := by
  have hroot : names (root p ++ Text.joinWith [slash] ns) = ns := by
    rcases root_cases p with hr | hr | hr <;>
      simp only [hr, List.nil_append, List.cons_append, names_slash_cons, names_joinWith h]
  unfold ofNames
  dsimp only
  split
  · next hempty =>
    rw [List.isEmpty_iff.1 hempty] at hroot
    rw [← hroot]
    decide
  · exact hroot

private theorem root_append (p : Text) {t : Text} (h : t.head? ≠ some slash) :
    root (root p ++ t) = root p := by
  have htake : t.takeWhile (· = slash) = [] := by
    cases t with
    | nil => rfl
    | cons c t =>
      have hc : c ≠ slash := fun hc => h (congrArg some hc)
      simp [hc]
  -- Up to two slashes are kept, so a beginning is its own beginning.
  rcases root_cases p with hr | hr | hr <;> rw [hr] <;> simp [root, htake]

private theorem head?_joinWith {ns : List Text} (h : ∀ n ∈ ns, IsKept n) :
    (Text.joinWith [slash] ns).head? ≠ some slash := by
  cases ns with
  | nil => simp [Text.joinWith]
  | cons n ns =>
    obtain ⟨hne, hslash, -⟩ := h n List.mem_cons_self
    obtain ⟨c, n, rfl⟩ := List.exists_cons_of_ne_nil hne
    have hc : c ≠ slash := fun hc => hslash (hc ▸ List.mem_cons_self)
    cases ns <;> simpa [Text.joinWith] using hc

/-- A path made of names begins where it was said to. -/
theorem root_ofNames {p : Text} {ns : List Text} (h : ∀ n ∈ ns, IsKept n) :
    root (ofNames (root p) ns) = root p := by
  have hroot := root_append p (head?_joinWith h)
  unfold ofNames
  dsimp only
  split
  · next hempty =>
    rw [List.isEmpty_iff.1 hempty] at hroot
    rw [← hroot]
    decide
  · exact hroot

private theorem isAbsolute_iff (p : Text) : isAbsolute p = !(root p).isEmpty := by
  cases p with
  | nil => rfl
  | cons c p =>
    by_cases hc : c = slash
    · subst hc
      have hlen : ((slash :: p).takeWhile (· = slash)).length ≠ 0 := by simp
      unfold root
      split <;> simp_all [isAbsolute]
    · simp [isAbsolute, root, hc]

/-! ### Going from a directory to a name in it -/

variable (directory : Text)

private theorem names_simplify : names (simplify directory) = names directory :=
  names_ofNames fun _ => isKept_of_mem_names

private theorem root_simplify : root (simplify directory) = root directory :=
  root_ofNames fun _ => isKept_of_mem_names

private theorem isAbsolute_simplify : isAbsolute (simplify directory) = isAbsolute directory := by
  rw [isAbsolute_iff, isAbsolute_iff, root_simplify]

variable {n : Text}

private theorem names_of_isName (h : IsName n) : names n = [n] := by
  have hkept : ∀ m ∈ [n], IsKept m := by simpa using h.isKept
  exact names_joinWith hkept

private theorem root_of_isName (h : IsName n) : root n = [] := by
  obtain ⟨c, n, rfl⟩ := List.exists_cons_of_ne_nil h.1
  have hc : c ≠ slash := fun hc => h.2.1 (hc ▸ List.mem_cons_self)
  simp [root, hc]

/-- A path joined with a name has that name as its last. -/
theorem join_eq (h : IsName n) :
    join (simplify directory) n = ofNames (root directory) (names directory ++ [n]) := by
  have habs : isAbsolute n = false := by rw [isAbsolute_iff, root_of_isName h]; rfl
  rw [join, habs, root_simplify, names_simplify, names_of_isName h]
  rfl

private theorem isKept_of_mem_append (h : IsName n) : ∀ m ∈ names directory ++ [n], IsKept m := by
  intro m hm
  rcases List.mem_append.1 hm with hm | hm
  · exact isKept_of_mem_names hm
  · rw [List.mem_singleton.1 hm]
    exact h.isKept

private theorem names_join (h : IsName n) :
    names (join (simplify directory) n) = names directory ++ [n] := by
  rw [join_eq directory h, names_ofNames (isKept_of_mem_append directory h)]

private theorem root_join (h : IsName n) : root (join (simplify directory) n) = root directory := by
  rw [join_eq directory h, root_ofNames (isKept_of_mem_append directory h)]

/-- The paths to the names of a directory differ in the names alone. -/
theorem exists_join_eq_append :
    ∃ front, ∀ n, IsName n → join (simplify directory) n = front ++ n := by
  obtain ⟨front, hfront⟩ := Text.exists_joinWith_append [slash] (names directory)
  refine ⟨root directory ++ front, fun n h => ?_⟩
  have hne : Text.joinWith [slash] (names directory ++ [n]) ≠ [] :=
    joinWith_ne_nil (isKept_of_mem_append directory h) (by simp)
  rw [join_eq directory h, ofNames, if_neg (by simp [hne]), hfront, List.append_assoc]

private theorem getLast?_join (h : IsName n) :
    (join (simplify directory) n).getLast? ≠ some slash := by
  obtain ⟨front, hfront⟩ := exists_join_eq_append directory
  rw [hfront n h, List.getLast?_append_of_ne_nil front h.1]
  exact fun hlast => h.2.1 (List.mem_of_getLast? hlast)

private theorem leParts_append (front : List Text) (s t : Text) :
    leParts (front ++ [s]) (front ++ [t]) = Text.le s t := by
  induction front with
  | nil =>
    rw [Bool.eq_iff_iff, Text.le_iff]
    simp [leParts]
  | cons p front ih => simp [leParts, Text.lt_irrefl, ih]

/-- The paths to the names of a directory stand in the order of their characters. -/
theorem le_join_iff {m : Text} (hm : IsName m) (hn : IsName n) :
    le (join (simplify directory) m) (join (simplify directory) n) =
      Text.le (join (simplify directory) m) (join (simplify directory) n) := by
  obtain ⟨front, hfront⟩ := exists_join_eq_append directory
  rw [le, parts, parts, root_join directory hm, root_join directory hn, names_join directory hm,
    names_join directory hn, ← List.append_assoc, ← List.append_assoc, leParts_append,
    hfront m hm, hfront n hn, Text.le_append_iff]

private theorem leParts_trans {ps qs rs : List Text} (hpq : leParts ps qs = true)
    (hqr : leParts qs rs = true) : leParts ps rs = true := by
  induction ps generalizing qs rs with
  | nil => rfl
  | cons p ps ih =>
    cases qs with
    | nil => cases hpq
    | cons q qs =>
      cases rs with
      | nil => cases hqr
      | cons r rs =>
        simp only [leParts, Bool.or_eq_true, Bool.and_eq_true, beq_iff_eq] at *
        rcases hpq with h | ⟨rfl, h⟩ <;> rcases hqr with k | ⟨rfl, k⟩
        · exact .inl (Text.lt_trans h k)
        · exact .inl h
        · exact .inl k
        · exact .inr ⟨rfl, ih h k⟩

private theorem leParts_total (ps qs : List Text) :
    leParts ps qs = true ∨ leParts qs ps = true := by
  induction ps generalizing qs with
  | nil => exact .inl rfl
  | cons p ps ih =>
    cases qs with
    | nil => exact .inr rfl
    | cons q qs =>
      simp only [leParts, Bool.or_eq_true, Bool.and_eq_true, beq_iff_eq]
      rcases Text.lt_or_eq_or_gt p q with h | rfl | h
      · exact .inl (.inl h)
      · exact (ih qs).imp (fun h => .inr ⟨rfl, h⟩) fun h => .inr ⟨rfl, h⟩
      · exact .inr (.inl h)

/-- A path comes not after itself. -/
theorem le_refl (p : Text) : le p p = true := (leParts_total (parts p) (parts p)).elim id id

/-- Sorted paths are in order. -/
theorem pairwise_mergeSort (ps : List Text) : (ps.mergeSort le).Pairwise (le · · = true) := by
  have htrans : ∀ p q r, le p q = true → le q r = true → le p r = true :=
    fun _ _ _ => leParts_trans
  have htotal : ∀ p q, (le p q || le q p) = true :=
    fun p q => Bool.or_eq_true_iff.2 (leParts_total (parts p) (parts q))
  exact List.pairwise_mergeSort htrans htotal ps

end Path

/-! ### Places -/

namespace FileSystem

variable {fs : FileSystem}

/-- A path is followed to its last name by following it to the directory that holds the name. -/
theorem follow_append {p q : Location} {ns : List Text} {n : Text} (h : fs.follow p ns = .ok q)
    (hdir : fs.find? q = some .directory) (hn : n ≠ ("..": Text)) :
    fs.follow p (ns ++ [n]) = .ok (q ++ [n]) := by
  induction ns generalizing p with
  | nil =>
    cases h
    simp [follow, hdir, hn]
  | cons m ns ih =>
    rw [follow] at h
    rw [List.cons_append, follow]
    split at h
    · cases h
    · cases h
    · exact ih h

variable {directory n : Text} {p : Location}

private theorem follow_of_place (h : fs.place (Path.simplify directory) = .ok p) :
    fs.follow (if Path.isAbsolute directory then [] else fs.current) (Path.names directory) =
      .ok p := by
  unfold place at h
  rw [Path.isAbsolute_simplify, Path.names_simplify] at h
  split at h
  · cases h
  · obtain ⟨q, hq, h⟩ := bind_eq_ok_iff.1 h
    rw [hq]
    split at h
    · split at h
      · cases h
      · exact h
    · exact h

/-- A name in a directory leads to the place below it. -/
theorem place_join (h : fs.place (Path.simplify directory) = .ok p)
    (hdir : fs.find? p = some .directory) (hn : Path.IsName n) :
    fs.place (Path.join (Path.simplify directory) n) = .ok (p ++ [n]) := by
  have hfollow := follow_append (follow_of_place h) hdir hn.2.2.2
  obtain ⟨front, hfront⟩ := Path.exists_join_eq_append directory
  -- The joined path is not empty and does not end with a slash, so its last name may be a file.
  have hne : Path.join (Path.simplify directory) n ≠ [] := by
    rw [hfront n hn]
    exact List.append_ne_nil_of_right_ne_nil front hn.1
  unfold place
  rw [if_neg (by simpa using hne), Path.isAbsolute_iff, Path.root_join directory hn,
    ← Path.isAbsolute_iff, Path.names_join directory hn, hfollow, ok_bind,
    if_neg (Path.getLast?_join directory hn)]
  rfl

/-- The path of a directory leads to a place where it is found. -/
theorem place_of_isDirectory (h : fs.isDirectory directory = true) :
    ∃ p, fs.place directory = .ok p ∧ fs.find? p = some .directory := by
  unfold isDirectory entry at h
  cases hp : fs.place directory with
  | error e => simp [hp] at h
  | ok p =>
    refine ⟨p, rfl, ?_⟩
    cases hfind : fs.find? p with
    | none => simp [hp, hfind] at h
    | some e => cases e <;> simp_all

/-- A name in a directory is that of a file exactly if a file is found at the place below it. -/
theorem isFile_join_iff (h : fs.place (Path.simplify directory) = .ok p)
    (hdir : fs.find? p = some .directory) (hn : Path.IsName n) :
    fs.isFile (Path.join (Path.simplify directory) n) = true ↔
      ∃ bs, fs.find? (p ++ [n]) = some (.file bs) := by
  unfold isFile entry
  rw [place_join h hdir hn, ok_bind]
  cases hfind : fs.find? (p ++ [n]) with
  | none => simp
  | some e => cases e <;> simp

/-- The file of a name in a directory is read from the place below it. -/
theorem read_join (h : fs.place (Path.simplify directory) = .ok p)
    (hdir : fs.find? p = some .directory) (hn : Path.IsName n) {bs : List UInt8}
    (hbs : fs.find? (p ++ [n]) = some (.file bs)) :
    fs.read (Path.join (Path.simplify directory) n) = .ok bs := by
  unfold read entry
  rw [place_join h hdir hn, ok_bind, hbs]
  rfl

/-- The names in a directory are those behind whose place something is found. -/
theorem mem_names_iff (h : fs.place directory = .ok p) :
    n ∈ fs.names directory ↔ ∃ e, fs.find? (p ++ [n]) = some e := by
  have hfind : fs.find? (p ++ [n]) = fs.entries.lookup (p ++ [n]) := by simp [find?]
  rw [hfind, ← Option.isSome_iff_exists, List.lookup_isSome_iff, names, h]
  simp only [List.mem_filterMap, Option.ite_none_right_eq_some, beq_iff_eq]
  constructor
  · rintro ⟨e, he, rfl, hn⟩
    exact ⟨e, he, List.dropLast_append_getLast? n hn⟩
  · rintro ⟨e, he, hp⟩
    exact ⟨e, he, by simp [← hp]⟩

/-- No name occurs twice in a directory. -/
theorem nodup_names (fs : FileSystem) (path : Text) : (fs.names path).Nodup := by
  unfold names
  split
  · exact List.nodup_nil
  · refine List.Pairwise.filterMap _ (fun a b hne m hm n hn hmn => ?_) fs.distinct
    simp only [Option.ite_none_right_eq_some] at hm hn
    obtain ⟨rfl, hm⟩ := hm
    apply hne
    rw [← List.dropLast_append_getLast? m hm, ← List.dropLast_append_getLast? n hn.2, hn.1, hmn]

/-- Whatever is found in a directory has a name that a path can spell. -/
theorem isName_of_find? {e : Entry} (h : fs.find? (p ++ [n]) = some e) : Path.IsName n := by
  have hfind : fs.find? (p ++ [n]) = fs.entries.lookup (p ++ [n]) := by simp [find?]
  rw [hfind, List.lookup_eq_some_iff] at h
  obtain ⟨before, after, hentries, -⟩ := h
  exact fs.named (p ++ [n], e) (hentries ▸ by simp) n (by simp)

/-! ### The order of the entries -/

/-- What is found below the root are the entries of the tree. -/
theorem find?_eq_some_iff {q : Location} (hq : q ≠ []) {e : Entry} :
    fs.find? q = some e ↔ (q, e) ∈ fs.entries := by
  rw [find?, if_neg (by simpa using hq), List.lookup_eq_some_iff]
  constructor
  · rintro ⟨before, after, hentries, -⟩
    rw [hentries]
    simp
  · intro hmem
    obtain ⟨before, after, hentries⟩ := List.append_of_mem hmem
    refine ⟨before, after, hentries, fun x hx => ?_⟩
    have hne := (List.pairwise_append.1 (hentries ▸ fs.distinct)).2.2 x hx (q, e)
      List.mem_cons_self
    simpa using hne.symm

variable {fs' : FileSystem} (hentries : fs'.entries.Perm fs.entries)

include hentries

/-- The order of the entries does not count for what is found. -/
theorem find?_of_perm (q : Location) : fs'.find? q = fs.find? q := by
  by_cases hq : q = []
  · subst hq
    rfl
  · refine Option.ext fun e => ?_
    rw [find?_eq_some_iff hq, find?_eq_some_iff hq, hentries.mem_iff]

/-- The order of the entries does not count for where names lead. -/
theorem follow_of_perm (ns : List Text) (q : Location) : fs'.follow q ns = fs.follow q ns := by
  induction ns generalizing q with
  | nil => rfl
  | cons m ns ih =>
    rw [follow, follow, find?_of_perm hentries]
    split
    · rfl
    · rfl
    · exact ih _

/-- What a path leads to does not depend on the order in which a tree holds its entries. -/
theorem entry_of_perm (hcurrent : fs'.current = fs.current) : fs'.entry = fs.entry := by
  funext path
  simp only [entry, place, find?_of_perm hentries, follow_of_perm hentries, hcurrent]

end FileSystem

end LedgerTags

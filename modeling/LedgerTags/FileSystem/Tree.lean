import LedgerTags.Error
import LedgerTags.FileSystem.Path
import LedgerTags.Text.Utf8

/-!
# Files and directories

A tree of files, and the directory in which paths begin that are not absolute. Each place in the
tree is given once, and by names that a path can spell. A path is followed name by name, and each
name but the last has to name a directory. Reading a file that is not there fails with what is found
instead. Whatever is in a tree may be read and written: there are no permissions, and neither names
nor paths can be too long.
-/

namespace LedgerTags

/-- A place in the tree: the names that lead there from the root. -/
abbrev Location := List Text

/-- What is found at a place. -/
inductive Entry where
  | file (octets : List UInt8)
  | directory
deriving DecidableEq

/-- A tree of files. -/
structure FileSystem where
  /-- What is found at the places below the root. -/
  entries : List (Location × Entry) := []
  /-- The directory in which paths begin. -/
  current : Location := []
  named : ∀ e ∈ entries, ∀ n ∈ e.1, Path.IsName n := by decide
  distinct : entries.Pairwise (fun a b => a.1 ≠ b.1) := by decide

namespace FileSystem

/-- What is found at a place. -/
def find? (fs : FileSystem) (p : Location) : Option Entry :=
  if p.isEmpty then some .directory else fs.entries.lookup p

/-- Follows names from a directory up to the last one. -/
def follow (fs : FileSystem) : Location → List Text → Except FileFault Location
  | p, [] => .ok p
  | p, n :: ns =>
    match fs.find? p with
    | none => .error .missing
    | some (.file _) => .error .notDirectory
    | some .directory => follow fs (if n = (".." : Text) then p.dropLast else p ++ [n]) ns

/-- The place that a path leads to. Whether something is found there is another question, unless
the path says by a slash at its end that it is a directory. -/
def place (fs : FileSystem) (path : Text) : Except FileFault Location :=
  if path.isEmpty then .error .missing
  else do
    let p ← fs.follow (if Path.isAbsolute path then [] else fs.current) (Path.names path)
    if path.getLast? = some Path.slash then
      match fs.find? p with
      | some (.file _) => throw .notDirectory
      | _ => return p
    else return p

/-- What is found at the end of a path. -/
def entry (fs : FileSystem) (path : Text) : Except FileFault Entry := do
  match fs.find? (← fs.place path) with
  | some e => return e
  | none => throw .missing

/-- Whether something is found at the end of a path. -/
def contains (fs : FileSystem) (path : Text) : Bool := (fs.entry path).toOption.isSome

/-- Whether a directory is found at the end of a path. -/
def isDirectory (fs : FileSystem) (path : Text) : Bool :=
  match fs.entry path with
  | .ok .directory => true
  | _ => false

/-- Whether a file is found at the end of a path. -/
def isFile (fs : FileSystem) (path : Text) : Bool :=
  match fs.entry path with
  | .ok (.file _) => true
  | _ => false

/-- The octets of a file. -/
def read (fs : FileSystem) (path : Text) : Outcome (List UInt8) :=
  match fs.entry path with
  | .ok (.file bs) => .ok bs
  | .ok .directory => .error (.file .isDirectory path)
  | .error fault => .error (.file fault path)

/-- The text of a file. -/
def readText (fs : FileSystem) (path : Text) : Outcome Text := do
  match Text.Utf8.decode? (← fs.read path) with
  | some t => return t
  | none => throw .undecodable

/-- The names in a directory, in the order in which the tree happens to hold them. -/
def names (fs : FileSystem) (path : Text) : List Text :=
  match fs.place path with
  | .error _ => []
  | .ok p => fs.entries.filterMap fun e => if e.1.dropLast = p then e.1.getLast? else none

/-- The absolute path of a place. -/
def absolute (p : Location) : Text := Path.ofNames [Path.slash] p

/-- The entries with one at a place, in place of what was there. -/
def putEntry (entries : List (Location × Entry)) (p : Location) (e : Entry) :
    List (Location × Entry) :=
  if (entries.lookup p).isSome then entries.map fun x => if x.1 = p then (p, e) else x
  else entries ++ [(p, e)]

private theorem mem_putEntry {entries : List (Location × Entry)} {p : Location} {e : Entry}
    {x : Location × Entry} (h : x ∈ putEntry entries p e) : x = (p, e) ∨ x ∈ entries := by
  unfold putEntry at h
  split at h
  · obtain ⟨y, hy, rfl⟩ := List.mem_map.1 h
    split
    · exact .inl rfl
    · exact .inr hy
  · rcases List.mem_append.1 h with h | h
    · exact .inr h
    · exact .inl (List.mem_singleton.1 h)

private theorem distinct_putEntry {entries : List (Location × Entry)} (p : Location) (e : Entry)
    (h : entries.Pairwise fun a b => a.1 ≠ b.1) :
    (putEntry entries p e).Pairwise fun a b => a.1 ≠ b.1 := by
  unfold putEntry
  split
  · have hkey (x : Location × Entry) : (if x.1 = p then (p, e) else x).1 = x.1 := by
      split
      · next hx => exact hx.symm
      · rfl
    refine List.pairwise_map.2 (h.imp fun hne => ?_)
    rwa [hkey, hkey]
  · next hnone =>
    refine List.pairwise_append.2 ⟨h, List.pairwise_singleton _ _, fun x hx y hy => ?_⟩
    rw [List.mem_singleton.1 hy]
    intro hxp
    exact hnone (List.lookup_isSome_iff.2 ⟨x, hx, by simp [hxp]⟩)

/-- The tree with an entry at a place, in place of what was there. Nothing can be put at a place
whose names no path spells. -/
def put (fs : FileSystem) (p : Location) (e : Entry) : FileSystem :=
  if h : ∀ n ∈ p, Path.IsName n then
    { fs with
      entries := putEntry fs.entries p e
      named := fun x hx => (mem_putEntry hx).elim (fun hx => hx ▸ h) (fs.named x)
      distinct := distinct_putEntry p e fs.distinct }
  else fs

/-- The tree with the directories that lead to a place. -/
def makeParents (fs : FileSystem) (p : Location) : FileSystem :=
  ((List.range p.length).drop 1).foldl
    (fun fs n => if (fs.find? (p.take n)).isSome then fs else fs.put (p.take n) .directory) fs

/-- The tree with an entry at a place and the directories that lead there. -/
def add (fs : FileSystem) (p : Location) (e : Entry) : FileSystem := (fs.makeParents p).put p e

/-- Writes a file. A path that ends in a slash names no file. -/
def write (fs : FileSystem) (path : Text) (octets : List UInt8) : Outcome FileSystem :=
  match fs.place path with
  | .error fault => .error (.file fault path)
  | .ok p =>
    match fs.find? p with
    | some .directory => .error (.file .isDirectory path)
    | some (.file _) => .ok (fs.put p (.file octets))
    | none =>
      if path.getLast? = some Path.slash then .error (.file .isDirectory path) else
      match fs.find? p.dropLast with
      | some .directory => .ok (fs.put p (.file octets))
      | some (.file _) => .error (.file .notDirectory path)
      | none => .error (.file .missing path)

end FileSystem

end LedgerTags

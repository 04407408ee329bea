import LedgerTags.Text.Basic

/-!
# Paths

A path is a text of names with slashes between them; it is absolute if it begins with a slash. The
simplified form of a path has no empty names and no names of one point, which stand for the place
that they are in; names of two points stay.
-/

namespace LedgerTags.Path

/-- The slash. -/
def slash : CodePoint := '/'

/-- Whether a path begins at the root. -/
def isAbsolute (p : Text) : Bool := p.head? == some slash

/-- A name that something in a directory can have: it is not empty, it has no slash in it, and it is
not one of the two names that lead to the place itself and to the one above it. -/
def IsName (n : Text) : Prop := n ≠ [] ∧ slash ∉ n ∧ n ≠ ("." : Text) ∧ n ≠ (".." : Text)

instance (n : Text) : Decidable (IsName n) := inferInstanceAs (Decidable (_ ∧ _))

/-- The names of a path that lead somewhere else. -/
def names (p : Text) : List Text :=
  (Text.splitOn slash p).filter fun n => !n.isEmpty && n ≠ ("." : Text)

/-- The slashes that a simplified path begins with: one, or two for a path that begins with exactly
two. -/
def root (p : Text) : Text :=
  match (p.takeWhile (· = slash)).length with
  | 0 => []
  | 2 => [slash, slash]
  | _ => [slash]

/-- The path of names behind a root. -/
def ofNames (root : Text) (names : List Text) : Text :=
  let p := root ++ Text.joinWith [slash] names
  if p.isEmpty then "." else p

/-- The simplified form of a path. -/
def simplify (p : Text) : Text := ofNames (root p) (names p)

/-- The simplified path that leads from one path along another. -/
def join (p q : Text) : Text :=
  if isAbsolute q then simplify q else ofNames (root p) (names p ++ names q)

/-- What paths are compared by: the root, if there is one, and the names. -/
def parts (p : Text) : List Text := (if (root p).isEmpty then [] else [root p]) ++ names p

/-- Lexicographic order of parts. -/
def leParts : List Text → List Text → Bool
  | [], _ => true
  | _ :: _, [] => false
  | a :: ps, b :: qs => Text.lt a b || (a == b && leParts ps qs)

/-- Whether a path does not stand behind another one, part by part. -/
def le (p q : Text) : Bool := leParts (parts p) (parts q)

/-- The ending of a name from its last point on. A point that begins or ends a name does not begin
an ending. -/
def ending (name : Text) : Text :=
  let tail := (name.reverse.takeWhile (· ≠ CodePoint.ofChar '.')).reverse
  if tail.isEmpty || name.length ≤ tail.length + 1 then []
  else CodePoint.ofChar '.' :: tail

end LedgerTags.Path

import LedgerTags.Text.CodePoint

/-!
# Similar texts

How alike two texts are: the characters of the longest run that they have in common, and of the
longest common runs before it and behind it, and so on, in relation to all their characters.
`closeMatches` finds the texts of a list that are like a given one, for hints about mistyped names.
-/

namespace LedgerTags.Text

/-- The length of the common start of two texts. -/
def commonStart : Text → Text → Nat
  | a :: s, b :: t => if a = b then commonStart s t + 1 else 0
  | _, _ => 0

/-- A run of characters that occurs in two texts. -/
structure CommonRun where
  /-- Where it starts in the first text. -/
  first : Nat := 0
  /-- Where it starts in the second text. -/
  second : Nat := 0
  /-- How long it is. -/
  size : Nat := 0
deriving Repr

/-- The longer of two runs, the earlier one if they are equally long. -/
def CommonRun.longer (r s : CommonRun) : CommonRun := if r.size < s.size then s else r

/-- The longest common run that starts at the place `i` of the first text, whose rest is `s`, and in
the second text from the place `j` on, whose rest is `t`. -/
def longestRunFrom (i : Nat) (s : Text) (best : CommonRun) : (j : Nat) → (t : Text) → CommonRun
  | _, [] => best
  | j, b :: t => longestRunFrom i s (best.longer ⟨i, j, commonStart s (b :: t)⟩) (j + 1) t

/-- The longest common run that starts in the first text from the place `i` on, whose rest is the
last argument. -/
def longestRunIn (t : Text) (best : CommonRun) : (i : Nat) → (s : Text) → CommonRun
  | _, [] => best
  | i, a :: s => longestRunIn t (longestRunFrom i (a :: s) best 0 t) (i + 1) s

/-- The longest common run of two texts, the earliest in the first text, and there the earliest in
the second. -/
def longestRun (s t : Text) : CommonRun := longestRunIn t {} 0 s

/-- How many characters of two texts match, with at most `fuel` runs one inside the other. -/
def matchingFrom : (fuel : Nat) → Text → Text → Nat
  | 0, _, _ => 0
  | fuel + 1, s, t =>
    let r := longestRun s t
    if r.size = 0 then 0
    else
      matchingFrom fuel (s.take r.first) (t.take r.second) + r.size +
        matchingFrom fuel (s.drop (r.first + r.size)) (t.drop (r.second + r.size))

/-- How many characters of two texts match. -/
def matching (s t : Text) : Nat := matchingFrom s.length s t

/-- Whether two texts are alike: of all their characters three fifths match. -/
def isClose (s t : Text) : Bool := 3 * (s.length + t.length) ≤ 10 * matching s t

/-- Whether `s` is less like `t` than `u` is; of two that are equally like it the first in order is
less so. -/
def isFarther (t s u : Text) : Bool :=
  let a := matching s t * (u.length + t.length)
  let b := matching u t * (s.length + t.length)
  a < b || (a == b && Text.lt s u)

/-- The most texts that are offered. -/
def closeLimit : Nat := 3

/-- The texts of a list that are like `t`, the closest first. -/
def closeMatches (t : Text) (known : List Text) : List Text :=
  ((known.filter (isClose · t)).mergeSort fun s u => !isFarther t s u).take closeLimit

end LedgerTags.Text

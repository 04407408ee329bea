import LedgerTags.Pattern.Tree

/-!
# Widths

The least and the greatest number of characters that a pattern can match. A greatest number that is
unbounded, or beyond any text, is `maxWidth`.
-/

namespace LedgerTags.Pattern

/-- More characters than any text has. -/
def maxWidth : Nat := 0x10000000000000000

/-- Both bounds cut at `maxWidth`. -/
def capWidth (w : Nat × Nat) : Nat × Nat := (min w.1 maxWidth, min w.2 maxWidth)

mutual

/-- The bounds of one node, given those of the numbered groups. -/
def Node.width (groups : Nat → Nat × Nat) : Node → Nat × Nat
  | .literal _ | .notLiteral _ | .any | .set _ _ => (1, 1)
  | .anchor _ => (0, 0)
  | .look _ _ _ => (0, 0)
  | .group _ _ _ body => sequenceWidth groups body
  | .atomic body => sequenceWidth groups body
  | .branch alternatives => branchWidth groups alternatives
  | .repeat _ lo hi body =>
    let (i, j) := sequenceWidth groups body
    match hi with
    | some hi => (i * lo, j * hi)
    | none => (i * lo, if j = 0 then 0 else maxWidth)
  | .reference g => groups g
  | .conditional _ yes no =>
    let (i, j) := sequenceWidth groups yes
    match no with
    | some no =>
      let (l, h) := sequenceWidth groups no
      (min i l, max j h)
    | none => (0, j)

/-- The bounds of a sequence. -/
def sequenceWidth (groups : Nat → Nat × Nat) (nodes : List Node) : Nat × Nat :=
  capWidth (sumWidth groups nodes)

/-- The sums of the bounds of the nodes of a sequence. -/
def sumWidth (groups : Nat → Nat × Nat) : List Node → Nat × Nat
  | [] => (0, 0)
  | n :: ns =>
    let (i, j) := n.width groups
    let (l, h) := sumWidth groups ns
    (i + l, j + h)

/-- The least and greatest bound of alternatives. -/
def branchWidth (groups : Nat → Nat × Nat) : List (List Node) → Nat × Nat
  | [] => (maxWidth, 0)
  | a :: as =>
    let (i, j) := sequenceWidth groups a
    let (l, h) := branchWidth groups as
    (min i l, max j h)

end

end LedgerTags.Pattern

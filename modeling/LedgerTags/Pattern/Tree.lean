import LedgerTags.Text.Class

/-!
# Pattern trees

A pattern is a sequence of nodes. The tree is close to the text of the pattern: options such as
"ignore case" are still attached to the groups that set them, and a set of characters is still a
list of characters, ranges and categories.
-/

namespace LedgerTags.Pattern

/-- The options of a pattern or of one of its groups. -/
structure Options where
  /-- Letter case does not matter. -/
  ignoreCase : Bool := false
  /-- Line starts and ends count as text starts and ends. -/
  multiline : Bool := false
  /-- The dot matches line feeds too. -/
  dotAll : Bool := false
  /-- Blanks and comments in the pattern are skipped. -/
  verbose : Bool := false
  /-- Categories and letter case are those of ASCII. -/
  ascii : Bool := false
  /-- Categories and letter case are those of all scripts. -/
  unicode : Bool := false
  /-- Repeats are not allowed. -/
  template : Bool := false
deriving DecidableEq, Repr, Inhabited

namespace Options

/-- Both lists of options together. -/
def union (a b : Options) : Options where
  ignoreCase := a.ignoreCase || b.ignoreCase
  multiline := a.multiline || b.multiline
  dotAll := a.dotAll || b.dotAll
  verbose := a.verbose || b.verbose
  ascii := a.ascii || b.ascii
  unicode := a.unicode || b.unicode
  template := a.template || b.template

/-- The options of `a` that are not in `b`. -/
def without (a b : Options) : Options where
  ignoreCase := a.ignoreCase && !b.ignoreCase
  multiline := a.multiline && !b.multiline
  dotAll := a.dotAll && !b.dotAll
  verbose := a.verbose && !b.verbose
  ascii := a.ascii && !b.ascii
  unicode := a.unicode && !b.unicode
  template := a.template && !b.template

/-- Whether two lists of options have one in common. -/
def overlap (a b : Options) : Bool :=
  a.ignoreCase && b.ignoreCase || a.multiline && b.multiline || a.dotAll && b.dotAll ||
    a.verbose && b.verbose || a.ascii && b.ascii || a.unicode && b.unicode ||
    a.template && b.template

/-- The options inside a group that turns some on and others off; the choice of a repertoire
replaces the one outside. -/
def inside (outer added removed : Options) : Options :=
  let outer :=
    if added.ascii || added.unicode then { outer with ascii := false, unicode := false } else outer
  (outer.union added).without removed

/-- The option of a letter. -/
def ofLetter? (c : CodePoint) : Option Options :=
  match c.toChar with
  | 'i' => some { ignoreCase := true }
  | 'm' => some { multiline := true }
  | 's' => some { dotAll := true }
  | 'x' => some { verbose := true }
  | 'a' => some { ascii := true }
  | 't' => some { template := true }
  | 'u' => some { unicode := true }
  | _ => none

end Options

/-- Places between characters. -/
inductive Anchor where
  /-- The start of the text, or of a line. -/
  | lineStart
  /-- The end of the text, or of a line. -/
  | lineEnd
  /-- The start of the text. -/
  | textStart
  /-- The end of the text. -/
  | textEnd
  /-- Where a word begins or ends. -/
  | wordBoundary
  /-- Where no word begins or ends. -/
  | notWordBoundary
deriving DecidableEq, Repr

/-- Kinds of characters. -/
inductive Category where
  | digit
  | space
  | word
deriving DecidableEq, Repr

/-- An element of a set of characters. -/
inductive SetItem where
  | code (c : CodePoint)
  | range (lo hi : CodePoint)
  | category (negated : Bool) (k : Category)
deriving DecidableEq, Repr

/-- How a repeat chooses its number of turns. -/
inductive RepeatKind where
  /-- As many as possible. -/
  | greedy
  /-- As few as possible. -/
  | lazy
  /-- As many as possible, and no fewer afterwards. -/
  | possessive
deriving DecidableEq, Repr

/-- A part of a pattern. -/
inductive Node where
  | literal (c : CodePoint)
  | notLiteral (c : CodePoint)
  | any
  | set (negated : Bool) (items : List SetItem)
  | anchor (a : Anchor)
  /-- A group with its number, if it is one that captures, and the options it changes. -/
  | group (number : Option Nat) (added removed : Options) (body : List Node)
  /-- A group that is not entered again once it has matched. -/
  | atomic (body : List Node)
  /-- What has to follow, or to precede, or must not. -/
  | look (behind negated : Bool) (body : List Node)
  | branch (alternatives : List (List Node))
  | repeat (kind : RepeatKind) (min : Nat) (max : Option Nat) (body : List Node)
  | reference (group : Nat)
  | conditional (group : Nat) (yes : List Node) (no : Option (List Node))

namespace Node

/-- Equality of the nodes that have no parts; other nodes count as different. -/
def sameLeaf : Node → Node → Bool
  | literal c, literal d => c = d
  | notLiteral c, notLiteral d => c = d
  | any, any => true
  | set n xs, set m ys => n = m && xs = ys
  | anchor a, anchor b => a = b
  | reference g, reference h => g = h
  | _, _ => false

end Node

end LedgerTags.Pattern

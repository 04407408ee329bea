import LedgerTags.Pattern.Tree
import LedgerTags.Text.Case

/-!
# Tests of single characters

A literal or a set of a pattern becomes a test of one character. Where letter case does not matter
the character is first mapped to lower case, and the test asks whether it is among the lower-case
forms of the set, or among their variants: letters whose upper case is the same although their lower
case differs. Ranges beyond the basic plane are tested as they stand, and once more on the upper
case of the character.
-/

namespace LedgerTags.Pattern

/-- Classes of lower-case letters with a common upper case. -/
def caseVariants : List (List Nat) := [
  [0x69, 0x131], [0x73, 0x17f], [0xb5, 0x3bc], [0x345, 0x3b9, 0x1fbe], [0x390, 0x1fd3],
  [0x3b0, 0x1fe3], [0x3b2, 0x3d0], [0x3b5, 0x3f5], [0x3b8, 0x3d1], [0x3ba, 0x3f0],
  [0x3c0, 0x3d6], [0x3c1, 0x3f1], [0x3c2, 0x3c3], [0x3c6, 0x3d5], [0x432, 0x1c80],
  [0x434, 0x1c81], [0x43e, 0x1c82], [0x441, 0x1c83], [0x442, 0x1c84, 0x1c85], [0x44a, 0x1c86],
  [0x463, 0x1c87], [0x1c88, 0xa64b], [0x1e61, 0x1e9b], [0xfb05, 0xfb06]]

/-- A lower-case letter with its variants. -/
def variantsOf (c : CodePoint) : List CodePoint :=
  match caseVariants.find? fun cs => cs.contains c.val with
  | some cs => cs.map CodePoint.ofNat
  | none => [c]

/-- How the character is mapped before it is tested. -/
inductive Fold where
  /-- It stays as it is. -/
  | none
  /-- ASCII letters become small. -/
  | ascii
  /-- It becomes lower case. -/
  | unicode
deriving DecidableEq, Repr

/-- The small letter of an ASCII letter. -/
def asciiLower (c : CodePoint) : CodePoint :=
  if 65 ≤ c.val ∧ c.val ≤ 90 then CodePoint.ofNat (c.val + 32) else c

/-- The mapped character. -/
def Fold.apply : Fold → CodePoint → CodePoint
  | .none, c => c
  | .ascii, c => asciiLower c
  | .unicode, c => c.lower

/-- A part of a test; the mapped character passes the test if it passes one of the parts. -/
inductive TestItem where
  /-- It is this code point. -/
  | code (c : CodePoint)
  /-- It lies between two bounds. -/
  | between (lo hi : CodePoint)
  /-- It or a variant of it is the lower case of a code point between two bounds. -/
  | lowerOf (lo hi : CodePoint)
  /-- It is the small letter of a code point between two bounds, for ASCII letters. -/
  | asciiLowerOf (lo hi : CodePoint)
  /-- It, or its upper case, lies between two bounds. -/
  | eitherCase (lo hi : CodePoint)
  /-- It is of a category, that of ASCII or that of all scripts. -/
  | category (ascii negated : Bool) (k : Category)
deriving DecidableEq, Repr

/-- Whether a character lies between two bounds. -/
def isBetween (lo hi c : CodePoint) : Bool := lo ≤ c && c ≤ hi

/-- Whether a character is of a category. -/
def Category.holds (ascii : Bool) (k : Category) (c : CodePoint) : Bool :=
  match k, ascii with
  | .digit, false => c.isDecimal
  | .digit, true => c.isAsciiDigit
  | .space, false => c.isSpace
  | .space, true => (9 ≤ c.val && c.val ≤ 13) || c.val == 32
  | .word, false => c.isWord
  | .word, true => c.isAsciiDigit || c.isAsciiLetter || c.val == 95

/-- Whether the mapped character passes a part of a test. -/
def TestItem.holds (c : CodePoint) : TestItem → Bool
  | code d => c = d
  | between lo hi => isBetween lo hi c
  | lowerOf lo hi => (variantsOf c).any fun v => v.lowerSources.any (isBetween lo hi)
  | asciiLowerOf lo hi =>
    (isBetween lo hi c && asciiLower c = c) ||
      (97 ≤ c.val && c.val ≤ 122 && isBetween lo hi (CodePoint.ofNat (c.val - 32)))
  | eitherCase lo hi => isBetween lo hi c || isBetween lo hi c.upper
  | category ascii negated k => Category.holds ascii k c != negated

/-- A test of one character. -/
inductive CharTest where
  /-- Every character. -/
  | any
  /-- Every character but the line feed. -/
  | notFeed
  /-- The mapped character passes one of the parts, or none of them. -/
  | oneOf (fold : Fold) (negated : Bool) (items : List TestItem)
deriving DecidableEq, Repr

/-- Whether a character passes a test. -/
def CharTest.holds (c : CodePoint) : CharTest → Bool
  | any => true
  | notFeed => c.val != 10
  | oneOf fold negated items =>
    let d := fold.apply c
    items.any (TestItem.holds d) != negated

/-- How letter case is treated under some options. -/
def Options.fold (o : Options) : Fold :=
  if !o.ignoreCase then .none else if o.unicode then .unicode else .ascii

/-- A code point with an upper or lower case under a mapping. -/
def Fold.isCased : Fold → CodePoint → Bool
  | .none, _ => false
  | .ascii, c => c.isAsciiLetter
  | .unicode, c => c.isCased

/-- The test for a single literal. -/
def literalTest (o : Options) (negated : Bool) (c : CodePoint) : CharTest :=
  if !o.fold.isCased c then .oneOf .none negated [.code c]
  else
    match o.fold with
    | .none => .oneOf .none negated [.code c]
    | .ascii => .oneOf .ascii negated [.code (asciiLower c)]
    | .unicode => .oneOf .unicode negated ((variantsOf c.lower).map .code)

/-- The last code point of the basic plane. -/
def basicPlaneEnd : CodePoint := CodePoint.ofNat 0xFFFF

/-- Whether a set makes a difference between letter cases. -/
def SetItem.isCased (fold : Fold) : SetItem → Bool
  | .category .. => false
  | .code c => basicPlaneEnd < c || fold.isCased c
  | .range lo hi =>
    basicPlaneEnd < hi ||
      match fold with
      | .none => false
      | .ascii => (lo.val ≤ 90 && 65 ≤ hi.val) || (lo.val ≤ 122 && 97 ≤ hi.val)
      | .unicode => CodePoint.casedBetween lo.val hi.val

/-- The parts of a test for an element of a set whose letter case matters. -/
def SetItem.foldedTests (o : Options) : SetItem → List TestItem
  | .category negated k => [.category (!o.unicode) negated k]
  | .code c =>
    if basicPlaneEnd < c then [.code c]
    else if o.unicode then (variantsOf c.lower).map .code
    else [.code (asciiLower c)]
  | .range lo hi =>
    let part (a b : CodePoint) : List TestItem :=
      if b < a then [] else if o.unicode then [.lowerOf a b] else [.asciiLowerOf a b]
    if basicPlaneEnd < hi then part lo basicPlaneEnd ++ [.eitherCase lo hi] else part lo hi

/-- The parts of a test for an element of a set as it stands. -/
def SetItem.plainTests (o : Options) : SetItem → List TestItem
  | .category negated k => [.category (!o.unicode) negated k]
  | .code c => [.code c]
  | .range lo hi => [.between lo hi]

/-- The test for a set. -/
def setTest (o : Options) (negated : Bool) (items : List SetItem) : CharTest :=
  match o.fold with
  | .none => .oneOf .none negated (items.flatMap (SetItem.plainTests o))
  | fold =>
    if items.any (SetItem.isCased fold) then
      .oneOf fold negated (items.flatMap (SetItem.foldedTests o))
    else .oneOf .none negated (items.flatMap (SetItem.plainTests o))

end LedgerTags.Pattern

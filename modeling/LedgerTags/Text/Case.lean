import LedgerTags.Text.CodePoint
import LedgerTags.Text.Class
import LedgerTags.Text.Table.CaseContext
import LedgerTags.Text.Table.CaseRun

/-!
# Letter case

Lower and upper case of single code points and of texts. Two rules go beyond a code point by code
point mapping: the dotted capital I (`U+0130`) becomes two code points, and a capital sigma becomes
the final small sigma when a cased letter stands before it and none after it, case-ignorable
characters being passed over on both sides.
-/

namespace LedgerTags

namespace CodePoint

/-- The lower-case mapping of one code point, the first code point where it has several. -/
def lower (c : CodePoint) : CodePoint :=
  if c.val < 128 then
    if 65 ≤ c.val ∧ c.val ≤ 90 then ofNat (c.val + 32) else c
  else if c.val = 0x130 then 'i'
  else
    match Text.Table.CaseRun.find? c.val Text.Table.lowercase with
    | some n => ofNat n
    | none => c

/-- The upper-case mapping of one code point in full. -/
def upperFull (c : CodePoint) : Text :=
  if c.val < 128 then
    if 97 ≤ c.val ∧ c.val ≤ 122 then [ofNat (c.val - 32)] else [c]
  else
    match Text.Table.CaseRun.find? c.val Text.Table.uppercase with
    | some n => [ofNat n]
    | none =>
      match Text.Table.uppercaseLong.lookup c.val with
      | some ns => ns.map ofNat
      | none => [c]

/-- The upper-case mapping of one code point, the first code point where it has several. -/
def upper (c : CodePoint) : CodePoint := c.upperFull.headD c

/-- A code point that either mapping changes. -/
def isCased (c : CodePoint) : Bool := c.lower != c || c.upper != c

/-- The code points whose lower-case mapping is `c`. -/
def lowerSources (c : CodePoint) : List CodePoint :=
  let own := if c.lower = c then [c] else []
  let ascii := if 97 ≤ c.val ∧ c.val ≤ 122 then [ofNat (c.val - 32)] else []
  let dotted := if c.val = 105 then [ofNat 0x130] else []
  own ++ ascii ++ dotted ++
    (Text.Table.CaseRun.sources c.val Text.Table.lowercase).map ofNat

/-- Whether a cased code point lies between two bounds. -/
def casedBetween (lo hi : Nat) : Bool :=
  (lo ≤ 90 && 65 ≤ hi) || (lo ≤ 122 && 97 ≤ hi) || (lo ≤ 0x130 && 0x130 ≤ hi) ||
    Text.Table.CaseRun.meets lo hi Text.Table.lowercase ||
    Text.Table.CaseRun.meets lo hi Text.Table.uppercase ||
    Text.Table.uppercaseLong.any fun e => lo ≤ e.1 && e.1 ≤ hi

/-- A cased character that is not passed over in the search for the neighbours of a sigma. -/
def isCasedContext (c : CodePoint) : Bool :=
  if c.val < 128 then c.isAsciiLetter else Text.Table.covers c.val Text.Table.cased

/-- A character that is passed over in the search for the neighbours of a sigma. -/
def isCaseIgnorable (c : CodePoint) : Bool :=
  if c.val < 128 then [39, 46, 58, 94, 96].contains c.val
  else Text.Table.covers c.val Text.Table.caseIgnorable

end CodePoint

namespace Text

/-- Whether the nearest character that is not case-ignorable is cased. -/
def meetsCased : Text → Bool
  | [] => false
  | c :: t => if c.isCaseIgnorable then meetsCased t else c.isCasedContext

/-- Lower case of a text whose preceding characters are `before`, nearest first. -/
def lowerAfter (before : Text) : Text → Text
  | [] => []
  | c :: t =>
    let image : Text :=
      if c.val = 0x3a3 then
        if meetsCased before && !meetsCased t then [CodePoint.ofNat 0x3c2]
        else [CodePoint.ofNat 0x3c3]
      else if c.val = 0x130 then ['i', CodePoint.ofNat 0x307]
      else [c.lower]
    image ++ lowerAfter (c :: before) t

/-- Lower case. -/
def lower (t : Text) : Text := lowerAfter [] t

/-- Upper case. -/
def upper (t : Text) : Text := t.flatMap CodePoint.upperFull

end Text

end LedgerTags

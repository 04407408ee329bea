import LedgerTags.Text.CodePoint
import LedgerTags.Text.Table.Alphanumeric
import LedgerTags.Text.Table.Digit
import LedgerTags.Text.Table.Identifier
import LedgerTags.Text.Table.Number
import LedgerTags.Text.Table.Unprintable

/-!
# Classes of characters

The character classes that readers, patterns and printers ask for. Each one is decided by a short
rule on ASCII and by a table of ranges beyond it.
-/

namespace LedgerTags

namespace Text.Table

/-- Whether `c` lies in one of the ascending ranges. -/
def covers (c : Nat) : List (Nat × Nat) → Bool
  | [] => false
  | (lo, hi) :: rs => if c < lo then false else c ≤ hi || covers c rs

end Text.Table

namespace CodePoint

/-- White space: what surrounds a field and separates words. -/
def isSpace (c : CodePoint) : Bool :=
  (9 ≤ c.val && c.val ≤ 13) || (28 ≤ c.val && c.val ≤ 32) || c.val == 0x85 || c.val == 0xa0 ||
    c.val == 0x1680 || (0x2000 ≤ c.val && c.val ≤ 0x200a) || c.val == 0x2028 || c.val == 0x2029 ||
    c.val == 0x202f || c.val == 0x205f || c.val == 0x3000

/-- The value of a decimal digit of any script. -/
def decimalValue? (c : CodePoint) : Option Nat :=
  if c.val < 128 then
    if 48 ≤ c.val ∧ c.val ≤ 57 then some (c.val - 48) else none
  else
    match Text.Table.decimalZero.find? fun z => z ≤ c.val && c.val < z + 10 with
    | some z => some (c.val - z)
    | none => none

/-- A decimal digit of any script. -/
def isDecimal (c : CodePoint) : Bool := c.decimalValue?.isSome

/-- A character with a digit value: the decimal digits, superscripts, circled digits and the
like. -/
def isDigit (c : CodePoint) : Bool :=
  c.isDecimal || Text.Table.covers c.val Text.Table.otherDigit

/-- A letter or a number of any script. -/
def isAlphanumeric (c : CodePoint) : Bool :=
  if c.val < 128 then c.isAsciiDigit || c.isAsciiLetter
  else Text.Table.covers c.val Text.Table.alphanumeric

/-- A letter of any script. -/
def isLetter (c : CodePoint) : Bool :=
  if c.val < 128 then c.isAsciiLetter
  else c.isAlphanumeric && !Text.Table.covers c.val Text.Table.number

/-- A character of a word: a letter, a number or the low line. -/
def isWord (c : CodePoint) : Bool := c.isAlphanumeric || c.val == 95

/-- A character that is shown as itself between quotes. -/
def isPrintable (c : CodePoint) : Bool :=
  if c.val < 128 then 32 ≤ c.val && c.val < 127
  else !Text.Table.covers c.val Text.Table.unprintable

/-- A character that may begin an identifier. -/
def isIdentifierStart (c : CodePoint) : Bool :=
  if c.val < 128 then c.isAsciiLetter || c.val == 95
  else Text.Table.covers c.val Text.Table.identifierStart

/-- A character that may continue an identifier. -/
def isIdentifierContinue (c : CodePoint) : Bool :=
  c.isIdentifierStart || c.isAsciiDigit ||
    (128 ≤ c.val && Text.Table.covers c.val Text.Table.identifierOnlyContinue)

end CodePoint

/-- A non-empty text that starts like an identifier and goes on like one. -/
def Text.isIdentifier : Text → Bool
  | [] => false
  | c :: t => c.isIdentifierStart && t.all CodePoint.isIdentifierContinue

end LedgerTags

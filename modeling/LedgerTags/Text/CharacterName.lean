import LedgerTags.Text.Basic
import LedgerTags.Text.CharacterName.Alias
import LedgerTags.Text.CharacterName.From0000
import LedgerTags.Text.CharacterName.From0400
import LedgerTags.Text.CharacterName.From0800
import LedgerTags.Text.CharacterName.From1000
import LedgerTags.Text.CharacterName.From10000
import LedgerTags.Text.CharacterName.From10C00
import LedgerTags.Text.CharacterName.From12000
import LedgerTags.Text.CharacterName.From14400
import LedgerTags.Text.CharacterName.From1800
import LedgerTags.Text.CharacterName.From18800
import LedgerTags.Text.CharacterName.From1C00
import LedgerTags.Text.CharacterName.From1D000
import LedgerTags.Text.CharacterName.From1D800
import LedgerTags.Text.CharacterName.From1F000
import LedgerTags.Text.CharacterName.From1F400
import LedgerTags.Text.CharacterName.From1F800
import LedgerTags.Text.CharacterName.From2000
import LedgerTags.Text.CharacterName.From2400
import LedgerTags.Text.CharacterName.From2800
import LedgerTags.Text.CharacterName.From2C00
import LedgerTags.Text.CharacterName.From4C00
import LedgerTags.Text.CharacterName.FromA800
import LedgerTags.Text.CharacterName.FromE0000
import LedgerTags.Text.CharacterName.FromFC00

/-!
# Character names

The character that a name of the Unicode repertoire stands for. The names of Hangul syllables are
put together from the names of their letters, and those of ideographs and of some other scripts end
in the number of the character. All other names stand in tables, in which a name is shortened to the
words that differ from the name before it. Letter case does not matter but for syllables and unified
ideographs.
-/

namespace LedgerTags.Text

namespace CharacterName

/-! ### Names in tables -/

/-- The tables. The lines of a table are lists of names with commas between them; a digit says how
many words a name has in common with the one before it, and an entry with an at sign is the number
of the next character, which is otherwise the one after the character before. -/
def tables : List (List String) := [
  aliases, from0000, from0400, from0800, from1000, from1800, from1C00, from2000, from2400,
  from2800, from2C00, from4C00, fromA800, fromFC00, from10000, from10C00, from12000, from14400,
  from18800, from1D000, from1D800, from1F000, from1F400, from1F800, fromE0000]

/-- The place in a table. -/
structure Cursor where
  /-- The number of the next character. -/
  next : Nat := 0
  /-- The words of the name before. -/
  words : List Text := []

/-- The number of hexadecimal digits. -/
def hexNat? (t : Text) : Option Nat :=
  if t.isEmpty then none
  else (t.mapM CodePoint.hexValue?).map fun ds => ds.foldl (fun n d => 16 * n + d) 0

/-- The words of an entry, given the words of the name before it. -/
def wordsAfter (words : List Text) (entry : Text) : List Text :=
  match entry with
  | [] => words
  | d :: rest =>
    if d.isAsciiDigit then
      words.take (d.val - 48) ++ (if rest.isEmpty then [] else splitOn (' ' : CodePoint) rest)
    else splitOn (' ' : CodePoint) entry

/-- The character with the given words in the entries of a table from a place on. -/
def findFrom (words : List Text) (c : Cursor) : List Text → Option Nat
  | [] => none
  | entry :: entries =>
    match entry with
    | [] => findFrom words c entries
    | mark :: code =>
      if mark = ('@' : CodePoint) then
        findFrom words { c with next := (hexNat? code).getD c.next } entries
      else
        let here := wordsAfter c.words entry
        if here = words then some c.next else findFrom words ⟨c.next + 1, here⟩ entries

/-- The character with the given words in a table. -/
def find? (words : List Text) (table : List String) : Option Nat :=
  findFrom words {} (table.flatMap fun line => splitOn (',' : CodePoint) (ofString line))

/-! ### Names with numbers -/

/-- Names that end in the number of the character, with the ranges of the characters. -/
def numbered : List (Text × List (Nat × Nat)) := [
  ("CJK COMPATIBILITY IDEOGRAPH-", [(0xF900, 0xFA6D), (0xFA70, 0xFAD9), (0x2F800, 0x2FA1D)]),
  ("KHITAN SMALL SCRIPT CHARACTER-", [(0x18B00, 0x18CD5)]),
  ("NUSHU CHARACTER-", [(0x1B170, 0x1B2FB)])]

/-- The unified ideographs. -/
def ideographs : List (Nat × Nat) := [
  (0x3400, 0x4DBF), (0x4E00, 0x9FFF), (0x20000, 0x2A6DF), (0x2A700, 0x2B738), (0x2B740, 0x2B81D),
  (0x2B820, 0x2CEA1), (0x2CEB0, 0x2EBE0), (0x30000, 0x3134A)]

/-- Whether a number lies in one of some ranges. -/
def within (n : Nat) (ranges : List (Nat × Nat)) : Bool :=
  ranges.any fun (lo, hi) => lo ≤ n && n ≤ hi

/-- A capital hexadecimal digit. -/
def isCapitalHex (c : CodePoint) : Bool := c.isAsciiDigit || (65 ≤ c.val && c.val ≤ 70)

/-- The unified ideograph with a number of four or five digits. -/
def ideograph? (digits : Text) : Option Nat :=
  if (digits.length = 4 ∨ digits.length = 5) ∧ digits.all isCapitalHex then
    (hexNat? digits).filter (within · ideographs)
  else none

/-- The character with a name that ends in its number. -/
def numbered? (name : Text) : Option Nat :=
  numbered.findSome? fun (start, ranges) => do
    let digits ← dropLiteral? start name
    let n ← hexNat? digits
    if within n ranges && digits.length = (if n < 0x10000 then 4 else 5) then some n else none

/-! ### Syllables -/

/-- The names of the leading consonants. -/
def leading : List Text := [
  "G", "GG", "N", "D", "DD", "R", "M", "B", "BB", "S", "SS", "", "J", "JJ", "C", "K", "T", "P", "H"]

/-- The names of the vowels. -/
def vowels : List Text := [
  "A", "AE", "YA", "YAE", "EO", "E", "YEO", "YE", "O", "WA", "WAE", "OE", "YO", "U", "WEO", "WE",
  "WI", "YU", "EU", "YI", "I"]

/-- The names of the trailing consonants; a syllable need not have one. -/
def trailing : List Text := [
  "", "G", "GG", "GS", "N", "NJ", "NH", "D", "L", "LG", "LM", "LB", "LS", "LT", "LP", "LH", "M",
  "B", "BS", "S", "SS", "NG", "J", "C", "K", "T", "P", "H"]

/-- The position and length of the longest of some names with which a text starts; `best` is the
longest so far of those before `i`. -/
def longestFrom (t : Text) (best : Option (Nat × Nat)) (i : Nat) :
    List Text → Option (Nat × Nat)
  | [] => best
  | name :: names =>
    let isLonger := startsWith t name && best.all fun (_, size) => size < name.length
    longestFrom t (if isLonger then some (i, name.length) else best) (i + 1) names

/-- The position of the longest of some names with which a text starts, and the rest of the text. -/
def longest? (t : Text) (names : List Text) : Option (Nat × Text) :=
  (longestFrom t none 0 names).map fun (i, size) => (i, t.drop size)

/-- The syllable of the names of its letters. -/
def syllable? (letters : Text) : Option Nat := do
  let (l, rest) ← longest? letters leading
  let (v, rest) ← longest? rest vowels
  let (t, rest) ← longest? rest trailing
  if rest.isEmpty then some (0xAC00 + (l * vowels.length + v) * trailing.length + t) else none

/-! ### All names -/

/-- An ASCII letter as a capital. -/
def capital (c : CodePoint) : CodePoint :=
  if 97 ≤ c.val ∧ c.val ≤ 122 then .ofNat (c.val - 32) else c

/-- The number of the character of a name. -/
def number? (name : Text) : Option Nat :=
  match dropLiteral? "HANGUL SYLLABLE " name with
  | some letters => syllable? letters
  | none =>
    match dropLiteral? "CJK UNIFIED IDEOGRAPH-" name with
    | some digits => ideograph? digits
    | none =>
      let name := name.map capital
      match numbered? name with
      | some n => some n
      | none => tables.findSome? (find? (splitOn (' ' : CodePoint) name))

end CharacterName

/-- The character of a name. -/
def characterNamed? (name : Text) : Option CodePoint :=
  (CharacterName.number? name).bind CodePoint.ofNat?

end LedgerTags.Text

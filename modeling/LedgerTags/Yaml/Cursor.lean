import LedgerTags.Error

/-!
# Places in a YAML text

A `Cursor` is a place in a text with its line and column. Everything that reads a part of a document
takes a cursor and gives the part with the cursor behind it. Lines end at line feeds and at the
three line ends beyond ASCII; carriage returns do not occur, since they are line feeds by the time a
text is read. A byte order mark takes no column.
-/

namespace LedgerTags.Yaml

/-- Why a document cannot be read. -/
inductive Fault where
  /-- It breaks the rules of the format. -/
  | malformed
  /-- It keeps to them, but a part of it names no value. -/
  | noValue (e : Error)

/-- The outcome of reading a part of a document. -/
abbrev Reading (α : Type) := Except Fault α

/-! ### Classes of characters -/

/-- A line end. -/
def isBreak (c : CodePoint) : Bool :=
  c.val == 10 || c.val == 0x85 || c.val == 0x2028 || c.val == 0x2029

/-- A space. -/
def isSpace (c : CodePoint) : Bool := c.val == 32

/-- A space or a tab. -/
def isWhite (c : CodePoint) : Bool := c.val == 32 || c.val == 9

/-- A letter, digit, hyphen or low line of ASCII. -/
def isNameChar (c : CodePoint) : Bool :=
  c.isAsciiLetter || c.isAsciiDigit || c.val == 45 || c.val == 95

/-- One of some ASCII characters. -/
def isOneOf (s : String) (c : CodePoint) : Bool := s.toList.any fun d => d.toNat == c.val

/-- The end of the text or of a line. -/
def endsLine : Option CodePoint → Bool
  | none => true
  | some c => isBreak c

/-- The end of the text or of a line, or a space. -/
def endsPart : Option CodePoint → Bool
  | none => true
  | some c => isBreak c || isSpace c

/-- The end of the text or of a line, a space or a tab. -/
def endsWord : Option CodePoint → Bool
  | none => true
  | some c => isBreak c || isWhite c

/-- A character that a document may contain. -/
def isAllowed (c : CodePoint) : Bool :=
  c.val == 9 || c.val == 10 || c.val == 13 || (0x20 ≤ c.val && c.val ≤ 0x7E) || c.val == 0x85 ||
    (0xA0 ≤ c.val && c.val ≤ 0xD7FF) || (0xE000 ≤ c.val && c.val ≤ 0xFFFD) || 0x10000 ≤ c.val

/-! ### Cursors -/

/-- A place in a text. -/
structure Cursor where
  /-- The text from there on. -/
  rest : Text
  /-- How many characters stand before it. -/
  index : Nat := 0
  /-- How many lines end before it. -/
  line : Nat := 0
  /-- How many columns of its line stand before it. -/
  column : Nat := 0

namespace Cursor

/-- The next character. -/
def peek (c : Cursor) : Option CodePoint := c.rest.head?

/-- The character `n` places on. -/
def peekAt (c : Cursor) (n : Nat) : Option CodePoint := c.rest[n]?

/-- Whether the next character is `d`. -/
def sees (c : Cursor) (d : Char) : Bool := c.rest.head?.any fun x => x.val == d.toNat

/-- Whether there is a next character in a class. -/
def seesOne (c : Cursor) (p : CodePoint → Bool) : Bool := c.rest.head?.any p

/-- The cursor behind the next character. -/
def next (c : Cursor) : Cursor :=
  match c.rest with
  | [] => c
  | d :: t =>
    if isBreak d then ⟨t, c.index + 1, c.line + 1, 0⟩
    else ⟨t, c.index + 1, c.line, if d.val = 0xFEFF then c.column else c.column + 1⟩

/-- The cursor behind the next `n` characters. -/
def skip : (n : Nat) → Cursor → Cursor
  | 0, c => c
  | n + 1, c => skip n c.next

/-- The cursor behind the next characters of a class. -/
def skipWhile (c : Cursor) (p : CodePoint → Bool) : Cursor := skip (c.rest.takeWhile p).length c

/-- The next characters of a class, and the cursor behind them. -/
def takeWhile (c : Cursor) (p : CodePoint → Bool) : Text × Cursor :=
  let t := c.rest.takeWhile p
  (t, skip t.length c)

/-- The cursor at the next line end. -/
def skipLine (c : Cursor) : Cursor := c.skipWhile fun d => !isBreak d

/-- The line end at the cursor as text, which is a line feed for the two ends of the first 256
characters; nothing if the line goes on. -/
def readBreak (c : Cursor) : Text × Cursor :=
  match c.peek with
  | some d =>
    if d.val = 10 ∨ d.val = 0x85 then ([CodePoint.ofNat 10], c.next)
    else if isBreak d then ([d], c.next)
    else ([], c)
  | none => ([], c)

/-- Whether a line of three given characters starts at the cursor, as the line that separates
documents does. -/
def seesMark (c : Cursor) (d : Char) : Bool :=
  c.rest.take 3 = List.replicate 3 (CodePoint.ofChar d) && endsWord (c.peekAt 3)

/-- Whether the mark before or after a document starts at the cursor. -/
def seesSeparator (c : Cursor) : Bool := c.seesMark '-' || c.seesMark '.'

/-- The cursor behind the rest of a line that may hold nothing but a comment. -/
def skipComment (c : Cursor) : Reading Cursor :=
  let c := c.skipWhile isSpace
  let c := if c.sees '#' then c.skipLine else c
  if endsLine c.peek then .ok c.readBreak.2 else .error .malformed

end Cursor

end LedgerTags.Yaml

/-!
# Code points and text

A text is a list of Unicode code points. Surrogate code points are allowed, because interchange
files can name them by escapes; that is the one difference from lists of characters. Order and
equality are those of the code point numbers, and texts are ordered lexicographically.
-/

namespace LedgerTags

/-- A Unicode code point, surrogates included. -/
structure CodePoint where
  /-- Its number. -/
  val : Nat
  val_lt : val < 0x110000 := by decide
deriving DecidableEq, Repr

namespace CodePoint

instance : Inhabited CodePoint := ⟨{ val := 0 }⟩

/-- Characters with the same number are the same. -/
theorem ext_val {a b : CodePoint} (h : a.val = b.val) : a = b := by
  cases a; cases b; cases h; rfl

/-- The code point of a character. -/
def ofChar (c : Char) : CodePoint where
  val := c.toNat
  val_lt := by
    rcases c.valid with h | h
    · exact Nat.lt_trans h (by decide)
    · exact h.2

instance : Coe Char CodePoint := ⟨ofChar⟩

/-- The code point of a number, if there is one. -/
def ofNat? (n : Nat) : Option CodePoint :=
  if h : n < 0x110000 then some ⟨n, h⟩ else none

/-- The code point of a number, the replacement character outside the range. -/
def ofNat (n : Nat) : CodePoint :=
  if h : n < 0x110000 then ⟨n, h⟩ else { val := 0xFFFD }

@[simp] theorem ofNat_val (c : CodePoint) : ofNat c.val = c := by
  simp [ofNat, c.val_lt]

/-- The character of a code point, the replacement character for a surrogate. -/
def toChar (c : CodePoint) : Char :=
  if h : c.val.isValidChar then Char.ofNatAux c.val h else '\uFFFD'

/-- One of the code points `U+D800` to `U+DFFF`, which no character has. -/
def isSurrogate (c : CodePoint) : Bool := 0xD800 ≤ c.val && c.val ≤ 0xDFFF

/-- One of the first 128 code points. -/
def isAscii (c : CodePoint) : Bool := c.val < 128

instance : LT CodePoint := ⟨fun a b => a.val < b.val⟩
instance : LE CodePoint := ⟨fun a b => a.val ≤ b.val⟩
instance (a b : CodePoint) : Decidable (a < b) := inferInstanceAs (Decidable (a.val < b.val))
instance (a b : CodePoint) : Decidable (a ≤ b) := inferInstanceAs (Decidable (a.val ≤ b.val))

/-- An ASCII digit `0` to `9`. -/
def isAsciiDigit (c : CodePoint) : Bool := 48 ≤ c.val && c.val ≤ 57

/-- An ASCII letter. -/
def isAsciiLetter (c : CodePoint) : Bool :=
  (65 ≤ c.val && c.val ≤ 90) || (97 ≤ c.val && c.val ≤ 122)

/-- The value of an ASCII hexadecimal digit. -/
def hexValue? (c : CodePoint) : Option Nat :=
  if 48 ≤ c.val ∧ c.val ≤ 57 then some (c.val - 48)
  else if 65 ≤ c.val ∧ c.val ≤ 70 then some (c.val - 55)
  else if 97 ≤ c.val ∧ c.val ≤ 102 then some (c.val - 87)
  else none

end CodePoint

/-- A list of code points. -/
abbrev Text := List CodePoint

namespace Text

/-- The code points of a string. -/
def ofString (s : String) : Text := s.toList.map CodePoint.ofChar

instance : Coe String Text := ⟨ofString⟩

instance : HAppend String Text Text := ⟨fun s t => ofString s ++ t⟩

/-- The string of a text; surrogates become replacement characters. -/
def toString (t : Text) : String := String.ofList (t.map CodePoint.toChar)

/-- Strict lexicographic order. -/
def lt : Text → Text → Bool
  | _, [] => false
  | [], _ :: _ => true
  | a :: s, b :: t => a.val < b.val || (a.val == b.val && lt s t)

/-- Lexicographic order. -/
def le (s t : Text) : Bool := !lt t s

end Text

end LedgerTags

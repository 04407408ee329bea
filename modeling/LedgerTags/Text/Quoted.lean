import LedgerTags.Text.Basic

/-!
# Quoted texts

How a text is shown inside a message: between quotes, with the characters that have no glyph
escaped. Single quotes are used, and double quotes for a text that holds a single quote and no
double one.
-/

namespace LedgerTags.Text

/-- The form of one code point between quotes of the kind `quote`. -/
def quotedChar (quote c : CodePoint) : Text :=
  if c = quote || c.val == 92 then [('\\' : CodePoint), c]
  else if c.val = 9 then "\\t"
  else if c.val = 10 then "\\n"
  else if c.val = 13 then "\\r"
  else if c.isPrintable then [c]
  else if c.val < 0x100 then "\\x" ++ hexPadded 2 c.val
  else if c.val < 0x10000 then "\\u" ++ hexPadded 4 c.val
  else "\\U" ++ hexPadded 8 c.val

/-- The quote that surrounds a text. -/
def quoteOf (t : Text) : CodePoint :=
  if t.contains '\'' && !t.contains '"' then '"' else '\''

/-- The text between quotes. -/
def quoted (t : Text) : Text :=
  let q := quoteOf t
  q :: (t.flatMap (quotedChar q) ++ [q])

/-- The octets between quotes, after the letter that marks them as octets. -/
def quotedOctets (bs : List UInt8) : Text :=
  let t : Text := bs.map fun b => CodePoint.ofNat b.toNat
  let q := quoteOf t
  let shown (c : CodePoint) : Text :=
    if c = q || c.val == 92 then [('\\' : CodePoint), c]
    else if c.val = 9 then "\\t"
    else if c.val = 10 then "\\n"
    else if c.val = 13 then "\\r"
    else if 32 ≤ c.val && c.val < 127 then [c]
    else "\\x" ++ hexPadded 2 c.val
  ('b' : CodePoint) :: q :: (t.flatMap shown ++ [q])

end LedgerTags.Text

import LedgerTags.Text.CodePoint

/-!
# UTF-8

Reading and writing texts as octets. A sequence is accepted only in its shortest form, within the
code point range and outside the surrogates, as the continuation ranges of the second octet say.
-/

namespace LedgerTags.Text.Utf8

/-- The six low bits of a continuation octet within the given bounds. -/
def continuation? (lo hi b : Nat) : Option Nat :=
  if lo ≤ b ∧ b ≤ hi then some (b - 0x80) else none

/-- How a first octet announces its sequence: its payload, the number of continuation octets, and
the bounds of the next one. -/
def lead? (b : Nat) : Option (Nat × Nat × Nat × Nat) :=
  if b < 0x80 then some (b, 0, 0, 0)
  else if 0xC2 ≤ b ∧ b ≤ 0xDF then some (b - 0xC0, 1, 0x80, 0xBF)
  else if b = 0xE0 then some (0, 2, 0xA0, 0xBF)
  else if b = 0xED then some (0xD, 2, 0x80, 0x9F)
  else if 0xE1 ≤ b ∧ b ≤ 0xEF then some (b - 0xE0, 2, 0x80, 0xBF)
  else if b = 0xF0 then some (0, 3, 0x90, 0xBF)
  else if 0xF1 ≤ b ∧ b ≤ 0xF3 then some (b - 0xF0, 3, 0x80, 0xBF)
  else if b = 0xF4 then some (4, 3, 0x80, 0x8F)
  else none

/-- Reads with `need` continuation octets still expected, the next one between `lo` and `hi`, and
`acc` the bits read so far of the current code point. -/
def decodeFrom (acc need lo hi : Nat) : List UInt8 → Option Text
  | [] => if need = 0 then some [] else none
  | b :: bs =>
    match need with
    | 0 =>
      match lead? b.toNat with
      | none => none
      | some (v, 0, _, _) => (decodeFrom 0 0 0 0 bs).map (CodePoint.ofNat v :: ·)
      | some (v, n + 1, l, h) => decodeFrom v (n + 1) l h bs
    | n + 1 =>
      match continuation? lo hi b.toNat with
      | none => none
      | some bits =>
        let acc := acc * 64 + bits
        match n with
        | 0 => (decodeFrom 0 0 0 0 bs).map (CodePoint.ofNat acc :: ·)
        | m + 1 => decodeFrom acc (m + 1) 0x80 0xBF bs

/-- The text of well-formed octets. -/
def decode? (bs : List UInt8) : Option Text := decodeFrom 0 0 0 0 bs

/-- The octets of one code point. -/
def encodeChar (c : CodePoint) : List UInt8 :=
  let n := c.val
  if n < 0x80 then [n.toUInt8]
  else if n < 0x800 then [(0xC0 + n / 64).toUInt8, (0x80 + n % 64).toUInt8]
  else if n < 0x10000 then
    [(0xE0 + n / 4096).toUInt8, (0x80 + n / 64 % 64).toUInt8, (0x80 + n % 64).toUInt8]
  else
    [(0xF0 + n / 262144).toUInt8, (0x80 + n / 4096 % 64).toUInt8, (0x80 + n / 64 % 64).toUInt8,
      (0x80 + n % 64).toUInt8]

/-- The octets of a text. -/
def encode (t : Text) : List UInt8 := t.flatMap encodeChar

end LedgerTags.Text.Utf8

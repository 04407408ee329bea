import LedgerTags.Text.CodePoint

/-!
# Base64

Octets written with 64 characters of ASCII, six bits a character. Characters outside of the alphabet
are passed over. The text may end in the middle of a group of four only where equals signs complete
the group; what follows them is passed over.
-/

namespace LedgerTags.Text.Base64

/-- The six bits of a character of the alphabet. -/
def sextet? (c : CodePoint) : Option Nat :=
  if 65 ≤ c.val ∧ c.val ≤ 90 then some (c.val - 65)
  else if 97 ≤ c.val ∧ c.val ≤ 122 then some (c.val - 71)
  else if 48 ≤ c.val ∧ c.val ≤ 57 then some (c.val + 4)
  else if c.val = 43 then some 62
  else if c.val = 47 then some 63
  else none

/-- Reads with `place` characters of a group read, `held` the bits of the last one that are not
written yet, and `signs` the equals signs since then. -/
def decodeFrom (place held signs : Nat) : Text → Option (List UInt8)
  | [] => if place = 0 then some [] else none
  | c :: t =>
    if c.val = 61 then
      if 2 ≤ place then
        if 4 ≤ place + signs + 1 then some [] else decodeFrom place held (signs + 1) t
      else decodeFrom place held signs t
    else
      match sextet? c with
      | none => decodeFrom place held signs t
      | some b =>
        match place with
        | 0 => decodeFrom 1 b 0 t
        | 1 => (decodeFrom 2 (b % 16) 0 t).map ((held * 4 + b / 16).toUInt8 :: ·)
        | 2 => (decodeFrom 3 (b % 4) 0 t).map ((held * 16 + b / 4).toUInt8 :: ·)
        | _ => (decodeFrom 0 0 0 t).map ((held * 64 + b).toUInt8 :: ·)

/-- The octets that a text stands for. -/
def decode? (t : Text) : Option (List UInt8) := decodeFrom 0 0 0 t

end LedgerTags.Text.Base64

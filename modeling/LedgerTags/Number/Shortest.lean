import LedgerTags.Number.Binary64
import LedgerTags.Text.Basic

/-!
# The shortest text of a binary number

A binary number is written with the fewest digits that read back as the number, and of those with
the digits nearest to it. For each digit count the two neighbours of the value on the decimal grid
of that many digits are tried; the first count at which one of them reads back is taken.

Positional notation is used for a leading digit between `10 ^ -4` and `10 ^ 15`, and always shows a
point; otherwise the exponent has a sign and at least two digits.
-/

namespace LedgerTags.Binary64

/-- Candidates on the grid of multiples of `10 ^ g` around `num / den`: the neighbour below and the
one above, nearer first, the even one first on a tie. -/
def neighbours (num den : Nat) (g : Int) : List Nat :=
  let a := num * Nat.pow 10 (-g).toNat
  let b := den * Nat.pow 10 g.toNat
  let q := a / b
  let r := a % b
  if r = 0 then [q]
  else if 2 * r < b ∨ (2 * r = b ∧ q % 2 = 0) then [q, q + 1]
  else [q + 1, q]

/-- The exponent of the leading decimal digit of `num / den`. -/
def leadingExponent (num den : Nat) : Int :=
  -- The digit counts bound it up to one.
  let k : Int := (Decimal.digitCount num : Int) - Decimal.digitCount den
  if den * Nat.pow 10 k.toNat ≤ num * Nat.pow 10 (-k).toNat then k else k - 1

/-- The digits `c` and grid exponent `g` of the shortest decimal `c · 10 ^ g` that reads back,
looking at `fuel` digit counts from `n` on. -/
def shortestFrom (x : Binary64) (num den : Nat) (lead : Int) : (fuel n : Nat) → Nat × Int
  | 0, n => ((neighbours num den (lead - n + 1)).headD 0, lead - n + 1)
  | fuel + 1, n =>
    let g := lead - n + 1
    match (neighbours num den g).find? fun c => ofScientific false c g == x with
    | some c => (c, g)
    | none => shortestFrom x num den lead fuel (n + 1)

/-- A number without its trailing zeros, and how many there were. -/
def stripZeros : (fuel n : Nat) → Nat × Nat
  | 0, n => (n, 0)
  | fuel + 1, n =>
    if n ≠ 0 ∧ n % 10 = 0 then
      let (m, k) := stripZeros fuel (n / 10)
      (m, k + 1)
    else (n, 0)

/-- The digits of a positive number and its decimal exponent. -/
def shortest (m : Nat) (e : Int) (h : InFormat m e) : Nat × Int :=
  let (num, den) := ratio m e
  let (c, g) := shortestFrom (.finite false m e h) num den (leadingExponent num den) 17 1
  let (c, k) := stripZeros 20 c
  (c, g + k)

/-- The text of `c · 10 ^ g` for a positive `c` without trailing zeros. -/
def magnitudeText (c : Nat) (g : Int) : Text :=
  let digits := Text.ofNat c
  let lead := g + digits.length - 1
  let zeros (n : Nat) : Text := List.replicate n ('0' : CodePoint)
  if -4 ≤ lead ∧ lead < 16 then
    if 0 ≤ g then digits ++ zeros g.toNat ++ ".0"
    else
      let places := g.natAbs
      let digits := zeros (places + 1 - digits.length) ++ digits
      let whole := digits.length - places
      digits.take whole ++ "." ++ digits.drop whole
  else
    let tail := digits.drop 1
    let point : Text := if tail.isEmpty then "" else "."
    let sign : Text := if lead < 0 then "-" else "+"
    digits.take 1 ++ point ++ tail ++ "e" ++ sign ++ Text.ofNatPadded 2 lead.natAbs

/-- The text of a number. -/
def toText : Binary64 → Text
  | .finite s m e h =>
    let sign : Text := if s then "-" else ""
    if m = 0 then sign ++ "0.0"
    else
      let (c, g) := shortest m e h
      sign ++ magnitudeText c g
  | .infinity s => if s then "-inf" else "inf"
  | .nan => "nan"

end LedgerTags.Binary64

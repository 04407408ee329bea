import LedgerTags.Number.Numeral

/-!
# Reading numerals step by step

A fast way to read a decimal numeral into the binary format, as tables of numbers are read. The
first seventeen digits are gathered with one rounded multiplication and addition each, the decimal
exponent counts the digits before the point that were passed over and those after it that were
gathered, and one multiplication or division by a power of ten ends the reading. The result is
within a few units of the nearest number, which `Numeral.float?` finds.
-/

namespace LedgerTags.Binary64.Stepwise

/-- The most digits that are gathered. -/
def digitLimit : Nat := 17

/-- What has been read of a numeral. -/
structure Progress where
  /-- The number that the digits stand for. -/
  number : Binary64 := .zero
  /-- How many digits have been gathered. -/
  count : Nat := 0
  /-- The power of ten that the number has to be multiplied by. -/
  exponent : Int := 0

/-- Whether another digit is gathered. -/
def Progress.hasRoom (p : Progress) : Bool := p.count < digitLimit

/-- Gathers a digit. -/
def Progress.push (p : Progress) (digit : Nat) : Progress where
  number := (p.number.mul (ofInt 10)).add (ofInt digit)
  count := p.count + 1
  exponent := p.exponent

/-- A digit before the point. -/
def Progress.whole (p : Progress) (digit : Nat) : Progress :=
  if p.hasRoom then p.push digit else { p with exponent := p.exponent + 1 }

/-- A digit after the point. -/
def Progress.fraction (p : Progress) (digit : Nat) : Progress :=
  if p.hasRoom then { p.push digit with exponent := p.exponent - 1 } else p

/-- A signed 32-bit word, in which exponents are counted. -/
def word (n : Int) : Int := Int.bmod n 0x100000000

/-- The number of the digits of an exponent, of which seventeen are read; none if there are no
digits or too many. -/
def exponentOf? (digits : List Nat) : Option Int :=
  if digits.isEmpty ∨ digitLimit < digits.length then none
  else some (digits.foldl (fun (n : Int) (d : Nat) => word (10 * n + d)) 0)

/-- The greatest decimal exponent of the format. -/
def maxPower : Int := 308

/-- A power of ten of the format. -/
def power (e : Int) : Binary64 := ofScientific false 1 e

/-- A number times a power of ten; none beyond the greatest power. -/
def scale? (x : Binary64) (e : Int) : Option Binary64 :=
  if maxPower < e then none
  else if 0 < e then some (x.mul (power e))
  else if e < -(2 * maxPower) then some zero
  else if e < -maxPower then some ((x.div (power (-maxPower - e))).div (power maxPower))
  else some (x.div (power (-e)))

/-- A finite number. -/
def finite? (x : Binary64) : Option Binary64 :=
  match x with
  | .infinity _ => none
  | x => some x

/-- The digits after a point at the start of a text, with the text that follows; none if there is
no point. -/
def readPoint (t : Text) : Option (List Nat × Text) :=
  match t with
  | c :: rest => if c.val = 46 then some (Decimal.readDigits rest) else none
  | [] => none

/-- An exponent that is the rest of a numeral; none if the rest is anything else. -/
def readPower? (t : Text) : Option Int :=
  match t with
  | [] => some 0
  | c :: rest =>
    if c.val = 69 ∨ c.val = 101 then
      let (negative, rest) := Decimal.readSign rest
      match Decimal.readDigits rest with
      | (digits, []) => (exponentOf? digits).map fun n => if negative then word (-n) else n
      | _ => none
    else none

/-- The number of a numeral, and whether the numeral has the form of a whole number; none for any
other text and beyond the range of the format. -/
def read? (t : Text) : Option (Binary64 × Bool) := do
  let (negative, t) := Decimal.readSign t
  let (whole, rest) := Decimal.readDigits t
  let point := readPoint rest
  let (fraction, rest) := point.getD ([], rest)
  if whole.isEmpty && fraction.isEmpty then none
  else
    let p := whole.foldl Progress.whole {}
    let p := fraction.foldl Progress.fraction p
    let e ← readPower? rest
    let x ← scale? (if negative then p.number.neg else p.number) (word (p.exponent + e))
    return (← finite? x, point.isNone && rest.isEmpty)

/-- The infinities by name. -/
def infinityNames : List (Text × Bool) := [
  ("inf", false), ("-inf", true), ("+inf", false), ("infinity", false), ("-infinity", true),
  ("+infinity", false)]

/-- The infinity that a text names. -/
def readInfinity? (t : Text) : Option Binary64 :=
  (infinityNames.lookup (Text.lower t)).map .infinity

end LedgerTags.Binary64.Stepwise

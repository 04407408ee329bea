import LedgerTags.Decimal.Basic
import LedgerTags.Text.Basic
import LedgerTags.Text.Case

/-!
# Reading a decimal

A numeral is an optional sign and then digits with an optional point and an optional exponent, the
word for infinity, or the word for a NaN with an optional payload. White space around it and low
lines inside it are passed over, digits of any script count, and letter case does not matter. The
number is taken exactly; only exponents beyond the representable range are refused.
-/

namespace LedgerTags.Decimal

/-- The greatest exponent of a leading digit. -/
def exponentLimit : Int := 999999999999999999

/-- The least exponent of a last digit. -/
def exponentFloor : Int := -1999999999999999997

/-- The ASCII form of a numeral: digits of other scripts become ASCII digits and low lines are left
out; `none` if another character occurs. -/
def asciiNumeral? : Text → Option Text
  | [] => some []
  | c :: t =>
    if c.val = 95 then asciiNumeral? t
    else if 0 < c.val && c.val < 128 then (asciiNumeral? t).map (c :: ·)
    else
      match c.decimalValue? with
      | some d => (asciiNumeral? t).map (CodePoint.ofNat (48 + d) :: ·)
      | none => none

/-- The sign at the start of a text, and the rest. -/
def readSign : Text → Bool × Text
  | c :: t => if c.val = 45 then (true, t) else if c.val = 43 then (false, t) else (false, c :: t)
  | [] => (false, [])

/-- The longest run of ASCII digits at the start of a text as digit values, and the rest. -/
def readDigits (t : Text) : List Nat × Text :=
  ((t.takeWhile CodePoint.isAsciiDigit).map (fun c => c.val - 48),
    t.dropWhile CodePoint.isAsciiDigit)

/-- The digits after a point at the start of a text, and the rest; no digits without a point. -/
def readPoint : Text → List Nat × Text
  | c :: t => if c.val = 46 then readDigits t else ([], c :: t)
  | [] => ([], [])

/-- The exponent part of a numeral, which has to be the rest of the text. -/
def readExponent? : Text → Option Int
  | [] => some 0
  | c :: t =>
    if c.val = 69 ∨ c.val = 101 then
      let (negative, t) := readSign t
      match readDigits t with
      | ([], _) => none
      | (ds, []) =>
        let n := Text.natOfDigits ds
        some (if negative then -(n : Int) else n)
      | (_, _ :: _) => none
    else none

/-- A finite number within the exponent range. -/
def finite? (negative : Bool) (coefficient : Nat) (exponent : Int) : Option Decimal :=
  if exponent < exponentFloor then none
  else if exponentLimit < (if coefficient = 0 then exponent else adjusted coefficient exponent) then
    none
  else some (.finite negative coefficient exponent)

/-- A numeral made of digits, after its sign. -/
def readFinite? (negative : Bool) (t : Text) : Option Decimal :=
  let (whole, rest) := readDigits t
  let (fraction, rest) := readPoint rest
  if whole.isEmpty && fraction.isEmpty then none
  else
    match readExponent? rest with
    | none => none
    | some e => finite? negative (Text.natOfDigits (whole ++ fraction)) (e - fraction.length)

/-- The payload of a NaN: the rest of the text, which holds only digits. -/
def readPayload? (t : Text) : Option Nat :=
  match readDigits t with
  | (ds, []) => some (Text.natOfDigits ds)
  | (_, _ :: _) => none

/-- A numeral of ASCII characters. -/
def ofAscii? (t : Text) : Option Decimal :=
  let (negative, u) := readSign t
  let word := Text.lower u
  if word = ("inf" : Text) ∨ word = ("infinity" : Text) then some (.infinity negative)
  else
    match Text.dropLiteral? "nan" word with
    | some rest => (readPayload? rest).map (.nan negative false ·)
    | none =>
      match Text.dropLiteral? "snan" word with
      | some rest => (readPayload? rest).map (.nan negative true ·)
      | none => readFinite? negative u

/-- The decimal that a text stands for. -/
def ofText? (t : Text) : Option Decimal := (asciiNumeral? t.trim).bind ofAscii?

end LedgerTags.Decimal

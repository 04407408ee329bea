import LedgerTags.Decimal.Basic
import LedgerTags.Text.Basic

/-!
# The text of a decimal

Every decimal has one text, from which it can be read back unchanged. Positional notation is used
while the exponent is not positive and the leading digit is at most six places behind the point;
otherwise the notation is scientific, with one digit before the point.
-/

namespace LedgerTags.Decimal

/-- The mark of a negative number. -/
def signText (negative : Bool) : Text := if negative then "-" else ""

/-- The signed numeral of an exponent. -/
def exponentText (e : Int) : Text :=
  (if e < 0 then "-" else "+" : Text) ++ Text.ofNat e.natAbs

/-- The text of the absolute value of a finite number. -/
def magnitudeText (coefficient : Nat) (exponent : Int) : Text :=
  let digits := Text.ofNat coefficient
  let adj := adjusted coefficient exponent
  if exponent ≤ 0 ∧ -6 ≤ adj then
    let places := exponent.natAbs
    if places = 0 then digits
    else
      let digits := List.replicate (places + 1 - digits.length) ('0' : CodePoint) ++ digits
      let whole := digits.length - places
      digits.take whole ++ "." ++ digits.drop whole
  else
    let tail := digits.drop 1
    let point : Text := if tail.isEmpty then "" else "."
    digits.take 1 ++ point ++ tail ++ "E" ++ exponentText adj

/-- The text of a decimal. -/
def toText : Decimal → Text
  | .finite s c e => signText s ++ magnitudeText c e
  | .infinity s => signText s ++ "Infinity"
  | .nan s signaling payload =>
    signText s ++ (if signaling then "sNaN" else "NaN" : Text) ++
      (if payload = 0 then [] else Text.ofNat payload)

end LedgerTags.Decimal

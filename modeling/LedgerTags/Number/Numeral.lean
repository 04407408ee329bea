import LedgerTags.Decimal.Reader
import LedgerTags.Number.Binary64

/-!
# Reading numerals

Whole numbers and floating-point numbers as they are written in documents and arguments. Digits of
any script count, a low line may stand between two digits, and white space around the numeral is
passed over. A numeral of a whole number has at most 4300 digits when its base is not a power of
two.
-/

namespace LedgerTags.Numeral

/-- The most digits that the numeral of a whole number may have, read or written. -/
def digitLimit : Nat := 4300

/-- Why a text is no numeral of a whole number. -/
inductive Fault where
  /-- It is not of the form of a numeral. -/
  | malformed
  /-- It has too many digits. -/
  | tooLong (digits : Nat)
deriving DecidableEq, Repr

/-- The digits of other scripts as ASCII digits, other white space as a blank, and any other
character beyond ASCII as a question mark. -/
def toAscii (t : Text) : Text :=
  t.map fun c =>
    if c.val < 128 then c
    else if c.isSpace then ' '
    else
      match c.decimalValue? with
      | some d => CodePoint.ofNat (48 + d)
      | none => '?'

/-- One of the six blanks of ASCII: tab to carriage return, and the space. -/
def isBlank (c : CodePoint) : Bool := (9 ≤ c.val && c.val ≤ 13) || c.val == 32

/-- A numeral in ASCII characters, without the blanks around it. -/
def normalize (t : Text) : Text :=
  (((toAscii t).dropWhile isBlank).reverse.dropWhile isBlank).reverse

/-- The digit value of an ASCII character in bases up to 36. -/
def digitValue? (c : CodePoint) : Option Nat :=
  if 48 ≤ c.val ∧ c.val ≤ 57 then some (c.val - 48)
  else if 65 ≤ c.val ∧ c.val ≤ 90 then some (c.val - 55)
  else if 97 ≤ c.val ∧ c.val ≤ 122 then some (c.val - 87)
  else none

/-- The digits of a numeral in which a low line may stand between two digits. -/
def digits? (base : Nat) : Text → Option (List Nat)
  | [] => none
  | c :: t =>
    match digitValue? c with
    | none => none
    | some d =>
      if base ≤ d then none
      else
        match t with
        | [] => some [d]
        | u :: rest =>
          if u.val = 95 then
            match rest with
            | [] => none
            | v :: rest' => (digits? base (v :: rest')).map (d :: ·)
          else (digits? base (u :: rest)).map (d :: ·)

/-- The number of digits in a base. -/
def natOfDigits (base : Nat) (ds : List Nat) : Nat := ds.foldl (fun n d => base * n + d) 0

/-- The text without a base mark such as `0x`, after which a low line may stand. -/
def dropBaseMark (base : Nat) (t : Text) : Text :=
  let mark (a b : Nat) : Text :=
    match t with
    | z :: x :: rest =>
      if z.val = 48 ∧ (x.val = a ∨ x.val = b) then
        match rest with
        | u :: v => if u.val = 95 then v else rest
        | [] => rest
      else t
    | _ => t
  match base with
  | 2 => mark 98 66
  | 8 => mark 111 79
  | 16 => mark 120 88
  | _ => t

/-- A digit in a base, or a low line. -/
def isNumeralChar (base : Nat) (c : CodePoint) : Bool :=
  c.val == 95 || (digitValue? c).any fun d => d < base

/-- The integer that a text stands for in a base from 2 to 36. Too many digits are found before
anything is found behind them. -/
def int? (base : Nat) (t : Text) : Except Fault Int :=
  let (negative, u) := Decimal.readSign (normalize t)
  let body := dropBaseMark base u
  match digits? base (body.takeWhile (isNumeralChar base)) with
  | none => .error .malformed
  | some ds =>
    if digitLimit < ds.length ∧ base ∉ [2, 4, 8, 16, 32] then .error (.tooLong ds.length)
    else if !(body.dropWhile (isNumeralChar base)).isEmpty then .error .malformed
    else
      let n : Int := natOfDigits base ds
      .ok (if negative then -n else n)

/-- ASCII text with the low lines between digits left out; `none` if one stands elsewhere. -/
def dropLowLines? (last : Option CodePoint) : Text → Option Text
  | [] => some []
  | c :: t =>
    if c.val = 95 then
      match last, t with
      | some d, e :: _ =>
        if d.isAsciiDigit && e.isAsciiDigit then dropLowLines? (some c) t else none
      | _, _ => none
    else (dropLowLines? (some c) t).map (c :: ·)

/-- The floating-point number that a text stands for. -/
def float? (t : Text) : Option Binary64 :=
  match dropLowLines? none (normalize t) with
  | none => none
  | some t =>
    let (negative, u) := Decimal.readSign t
    let word := Text.lower u
    if word = ("inf" : Text) ∨ word = ("infinity" : Text) then some (.infinity negative)
    else if word = ("nan" : Text) then some .nan
    else
      let (whole, rest) := Decimal.readDigits u
      let (fraction, rest) := Decimal.readPoint rest
      if whole.isEmpty && fraction.isEmpty then none
      else
        match Decimal.readExponent? rest with
        | none => none
        | some e =>
          some (.ofScientific negative (Text.natOfDigits (whole ++ fraction))
            (e - fraction.length))

end LedgerTags.Numeral

import LedgerTags.Error

/-!
# Reading JSON

A JSON document becomes a value: objects become mappings, in which the last of several entries with
one key wins and keeps the place of the first; numbers with a fraction or an exponent become binary
numbers and all others whole numbers. Beyond the standard, `NaN`, `Infinity` and `-Infinity` are
numbers. Control characters in texts are refused. Escapes name 16-bit units, and a high unit
followed by a low one is one code point; a unit that stands alone is kept as a surrogate.
-/

namespace LedgerTags.Json

/-- A blank between the parts of a document. -/
def isBlank (c : CodePoint) : Bool := c.val == 32 || c.val == 9 || c.val == 10 || c.val == 13

/-- The text without its leading blanks. -/
def skipBlanks (t : Text) : Text := t.dropWhile isBlank

/-! ### Texts -/

/-- High surrogates followed by low ones joined to single code points. -/
def joinSurrogates : Text → Text
  | [] => []
  | a :: t =>
    match t with
    | [] => [a]
    | b :: u =>
      if 0xD800 ≤ a.val ∧ a.val ≤ 0xDBFF ∧ 0xDC00 ≤ b.val ∧ b.val ≤ 0xDFFF then
        CodePoint.ofNat (0x10000 + (a.val - 0xD800) * 0x400 + (b.val - 0xDC00)) ::
          joinSurrogates u
      else a :: joinSurrogates (b :: u)

/-- The code point that a letter after a backslash stands for. -/
def simpleEscape? (c : CodePoint) : Option CodePoint :=
  match c.toChar with
  | '"' => some c
  | '\\' => some c
  | '/' => some c
  | 'b' => some (CodePoint.ofNat 8)
  | 'f' => some (CodePoint.ofNat 12)
  | 'n' => some (CodePoint.ofNat 10)
  | 'r' => some (CodePoint.ofNat 13)
  | 't' => some (CodePoint.ofNat 9)
  | _ => none

/-- The unit that four hexadecimal digits name. -/
def unit? (a b c d : CodePoint) : Option CodePoint := do
  let n := ((← a.hexValue?) * 16 + (← b.hexValue?)) * 256 + (← c.hexValue?) * 16 + (← d.hexValue?)
  CodePoint.ofNat? n

/-- The units of a text after its opening quote, and what follows the closing one. -/
def readUnits : Text → Option (Text × Text)
  | [] => none
  | c :: t =>
    if c.val = 34 then some ([], t)
    else if c.val = 92 then
      match t with
      | [] => none
      | e :: u =>
        if e.val = 117 then
          match u with
          | a :: b :: c :: d :: rest => do
            let x ← unit? a b c d
            let (xs, rest) ← readUnits rest
            return (x :: xs, rest)
          | _ => none
        else do
          let x ← simpleEscape? e
          let (xs, rest) ← readUnits u
          return (x :: xs, rest)
    else if c.val < 32 then none
    else do
      let (xs, rest) ← readUnits t
      return (c :: xs, rest)

/-- A text after its opening quote, and what follows the closing one. -/
def readString (t : Text) : Option (Text × Text) := do
  let (xs, rest) ← readUnits t
  return (joinSurrogates xs, rest)

/-! ### Numbers -/

/-- The digits of a whole number without superfluous zeros. -/
def readWhole (t : Text) : Option (List Nat × Text) :=
  match t with
  | [] => none
  | c :: u =>
    if c.val = 48 then some ([0], u)
    else if c.isAsciiDigit then some (Decimal.readDigits t)
    else none

/-- The digits after a point, if the text goes on with some. -/
def readFraction (t : Text) : Option (List Nat × Text) :=
  match t with
  | [] => none
  | c :: u =>
    if c.val = 46 then
      match Decimal.readDigits u with
      | ([], _) => none
      | (ds, rest) => some (ds, rest)
    else none

/-- The exponent, if the text goes on with one. -/
def readExponent (t : Text) : Option (Int × Text) :=
  match t with
  | [] => none
  | c :: u =>
    if c.val = 69 ∨ c.val = 101 then
      let (negative, u) := Decimal.readSign u
      match Decimal.readDigits u with
      | ([], _) => none
      | (ds, rest) =>
        let n : Int := Text.natOfDigits ds
        some (if negative then -n else n, rest)
    else none

/-- A number after its sign. Whole numbers have at most `limit` digits, if there is a limit. -/
def readNumber (limit : Option Nat) (negative : Bool) (t : Text) : Outcome (Value × Text) :=
  match readWhole t with
  | none => .error .malformedJson
  | some (whole, rest) =>
    let fraction := readFraction rest
    let rest := (fraction.map (·.2)).getD rest
    let exponent := readExponent rest
    let rest := (exponent.map (·.2)).getD rest
    if fraction.isNone && exponent.isNone then
      if limit.any fun l => l < whole.length then .error (.numeralTooLong (some whole.length))
      else
        let n : Int := Text.natOfDigits whole
        .ok (.int (if negative then -n else n), rest)
    else
      let digits := (fraction.map (·.1)).getD []
      let e := (exponent.map (·.1)).getD 0
      .ok (.float (.ofScientific negative (Text.natOfDigits (whole ++ digits)) (e - digits.length)),
        rest)

/-! ### Documents -/

/-- The entries with one more; an earlier entry with the key keeps its place. -/
def putEntry (es : List (Value × Value)) (key : Text) (v : Value) : List (Value × Value) :=
  if (Value.lookup? key es).isSome then
    es.map fun e => if e.1.text? = some key then (e.1, v) else e
  else es ++ [(.text key, v)]

/-- The words that stand for values. -/
def words : List (Text × Value) := [
  ("null", .null), ("true", .bool true), ("false", .bool false), ("NaN", .float .nan),
  ("Infinity", .float (.infinity false)), ("-Infinity", .float (.infinity true))]

/-- The word at the start of a text. -/
def readWord (t : Text) : Option (Value × Text) :=
  words.findSome? fun (w, v) => (Text.dropLiteral? w t).map fun rest => (v, rest)

mutual

/-- A value at the start of a text, and what follows it. -/
def readValue (limit : Option Nat) : (fuel : Nat) → Text → Outcome (Value × Text)
  | 0, _ => .error .malformedJson
  | fuel + 1, t =>
    match t with
    | [] => .error .malformedJson
    | c :: u =>
      if c.val = 34 then
        match readString u with
        | some (s, rest) => .ok (.text s, rest)
        | none => .error .malformedJson
      else if c.val = 91 then
        match skipBlanks u with
        | [] => .error .malformedJson
        | d :: v =>
          if d.val = 93 then .ok (.list [], v) else readItems limit fuel [] (d :: v)
      else if c.val = 123 then
        match skipBlanks u with
        | [] => .error .malformedJson
        | d :: v =>
          if d.val = 125 then .ok (.dict [], v) else readEntries limit fuel [] (d :: v)
      else
        match readWord t with
        | some r => .ok r
        | none =>
          if c.val = 45 then readNumber limit true u else readNumber limit false t

/-- The members of an array from its next member on. -/
def readItems (limit : Option Nat) : (fuel : Nat) → (done : List Value) → Text →
    Outcome (Value × Text)
  | 0, _, _ => .error .malformedJson
  | fuel + 1, done, t => do
    let (v, rest) ← readValue limit fuel t
    match skipBlanks rest with
    | [] => throw .malformedJson
    | c :: u =>
      if c.val = 93 then return (.list (v :: done).reverse, u)
      else if c.val = 44 then readItems limit fuel (v :: done) (skipBlanks u)
      else throw .malformedJson

/-- The entries of an object from its next key on. -/
def readEntries (limit : Option Nat) : (fuel : Nat) → (done : List (Value × Value)) → Text →
    Outcome (Value × Text)
  | 0, _, _ => .error .malformedJson
  | fuel + 1, done, t => do
    match t with
    | [] => throw .malformedJson
    | q :: u =>
      if q.val ≠ 34 then throw .malformedJson
      match readString u with
      | none => throw .malformedJson
      | some (key, rest) =>
        match skipBlanks rest with
        | [] => throw .malformedJson
        | colon :: rest =>
          if colon.val ≠ 58 then throw .malformedJson
          let (v, rest) ← readValue limit fuel (skipBlanks rest)
          let done := putEntry done key v
          match skipBlanks rest with
          | [] => throw .malformedJson
          | c :: u =>
            if c.val = 125 then return (.dict done, u)
            else if c.val = 44 then readEntries limit fuel done (skipBlanks u)
            else throw .malformedJson

end

/-- Reads a document whose whole numbers have at most `limit` digits, if there is a limit. -/
def readWith (limit : Option Nat) (t : Text) : Outcome Value := do
  let (v, rest) ← readValue limit (2 * t.length + 2) (skipBlanks t)
  if (skipBlanks rest).isEmpty then return v else throw .malformedJson

/-- Reads a document. -/
def read (t : Text) : Outcome Value := readWith (some Numeral.digitLimit) t

end LedgerTags.Json

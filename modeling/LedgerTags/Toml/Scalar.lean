import LedgerTags.Calendar.DateTime
import LedgerTags.Error

/-!
# Scalars of a TOML document

Texts, numbers, truth values, dates and times, and the keys of entries. Each reader takes the text
from the scalar on and gives its value with the text behind it. All that breaks the rules of the
format is one error; only a whole number with too many digits is another.
-/

namespace LedgerTags.Toml

/-- The rules of the format are broken. -/
def malformed {α : Type} : Outcome α := .error .malformedToml

/-! ### Blanks and comments -/

/-- A space or a tab. -/
def isBlank (c : CodePoint) : Bool := c.val == 32 || c.val == 9

/-- A character that no text or comment on one line may contain. -/
def isIllegal (c : CodePoint) : Bool := (c.val < 32 && c.val != 9) || c.val == 127

/-- A character that no text on several lines may contain. -/
def isIllegalInLines (c : CodePoint) : Bool := isIllegal c && c.val != 10

/-- The text without its leading blanks. -/
def skipBlanks (t : Text) : Text := t.dropWhile isBlank

/-- The text without the comment that it begins with. -/
def skipComment (t : Text) : Outcome Text :=
  match t with
  | [] => .ok []
  | c :: u =>
    if c.val = 35 then
      let comment := u.takeWhile fun d => d.val != 10
      if comment.any isIllegal then malformed else .ok (u.dropWhile fun d => d.val != 10)
    else .ok t

/-- The text without its leading blanks, line ends and comments. -/
def skipGap : (fuel : Nat) → Text → Outcome Text
  | 0, t => .ok t
  | fuel + 1, t => do
    let u := t.dropWhile fun c => isBlank c || c.val == 10
    let v ← skipComment u
    if v.length = t.length then return t else skipGap fuel v

/-! ### Texts -/

/-- The character that a letter after a backslash stands for. -/
def simpleEscape? (c : CodePoint) : Option CodePoint :=
  let known : List (Nat × Nat) :=
    [(98, 8), (116, 9), (110, 10), (102, 12), (114, 13), (34, 34), (92, 92)]
  (known.lookup c.val).map CodePoint.ofNat

/-- The character that `n` hexadecimal digits name, which is not a surrogate. -/
def readNumbered (n : Nat) (t : Text) : Outcome (Text × Text) := do
  let digits := t.take n
  if digits.length < n then malformed
  match digits.mapM CodePoint.hexValue? with
  | none => malformed
  | some ds =>
    match CodePoint.ofNat? (ds.foldl (fun n d => 16 * n + d) 0) with
    | none => malformed
    | some c => if c.isSurrogate then malformed else return ([c], t.drop n)

/-- What an escape stands for, from the character after the backslash on. In a text on several lines
a backslash at the end of a line hides the line end and the blanks behind it. -/
def readEscape (inLines : Bool) (t : Text) : Outcome (Text × Text) :=
  match t with
  | [] => malformed
  | c :: u =>
    if inLines && (isBlank c || c.val == 10) then
      let skipLines (t : Text) : Text := t.dropWhile fun d => isBlank d || d.val == 10
      match skipBlanks t with
      | [] => .ok ([], [])
      | d :: v => if d.val = 10 then .ok ([], skipLines v) else malformed
    else if c.val = 117 then readNumbered 4 u
    else if c.val = 85 then readNumbered 8 u
    else
      match simpleEscape? c with
      | some d => .ok ([d], u)
      | none => malformed

/-- Three characters of one kind at the start of a text, and what follows them. -/
def dropThree? (quote : Nat) : Text → Option Text
  | a :: b :: c :: t => if a.val = quote ∧ b.val = quote ∧ c.val = quote then some t else none
  | _ => none

/-- A text with escapes up to its closing quote, or up to three of them for a text on several
lines. -/
def readEscaped (inLines : Bool) : (fuel : Nat) → Text → Outcome (Text × Text)
  | 0, _ => malformed
  | fuel + 1, t =>
    match t with
    | [] => malformed
    | c :: u =>
      if c.val = 34 then
        if inLines then
          match dropThree? 34 t with
          | some v => .ok ([], v)
          | none => do
            let (more, v) ← readEscaped inLines fuel u
            return (c :: more, v)
        else .ok ([], u)
      else if c.val = 92 then do
        let (piece, v) ← readEscape inLines u
        let (more, v) ← readEscaped inLines fuel v
        return (piece ++ more, v)
      else if if inLines then isIllegalInLines c else isIllegal c then malformed
      else do
        let (more, v) ← readEscaped inLines fuel u
        return (c :: more, v)

/-- A text without escapes on one line, after its opening quote. -/
def readLiteral (t : Text) : Outcome (Text × Text) :=
  let body := t.takeWhile fun c => c.val != 39
  match t.dropWhile fun c => c.val != 39 with
  | [] => malformed
  | _ :: rest => if body.any isIllegal then malformed else .ok (body, rest)

/-- A text without escapes on several lines up to three closing quotes. -/
def readLiteralLines : Text → Outcome (Text × Text)
  | [] => malformed
  | c :: t =>
    match dropThree? 39 (c :: t) with
    | some rest => .ok ([], rest)
    | none =>
      if isIllegalInLines c then malformed
      else do
        let (more, rest) ← readLiteralLines t
        return (c :: more, rest)

/-- Up to two more quotes that belong to a text on several lines, after its closing quotes. -/
def readLastQuotes (quote : Nat) (body rest : Text) : Text × Text :=
  let more := (rest.take 2).takeWhile fun c => c.val == quote
  (body ++ more, rest.drop more.length)

/-- The text without the line end that it begins with. -/
def dropLineEnd (t : Text) : Text :=
  match t with
  | c :: u => if c.val = 10 then u else t
  | [] => []

/-- A text in quotes from its opening quote on; `lines` whether three quotes open one on several
lines. -/
def readText (lines : Bool) (t : Text) : Outcome (Text × Text) :=
  match t with
  | [] => malformed
  | c :: u =>
    let body? := if lines then dropThree? c.val t else none
    if c.val = 34 then
      match body? with
      | some v => do
        let (body, rest) ← readEscaped true (v.length + 1) (dropLineEnd v)
        return readLastQuotes 34 body rest
      | none => readEscaped false (u.length + 1) u
    else if c.val = 39 then
      match body? with
      | some v => do
        let (body, rest) ← readLiteralLines (dropLineEnd v)
        return readLastQuotes 39 body rest
      | none => readLiteral u
    else malformed

/-! ### Keys -/

/-- A character of a key without quotes. -/
def isKeyChar (c : CodePoint) : Bool :=
  c.isAsciiLetter || c.isAsciiDigit || c.val == 45 || c.val == 95

/-- A character that a key begins with. -/
def beginsKey (c : CodePoint) : Bool := isKeyChar c || c.val == 34 || c.val == 39

/-- One part of a key, and the text behind the blanks that follow it. -/
def readKeyPart (t : Text) : Outcome (Text × Text) := do
  match t with
  | [] => malformed
  | c :: _ =>
    let (part, rest) ←
      if isKeyChar c then pure (t.takeWhile isKeyChar, t.dropWhile isKeyChar)
      else readText false t
    return (part, skipBlanks rest)

/-- A key: its parts with points between them. -/
def readKey : (fuel : Nat) → Text → Outcome (List Text × Text)
  | 0, _ => malformed
  | fuel + 1, t => do
    let (part, rest) ← readKeyPart t
    match rest with
    | c :: u =>
      if c.val = 46 then
        let (parts, rest) ← readKey fuel (skipBlanks u)
        return (part :: parts, rest)
      else return ([part], rest)
    | [] => return ([part], [])

/-! ### Numbers -/

/-- The longest run of digits at the start of a text in which a low line may stand between two
digits: the run, and the text behind it. -/
def readDigits (isDigit : CodePoint → Bool) : Text → Text × Text
  | [] => ([], [])
  | c :: t =>
    if isDigit c then
      match t with
      | u :: d :: rest =>
        if u.val = 95 && isDigit d then
          let (more, rest) := readDigits isDigit (d :: rest)
          (c :: u :: more, rest)
        else
          let (more, rest) := readDigits isDigit (u :: d :: rest)
          (c :: more, rest)
      | t =>
        let (more, rest) := readDigits isDigit t
        (c :: more, rest)
    else ([], c :: t)

/-- The whole number that a numeral stands for. -/
def wholeNumber (base : Nat) (t : Text) : Outcome Value :=
  match Numeral.int? base t with
  | .ok n => .ok (.int n)
  | .error .malformed => malformed
  | .error (.tooLong n) => .error (.numeralTooLong (some n))

/-- A whole number to the base two, eight or sixteen, if there is one. -/
def readBased? (t : Text) : Option (Outcome Value × Text) :=
  match t with
  | z :: x :: u =>
    let read (base : Nat) (isDigit : CodePoint → Bool) : Option (Outcome Value × Text) :=
      match readDigits isDigit u with
      | ([], _) => none
      | (ds, rest) => some (wholeNumber base ds, rest)
    if z.val ≠ 48 then none
    else if x.val = 120 then read 16 fun c => c.hexValue?.isSome
    else if x.val = 98 then read 2 fun c => c.val == 48 || c.val == 49
    else if x.val = 111 then read 8 fun c => 48 ≤ c.val && c.val ≤ 55
    else none
  | _ => none

/-- The digits of a number to the base ten before its point: a zero, or a run that begins with
another digit. -/
def readWhole? (t : Text) : Option (Text × Text) :=
  match t with
  | [] => none
  | c :: u =>
    if c.val = 48 then some ([c], u)
    else if c.isAsciiDigit then some (readDigits CodePoint.isAsciiDigit t)
    else none

/-- A point or an exponent mark with what has to stand before the digits, and the digits, if they
follow. -/
def readPart (mark : Text) (t : Text) : Text × Text :=
  match readDigits CodePoint.isAsciiDigit t with
  | ([], _) => ([], mark ++ t)
  | (ds, rest) => (mark ++ ds, rest)

/-- The sign at the start of a text, and the rest. -/
def splitSign (t : Text) : Text × Text :=
  match t with
  | c :: u => if c.val = 43 ∨ c.val = 45 then ([c], u) else ([], t)
  | [] => ([], [])

/-- The part of a number after its point. -/
def readFraction (t : Text) : Text × Text :=
  match t with
  | c :: u => if c.val = 46 then readPart [c] u else ([], t)
  | [] => ([], [])

/-- The exponent of a number. -/
def readExponent (t : Text) : Text × Text :=
  match t with
  | c :: u =>
    if c.val = 101 ∨ c.val = 69 then
      let (sign, v) := splitSign u
      readPart (c :: sign) v
    else ([], t)
  | [] => ([], [])

/-- A number to the base ten, if there is one. -/
def readDecimal? (t : Text) : Option (Outcome Value × Text) := do
  let (sign, u) := splitSign t
  let (whole, rest) ← readWhole? u
  let (fraction, rest) := readFraction rest
  let (exponent, rest) := readExponent rest
  let value : Outcome Value :=
    if fraction.isEmpty && exponent.isEmpty then wholeNumber 10 (sign ++ whole)
    else
      match Numeral.float? (sign ++ whole ++ fraction ++ exponent) with
      | some x => .ok (.float x)
      | none => malformed
  return (value, rest)

/-- The words for numbers that are not finite. -/
def words : List (Text × Value) := [
  ("inf", .float (.infinity false)), ("nan", .float .nan), ("-inf", .float (.infinity true)),
  ("+inf", .float (.infinity false)), ("-nan", .float .nan), ("+nan", .float .nan)]

/-- One of the words at the start of a text, and what follows it. -/
def readWord? (ws : List (Text × Value)) (t : Text) : Option (Value × Text) :=
  ws.findSome? fun (w, v) => (Text.dropLiteral? w t).map fun rest => (v, rest)

/-! ### Dates and times -/

/-- The number of `n` digits between bounds at the start of a text, and what follows them. -/
def number? (n lo hi : Nat) (t : Text) : Option (Nat × Text) := do
  if (t.take n).length < n then none
  let k ← Text.asciiNat? (t.take n)
  if lo ≤ k ∧ k ≤ hi then some (k, t.drop n) else none

/-- The microseconds of a time, if it gives some. -/
def readMicroseconds (t : Text) : Nat × Text :=
  match t with
  | c :: u =>
    let ds := u.takeWhile CodePoint.isAsciiDigit
    if c.val = 46 ∧ !ds.isEmpty then
      ((Text.asciiNat? ((ds ++ "000000").take 6)).getD 0, u.dropWhile CodePoint.isAsciiDigit)
    else (0, t)
  | [] => (0, [])

/-- A time of day. -/
def readTime? (t : Text) : Option (TimeOfDay × Text) := do
  let (hour, t) ← number? 2 0 23 t
  let (minute, t) ← number? 2 0 59 (← Text.dropLiteral? ":" t)
  let (second, t) ← number? 2 0 59 (← Text.dropLiteral? ":" t)
  let (microsecond, t) := readMicroseconds t
  return (⟨hour, minute, second, microsecond⟩, t)

/-- The distance from universal time in minutes, if one follows. -/
def readOffset (t : Text) : Option Int × Text :=
  match t with
  | [] => (none, [])
  | c :: u =>
    if c.val = 90 ∨ c.val = 122 then (some 0, u)
    else if c.val = 43 ∨ c.val = 45 then
      let read : Option (Int × Text) := do
        let (hours, v) ← number? 2 0 23 u
        let (minutes, v) ← number? 2 0 59 (← Text.dropLiteral? ":" v)
        let n : Int := hours * 60 + minutes
        return (if c.val = 45 then -n else n, v)
      match read with
      | some (n, v) => (some n, v)
      | none => (none, t)
    else (none, t)

/-- A time of day with its distance from universal time, behind a date. -/
def readTimeOfDate? (t : Text) : Option ((TimeOfDay × Option Int) × Text) :=
  match t with
  | [] => none
  | c :: u =>
    if c.val = 84 ∨ c.val = 116 ∨ c.val = 32 then do
      let (time, v) ← readTime? u
      let (offset, v) := readOffset v
      return ((time, offset), v)
    else none

/-- A date, or a date with a time of day, if there is one. -/
def readDate? (t : Text) : Option (Outcome Value × Text) := do
  let (year, t) ← number? 4 0 9999 t
  let (month, t) ← number? 2 1 12 (← Text.dropLiteral? "-" t)
  let (day, t) ← number? 2 1 31 (← Text.dropLiteral? "-" t)
  let date : Outcome Date :=
    match Date.ofNumbers year month day with
    | .ok d => .ok d
    | .error _ => malformed
  match readTimeOfDate? t with
  | some ((time, offset), rest) =>
    return (date.map fun date => .dateTime { date, time, offset }, rest)
  | none => return (date.map .date, t)

end LedgerTags.Toml

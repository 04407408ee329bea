import LedgerTags.Text.Class

/-!
# Cutting and joining texts

Trimming, searching, splitting and joining, and the decimal text of whole numbers. Line boundaries
come in two kinds: `splitLines` cuts at every boundary of the Unicode repertoire, while
`unifyNewlines` knows the carriage return and the line feed alone.
-/

namespace LedgerTags.Text

/-! ### Trimming and searching -/

/-- The text without its leading white space. -/
def trimLeft (t : Text) : Text := t.dropWhile CodePoint.isSpace

/-- The text without its trailing white space. -/
def trimRight (t : Text) : Text := (t.reverse.dropWhile CodePoint.isSpace).reverse

/-- The text without the white space around it. -/
def trim (t : Text) : Text := trimRight (trimLeft t)

/-- What follows `lit` in a text that begins with it. -/
def dropLiteral? : Text → Text → Option Text
  | [], t => some t
  | _ :: _, [] => none
  | a :: lit, b :: t => if a = b then dropLiteral? lit t else none

/-- Whether the text begins with `lit`. -/
def startsWith (t lit : Text) : Bool := (dropLiteral? lit t).isSome

/-- Whether `needle` stands somewhere in a text as consecutive code points. -/
def occursIn (needle : Text) : Text → Bool
  | [] => needle.isEmpty
  | c :: t => startsWith (c :: t) needle || occursIn needle t

/-! ### Splitting and joining -/

/-- The parts before and after the first `c`. -/
def splitAtFirst? (c : CodePoint) : Text → Option (Text × Text)
  | [] => none
  | d :: t => if d = c then some ([], t) else (splitAtFirst? c t).map fun p => (d :: p.1, p.2)

/-- The parts between the occurrences of `c`; at least one. -/
def splitOn (c : CodePoint) : Text → List Text
  | [] => [[]]
  | d :: t =>
    if d = c then [] :: splitOn c t
    else
      match splitOn c t with
      | [] => [[d]]
      | p :: ps => (d :: p) :: ps

/-- The texts one after the other with `sep` between them. -/
def joinWith (sep : Text) : List Text → Text
  | [] => []
  | [t] => t
  | t :: ts => t ++ sep ++ joinWith sep ts

/-- A character that ends a line: line feed, carriage return, the vertical tab and form feed, the
information separators, and the line ends beyond ASCII. -/
def isLineBoundary (c : CodePoint) : Bool :=
  (10 ≤ c.val && c.val ≤ 13) || (28 ≤ c.val && c.val ≤ 30) || c.val == 0x85 || c.val == 0x2028 ||
    c.val == 0x2029

/-- Helper of `splitLines`: `line` is the line read so far, last character first. -/
def splitLinesFrom (line : Text) : Text → List Text
  | [] => if line.isEmpty then [] else [line.reverse]
  | c :: t =>
    if isLineBoundary c then
      match t with
      | d :: u =>
        if c.val = 13 ∧ d.val = 10 then line.reverse :: splitLinesFrom [] u
        else line.reverse :: splitLinesFrom [] (d :: u)
      | [] => [line.reverse]
    else splitLinesFrom (c :: line) t

/-- The lines of a text without their ends; a carriage return and line feed count as one end, and
the end of the last line is optional. -/
def splitLines (t : Text) : List Text := splitLinesFrom [] t

/-- Every line end of the three common forms written as a line feed. -/
def unifyNewlines : Text → Text
  | [] => []
  | c :: t =>
    if c.val = 13 then
      match t with
      | d :: u =>
        if d.val = 10 then ('\n' : CodePoint) :: unifyNewlines u
        else ('\n' : CodePoint) :: unifyNewlines (d :: u)
      | [] => [('\n' : CodePoint)]
    else c :: unifyNewlines t

/-! ### Whole numbers -/

/-- The decimal numeral of a number. -/
def ofNat (n : Nat) : Text := (Nat.toDigits 10 n).map CodePoint.ofChar

/-- The decimal numeral of an integer. -/
def ofInt : Int → Text
  | .ofNat n => ofNat n
  | .negSucc n => ('-' : CodePoint) :: ofNat (n + 1)

/-- The numeral padded on the left with zeros to at least `width` digits. -/
def ofNatPadded (width n : Nat) : Text :=
  let t := ofNat n
  List.replicate (width - t.length) ('0' : CodePoint) ++ t

/-- The text padded on the right with blanks to at least `width` characters. -/
def padRight (width : Nat) (t : Text) : Text :=
  t ++ List.replicate (width - t.length) (' ' : CodePoint)

/-- The number that a list of digit values stands for. -/
def natOfDigits (ds : List Nat) : Nat := ds.foldl (fun n d => 10 * n + d) 0

/-- The number of a non-empty text of ASCII digits. -/
def asciiNat? (t : Text) : Option Nat :=
  if t.isEmpty || !t.all CodePoint.isAsciiDigit then none
  else some (natOfDigits (t.map fun c => c.val - 48))

/-- The lower-case hexadecimal numeral of a number, padded with zeros to at least `width`
digits. -/
def hexPadded (width n : Nat) : Text :=
  let t := (Nat.toDigits 16 n).map CodePoint.ofChar
  List.replicate (width - t.length) ('0' : CodePoint) ++ t

end LedgerTags.Text

import LedgerTags.Text.Basic

/-!
# Tags

The tag of a node says what kind of value it stands for. A plain scalar without a tag gets one by
its form: the first character decides which forms are tried, and a scalar of none of them is a text.
A line feed at the end of a scalar does not keep it from having a form.
-/

namespace LedgerTags.Yaml

/-- The kinds of values that nodes stand for. -/
inductive Tag where
  | null
  | bool
  | int
  | float
  | timestamp
  | binary
  | text
  | sequence
  | mapping
  /-- A set, written as a mapping from its members to nothing. -/
  | set
  /-- A list of pairs, written as a list of mappings with one entry each. -/
  | pairs
  /-- The key under which a mapping takes over the entries of others. -/
  | merge
  /-- The key whose value stands for a mapping where a scalar is wanted. -/
  | value
  /-- A kind that is not known. -/
  | unknown
deriving DecidableEq, Repr

namespace Tag

/-- What the full names of the known tags begin with. -/
def family : Text := "tag:yaml.org,2002:"

/-- The known tags by the ends of their full names. -/
def names : List (Text × Tag) := [
  ("null", null), ("bool", bool), ("int", int), ("float", float), ("timestamp", timestamp),
  ("binary", binary), ("str", text), ("seq", sequence), ("map", mapping), ("set", set),
  ("omap", pairs), ("pairs", pairs), ("merge", merge), ("value", value)]

/-- The tag of a full name. -/
def ofName (t : Text) : Tag :=
  match Text.dropLiteral? family t with
  | some rest => (names.lookup rest).getD unknown
  | none => unknown

/-! ### Forms of scalars -/

/-- A form: how many ways of reading a text from its start there are, by what is left. -/
abbrev Form := Text → List Text

/-- One character of a class. -/
def one (p : CodePoint → Bool) : Form
  | [] => []
  | c :: t => if p c then [t] else []

/-- Nothing, or what a form reads. -/
def maybe (f : Form) : Form := fun t => f t ++ [t]

/-- Two forms one after the other. -/
def andThen (f g : Form) : Form := fun t => (f t).flatMap g

/-- Forms one after the other. -/
def inOrder (fs : List Form) : Form := fs.foldr andThen fun t => [t]

/-- One of several forms. -/
def oneOf (fs : List Form) : Form := fun t => fs.flatMap fun f => f t

/-- Any number of characters of a class; as many as there are. -/
def run (p : CodePoint → Bool) : Form := fun t => [t.dropWhile p]

/-- At least one character of a class. -/
def run1 (p : CodePoint → Bool) : Form := andThen (one p) (run p)

/-- A given word. -/
def word (w : String) : Form := fun t => (Text.dropLiteral? w t).toList

/-- One of several words. -/
def words (ws : List String) : Form := oneOf (ws.map word)

/-- A form one or more times, up to the length of the text. -/
def repeated (f : Form) : Form := fun t =>
  let rec go : Nat → Form
    | 0, _ => []
    | fuel + 1, t => (f t).flatMap fun u => go fuel u ++ [u]
  go t.length t

/-- The text has a form. -/
def fits (f : Form) (t : Text) : Bool := (f t).any List.isEmpty

/-- An ASCII digit. -/
def isDigit (c : CodePoint) : Bool := c.isAsciiDigit

/-- A character from `lo` to `hi`. -/
def isBetween (lo hi : Char) (c : CodePoint) : Bool := lo.toNat ≤ c.val && c.val ≤ hi.toNat

/-- An ASCII digit, or the low line that groups digits. -/
def isDigitOrLowLine (c : CodePoint) : Bool := c.isAsciiDigit || c.val == 95

/-- A plus or a minus. -/
def isSign (c : CodePoint) : Bool := c.val == 45 || c.val == 43

/-- A sign, or nothing. -/
def sign : Form := maybe (one isSign)

/-- A part of a number to the base sixty, after a colon. -/
def sixtieth : Form := inOrder [word ":", maybe (one (isBetween '0' '5')), one isDigit]

/-- The words for truth values. -/
def boolForm : Form := words [
  "yes", "Yes", "YES", "no", "No", "NO", "true", "True", "TRUE", "false", "False", "FALSE", "on",
  "On", "ON", "off", "Off", "OFF"]

/-- Whole numbers to the bases two, eight, ten, sixteen and sixty. -/
def intForm : Form := andThen sign (oneOf [
  andThen (word "0b") (run1 fun c => c.val == 48 || c.val == 49 || c.val == 95),
  andThen (word "0") (run1 fun c => isBetween '0' '7' c || c.val == 95),
  word "0",
  andThen (one (isBetween '1' '9')) (run isDigitOrLowLine),
  andThen (word "0x") (run1 fun c => c.hexValue?.isSome || c.val == 95),
  inOrder [one (isBetween '1' '9'), run isDigitOrLowLine, repeated sixtieth]])

/-- An exponent with its sign. -/
def exponent : Form :=
  maybe (inOrder [one (fun c => c.val == 101 || c.val == 69), one isSign, run1 isDigit])

/-- Numbers with a point, to the bases ten and sixty, and the words for the numbers that are not
finite. -/
def floatForm : Form := oneOf [
  inOrder [sign, one isDigit, run isDigitOrLowLine, word ".", run isDigitOrLowLine, exponent],
  inOrder [word ".", one isDigit, run isDigitOrLowLine, exponent],
  inOrder [sign, one isDigit, run isDigitOrLowLine, repeated sixtieth, word ".",
    run isDigitOrLowLine],
  inOrder [sign, words [".inf", ".Inf", ".INF"]],
  words [".nan", ".NaN", ".NAN"]]

/-- The words for nothing, and nothing at all. -/
def nullForm : Form := words ["~", "null", "Null", "NULL", ""]

/-- One or two digits. -/
def digits12 : Form := andThen (one isDigit) (maybe (one isDigit))

/-- Two digits. -/
def digits2 : Form := andThen (one isDigit) (one isDigit)

/-- Dates, and dates with a time of day. -/
def timestampForm : Form :=
  let year := andThen digits2 digits2
  let blank (c : CodePoint) : Bool := c.val == 32 || c.val == 9
  oneOf [
    inOrder [year, word "-", digits2, word "-", digits2],
    inOrder [year, word "-", digits12, word "-", digits12,
      oneOf [one fun c => c.val == 84 || c.val == 116, run1 blank], digits12, word ":", digits2,
      word ":", digits2, maybe (andThen (word ".") (run isDigit)),
      maybe (andThen (run blank) (oneOf [
        word "Z", inOrder [one isSign, digits12, maybe (andThen (word ":") digits2)]]))]]

/-- The forms of scalars that are not texts, in the order in which they are tried, with the
characters that they may begin with. -/
def forms : List (String × Tag × Form) := [
  ("yYnNtTfFoO", bool, boolForm),
  ("-+0123456789.", float, floatForm),
  ("-+0123456789", int, intForm),
  ("<", merge, word "<<"),
  ("~nN", null, nullForm),
  ("0123456789", timestamp, timestampForm),
  ("=", value, word "="),
  ("!&*", unknown, words ["!", "&", "*"])]

/-- The tag that a plain scalar has by its form. -/
def ofPlain (t : Text) : Tag :=
  match t with
  | [] => null
  | c :: _ =>
    let body := if t.getLast? = some (CodePoint.ofNat 10) then t.dropLast else t
    let first := forms.find? fun (starts, _, form) =>
      (starts.toList.any fun d => d.toNat == c.val) && fits form body
    match first with
    | some (_, tag, _) => tag
    | none => text

end Tag

end LedgerTags.Yaml

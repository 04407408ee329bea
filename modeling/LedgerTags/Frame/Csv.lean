import LedgerTags.FileSystem.Tree
import LedgerTags.Frame.Basic

/-!
# Comma-separated values

A table is written with the names of its columns on the first line and a line for each row. A cell
is put between quotation marks if it contains a comma, a quotation mark or a line feed, and a
quotation mark inside it is written twice. Dates are written without zeros before the year.

A text with a surrogate cannot be stored. The lines before the one in which it occurs are stored all
the same.
-/

namespace LedgerTags.Frame.Csv

/-- The quotation mark. -/
def mark : CodePoint := '"'

/-- A character that makes a cell be quoted. -/
def isSpecial (c : CodePoint) : Bool := c.val == 44 || c == mark || c.val == 10

/-- The inside of a quoted cell. -/
def doubleMarks (t : Text) : Text := t.flatMap fun c => if c = mark then [mark, mark] else [c]

/-- A cell with quotation marks where it needs them. -/
def encode (t : Text) : Text :=
  if t.any isSpecial then mark :: (doubleMarks t ++ [mark]) else t

/-- The text of a date in a cell. -/
def dateText (d : Date) : Text :=
  Text.ofNat d.year ++ "-" ++ Text.ofNatPadded 2 d.month ++ "-" ++ Text.ofNatPadded 2 d.day

/-- The text of a cell. -/
def cellText : Value → Text
  | .null => []
  | .date d => dateText d
  | v => v.plain

/-- A line of some texts. -/
def line (cells : List Text) : Text := Text.joinWith "," (cells.map encode) ++ "\n"

/-- The lines of a table. -/
def lines (f : Frame) : List Text :=
  line f.names :: f.rows.map fun cells => line (cells.map cellText)

/-! ### Storing -/

/-- The error that a line with a surrogate cannot be stored, with the places of the first run of
surrogates. -/
def surrogates? (t : Text) : Option Error :=
  match t.dropWhile fun c => !c.isSurrogate with
  | [] => none
  | c :: rest =>
    let first := (t.takeWhile fun c => !c.isSurrogate).length
    some (.unwritable c first (first + (rest.takeWhile CodePoint.isSurrogate).length))

/-- The octets of the lines up to the first one that cannot be stored, and the error for that
one. -/
def octets : List Text → List UInt8 × Outcome Unit
  | [] => ([], .ok ())
  | t :: ts =>
    match surrogates? t with
    | some e => ([], .error e)
    | none =>
      let (rest, result) := octets ts
      (Text.Utf8.encode t ++ rest, result)

/-- The directory part of a path. -/
def parent (path : Text) : Text :=
  let names := Path.names path
  Path.ofNames (Path.root path) names.dropLast

/-- Stores a table in a file of an existing directory: the tree afterwards, and why the table was
not stored wholly. -/
def store (fs : FileSystem) (path : Text) (f : Frame) : FileSystem × Outcome Unit :=
  if !fs.isDirectory (parent path) then (fs, .error (.noParentDirectory (parent path)))
  else
    let (bs, result) := octets (lines f)
    match fs.write path bs with
    | .ok fs => (fs, result)
    | .error e => (fs, .error e)

end LedgerTags.Frame.Csv

import LedgerTags.Yaml.Cursor

/-!
# The text of a scalar

A scalar is written plain, between quotes or as a block. In the first two forms the lines are
folded: one line end between two lines is a space, and of several the first is dropped. A block
keeps its lines, or folds those that are not indented further. Between double quotes a backslash
begins an escape, or hides the line end behind it.
-/

namespace LedgerTags.Yaml

/-- What stands for the line end `first` between two lines of a folded text when the line ends
`more` follow it. -/
def foldBreaks (first more : Text) : Text :=
  if first ≠ [CodePoint.ofNat 10] then first ++ more
  else if more.isEmpty then [CodePoint.ofNat 32]
  else more

/-! ### Between quotes -/

/-- The blank lines at a cursor; no mark between documents may stand among them. -/
def readQuotedBreaks : (fuel : Nat) → Cursor → Reading (Text × Cursor)
  | 0, _ => .error .malformed
  | fuel + 1, c =>
    if c.seesSeparator then .error .malformed
    else
      let c := c.skipWhile isWhite
      if c.seesOne isBreak then do
        let (first, c) := c.readBreak
        let (more, c) ← readQuotedBreaks fuel c
        return (first ++ more, c)
      else .ok ([], c)

/-- The white space between two words, which may hold line ends. -/
def readQuotedGap (c : Cursor) : Reading (Text × Cursor) :=
  let (blanks, c) := c.takeWhile isWhite
  match c.peek with
  | none => .error .malformed
  | some d =>
    if isBreak d then do
      let (first, c) := c.readBreak
      let (more, c) ← readQuotedBreaks (c.rest.length + 1) c
      return (foldBreaks first more, c)
    else .ok (blanks, c)

/-- The character that a letter after a backslash stands for. -/
def simpleEscape? (c : CodePoint) : Option CodePoint :=
  let known : List (Nat × Nat) := [
    (48, 0), (97, 7), (98, 8), (116, 9), (9, 9), (110, 10), (118, 11), (102, 12), (114, 13),
    (101, 27), (32, 32), (34, 34), (92, 92), (47, 47), (78, 0x85), (95, 0xA0), (76, 0x2028),
    (80, 0x2029)]
  (known.lookup c.val).map CodePoint.ofNat

/-- How many digits follow a letter that announces the number of a character. -/
def escapeDigits? (c : CodePoint) : Option Nat :=
  let known : List (Nat × Nat) := [(120, 2), (117, 4), (85, 8)]
  known.lookup c.val

/-- The character that a hexadecimal number names. -/
def numberedChar (t : Text) : Reading CodePoint :=
  match t.mapM CodePoint.hexValue? with
  | none => .error .malformed
  | some ds =>
    let n := ds.foldl (fun n d => 16 * n + d) 0
    match CodePoint.ofNat? n with
    | some c => .ok c
    | none => .error (.noValue (if 0x80000000 ≤ n then .numberTooLarge else .noSuchCharacter))

/-- The text that an escape stands for, from the character after the backslash on. -/
def readEscape (c : Cursor) : Reading (Text × Cursor) :=
  match c.peek with
  | none => .error .malformed
  | some d =>
    match simpleEscape? d, escapeDigits? d with
    | some x, _ => .ok ([x], c.next)
    | none, some n => do
      let c := c.next
      if c.rest.length < n then throw .malformed
      return ([← numberedChar (c.rest.take n)], c.skip n)
    | none, none =>
      if isBreak d then do
        let c := c.readBreak.2
        readQuotedBreaks (c.rest.length + 1) c
      else .error .malformed

/-- The words of a quoted scalar up to the quote or to white space. -/
def readQuotedWord (double : Bool) : (fuel : Nat) → Cursor → Reading (Text × Cursor)
  | 0, _ => .error .malformed
  | fuel + 1, c => do
    let (word, c) := c.takeWhile fun d => !isOneOf "'\"\\ \t" d && !isBreak d
    let goOn (piece : Text) (c : Cursor) : Reading (Text × Cursor) := do
      let (more, c) ← readQuotedWord double fuel c
      return (word ++ piece ++ more, c)
    match c.peek with
    | none => return (word, c)
    | some d =>
      if d.val = 39 then
        if double then goOn [d] c.next
        else if c.peekAt 1 = some d then goOn [d] (c.skip 2)
        else return (word, c)
      else if d.val = 34 then
        if double then return (word, c) else goOn [d] c.next
      else if d.val = 92 then
        if double then
          let (piece, c) ← readEscape c.next
          goOn piece c
        else goOn [d] c.next
      else return (word, c)

/-- Words and white space up to the closing quote. -/
def readQuotedRest (double : Bool) : (fuel : Nat) → Cursor → Reading (Text × Cursor)
  | 0, _ => .error .malformed
  | fuel + 1, c => do
    let (word, c) ← readQuotedWord double (c.rest.length + 1) c
    if c.sees (if double then '"' else '\'') then return (word, c.next)
    let (gap, c) ← readQuotedGap c
    let (more, c) ← readQuotedRest double fuel c
    return (word ++ gap ++ more, c)

/-- A quoted scalar from its opening quote on. -/
def readQuoted (c : Cursor) : Reading (Text × Cursor) :=
  readQuotedRest (c.sees '"') (c.rest.length + 1) c.next

/-! ### Plain -/

/-- Whether a plain scalar ends before the first character of a text. -/
def endsPlain (inBrackets : Bool) : Text → Bool
  | [] => true
  | d :: t =>
    isBreak d || isWhite d ||
      (d.val == 58 &&
        (endsWord t.head? || (inBrackets && t.head?.any (isOneOf ",[]\x7b\x7d")))) ||
      (inBrackets && isOneOf ",?[]\x7b\x7d" d)

/-- How many characters of a text belong to a word of a plain scalar. -/
def plainLength (inBrackets : Bool) : Text → Nat
  | [] => 0
  | d :: t => if endsPlain inBrackets (d :: t) then 0 else plainLength inBrackets t + 1

/-- The line ends and spaces at a cursor, up to a mark between documents; whether there was none,
the line ends, and the cursor behind them. -/
def readPlainBreaks : (fuel : Nat) → Cursor → Bool × Text × Cursor
  | 0, c => (true, [], c)
  | fuel + 1, c =>
    if c.sees ' ' then readPlainBreaks fuel c.next
    else if c.seesOne isBreak then
      let (first, c) := c.readBreak
      if c.seesSeparator then (false, first, c)
      else
        let (free, more, c) := readPlainBreaks fuel c
        (free, first ++ more, c)
    else (true, [], c)

/-- The gap after a word of a plain scalar: its text, whether it holds a line end, and the cursor
behind it. A gap before a mark between documents is empty. -/
def readPlainGap (c : Cursor) : Text × Bool × Cursor :=
  let (blanks, c) := c.takeWhile isSpace
  if c.seesOne isBreak then
    let (first, c) := c.readBreak
    if c.seesSeparator then ([], true, c)
    else
      let (free, more, c) := readPlainBreaks (c.rest.length + 1) c
      (if free then foldBreaks first more else [], true, c)
  else (blanks, false, c)

/-- A plain scalar in a block indented by `indent`, whether the cursor behind it is on another line
than its last word, and that cursor. -/
def readPlain (inBrackets : Bool) (indent : Int) : (fuel : Nat) → (gap : Text) →
    (newLine : Bool) → Cursor → Text × Bool × Cursor
  | 0, _, newLine, c => ([], newLine, c)
  | fuel + 1, gap, newLine, c =>
    let n := plainLength inBrackets c.rest
    if c.sees '#' || n == 0 then ([], newLine, c)
    else
      let word := gap ++ c.rest.take n
      let (gap, newLine, c) := readPlainGap (c.skip n)
      if gap.isEmpty || c.sees '#' || (!inBrackets && (c.column : Int) ≤ indent) then
        (word, newLine, c)
      else
        let (more, newLine, c) := readPlain inBrackets indent fuel gap newLine c
        (word ++ more, newLine, c)

/-! ### Blocks -/

/-- What happens to the line ends that end a block. -/
inductive Chomping where
  /-- One is kept. -/
  | clip
  /-- None is kept. -/
  | strip
  /-- All are kept. -/
  | keep
deriving DecidableEq, Repr

/-- The sign that says what happens to the last line ends. -/
def readChomping (c : Cursor) : Option Chomping × Cursor :=
  if c.sees '+' then (some .keep, c.next)
  else if c.sees '-' then (some .strip, c.next)
  else (none, c)

/-- The digit that says how far a block is indented. -/
def readIndentation (c : Cursor) : Reading (Option Nat × Cursor) :=
  match c.peek with
  | some d =>
    if d.val = 48 then .error .malformed
    else if d.isAsciiDigit then .ok (some (d.val - 48), c.next)
    else .ok (none, c)
  | none => .ok (none, c)

/-- The signs after the one that begins a block, in either order. -/
def readBlockHeader (c : Cursor) : Reading (Chomping × Option Nat × Cursor) := do
  let (first, c) := readChomping c
  let (indentation, c) ← readIndentation c
  let (second, c) := if first.isNone && indentation.isSome then readChomping c else (none, c)
  if !endsPart c.peek then throw .malformed
  return ((first.orElse fun _ => second).getD .clip, indentation, ← c.skipComment)

/-- The blank lines at a cursor, the greatest column reached in them, and the cursor behind. -/
def readLeadingBreaks : (fuel widest : Nat) → Cursor → Text × Nat × Cursor
  | 0, widest, c => ([], widest, c)
  | fuel + 1, widest, c =>
    if c.sees ' ' then
      let c := c.next
      readLeadingBreaks fuel (max widest c.column) c
    else if c.seesOne isBreak then
      let (first, c) := c.readBreak
      let (more, widest, c) := readLeadingBreaks fuel widest c
      (first ++ more, widest, c)
    else ([], widest, c)

/-- The cursor behind the spaces up to a column. -/
def skipIndentation (indent : Nat) (c : Cursor) : Cursor :=
  c.skip (min (indent - c.column) (c.rest.takeWhile isSpace).length)

/-- The blank lines at a cursor, and the cursor behind the indentation of the next line. -/
def readBlockBreaks (indent : Nat) : (fuel : Nat) → Cursor → Text × Cursor
  | 0, c => ([], c)
  | fuel + 1, c =>
    let c := skipIndentation indent c
    if c.seesOne isBreak then
      let (first, c) := c.readBreak
      let (more, c) := readBlockBreaks indent fuel c
      (first ++ more, c)
    else ([], c)

/-- The lines of a block: their text, the end of the last one, the blank lines behind it, and the
cursor behind those. `breaks` are the blank lines before the next line. -/
def readBlockLines (folded : Bool) (indent : Nat) : (fuel : Nat) → (breaks : Text) → Cursor →
    Text × Text × Text × Cursor
  | 0, breaks, c => ([], [], breaks, c)
  | fuel + 1, breaks, c =>
    let isText (c : Cursor) : Bool := c.column == indent && !c.rest.isEmpty
    if !isText c then ([], [], breaks, c)
    else
      let indentedFurther := c.seesOne isWhite
      let (line, c) := c.takeWhile fun d => !isBreak d
      let (lineEnd, c) := c.readBreak
      let (more, c) := readBlockBreaks indent (c.rest.length + 1) c
      let before := breaks ++ line
      if !isText c then (before, lineEnd, more, c)
      else
        let joint : Text :=
          if folded && lineEnd == [CodePoint.ofNat 10] && !indentedFurther && !c.seesOne isWhite
          then (if more.isEmpty then [CodePoint.ofNat 32] else [])
          else lineEnd
        let (after, lastEnd, last, c) := readBlockLines folded indent fuel more c
        (before ++ joint ++ after, lastEnd, last, c)

/-- A block scalar from the sign that begins it on, inside a block indented by `indent`. -/
def readBlock (indent : Int) (c : Cursor) : Reading (Text × Cursor) := do
  let folded := c.sees '>'
  let (chomping, indentation, c) ← readBlockHeader c.next
  let least := (max 1 (indent + 1)).toNat
  let (width, breaks, c) :=
    match indentation with
    | none =>
      let (breaks, widest, c) := readLeadingBreaks (c.rest.length + 1) 0 c
      (max least widest, breaks, c)
    | some n =>
      let width := least + n - 1
      let (breaks, c) := readBlockBreaks width (c.rest.length + 1) c
      (width, breaks, c)
  let (lines, lineEnd, last, c) := readBlockLines folded width (c.rest.length + 1) breaks c
  return (match chomping with
    | .clip => lines ++ lineEnd
    | .strip => lines
    | .keep => lines ++ lineEnd ++ last, c)

end LedgerTags.Yaml

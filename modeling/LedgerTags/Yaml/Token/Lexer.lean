import LedgerTags.Number.Numeral
import LedgerTags.Text.Utf8
import LedgerTags.Yaml.ScalarText
import LedgerTags.Yaml.Token

/-!
# From text to tokens

A key of a mapping needs no sign of its own: only the colon behind it shows that it was one. So a
piece that may be a key is remembered, at most one for each depth of brackets, and when the colon
comes the token for the key is put before it. Such a key has to end on the line on which it begins,
within 1024 characters. Outside of brackets blocks are opened and closed by indentation.

A piece that may still turn out to be a key is not known yet, so a fault behind it comes first:
`Lexed.tokens` are the pieces that are known before the fault.
-/

namespace LedgerTags.Yaml

/-- The pieces of a text up to its end or up to a fault. -/
structure Lexed where
  /-- The pieces, in order. -/
  tokens : List Token
  /-- What is wrong behind them, if they do not reach the end. -/
  fault : Option Fault

namespace Lexer

/-- A piece that may be a key. -/
structure PossibleKey where
  /-- The number of its first token. -/
  token : Nat
  /-- Where it begins. -/
  index : Nat
  line : Nat
  column : Nat
  /-- Whether it has to be one, since it begins a line of a block of entries. -/
  required : Bool

/-- The state between two pieces. -/
structure State where
  /-- The place in the text. -/
  cursor : Cursor
  /-- The tokens so far, the last one first. -/
  tokens : List Token := []
  /-- How many there are. -/
  count : Nat := 0
  /-- The indentation of the innermost block, -1 outside of all. -/
  indent : Int := -1
  /-- The indentations of the blocks around it. -/
  outerIndents : List Int := []
  /-- The possible key at this depth of brackets. -/
  possible : Option PossibleKey := none
  /-- The possible keys at the depths around it. -/
  outerPossible : List (Option PossibleKey) := []
  /-- Whether a key may begin here. -/
  keyAllowed : Bool := true

namespace State

/-- Inside brackets. -/
def inBrackets (s : State) : Bool := !s.outerPossible.isEmpty

/-- The state with one more token. -/
def push (s : State) (t : Token) : State := { s with tokens := t :: s.tokens, count := s.count + 1 }

/-- The state with a token put before the one of a number. -/
def insert (s : State) (number : Nat) (t : Token) : State :=
  { s with tokens := s.tokens.insertIdx (s.count - number) t, count := s.count + 1 }

/-- The state at another place. -/
def moveTo (s : State) (c : Cursor) : State := { s with cursor := c }

/-- The state behind the next `n` characters. -/
def skip (s : State) (n : Nat) : State := s.moveTo (s.cursor.skip n)

/-- Whether a possible key cannot reach a colon any more. -/
def isStale (c : Cursor) (k : PossibleKey) : Bool :=
  k.line != c.line || k.index + 1024 < c.index

/-- The keys that can still reach a colon; it is a fault if one that has to does not. -/
def dropStale (s : State) : Reading State :=
  let keep (k : Option PossibleKey) : Option PossibleKey :=
    k.filter fun k => !isStale s.cursor k
  if (s.possible :: s.outerPossible).any fun k =>
      k.any fun k => k.required && isStale s.cursor k then .error .malformed
  else .ok { s with possible := keep s.possible, outerPossible := s.outerPossible.map keep }

/-- The possible key at this depth is none. -/
def dropKey (s : State) : Reading State :=
  if s.possible.any (·.required) then .error .malformed else .ok { s with possible := none }

/-- What begins here is a possible key, if one may begin here. -/
def noteKey (s : State) : Reading State := do
  if !s.keyAllowed then return s
  let s ← s.dropKey
  let c := s.cursor
  let required := !s.inBrackets && s.indent == c.column
  return { s with possible := some ⟨s.count, c.index, c.line, c.column, required⟩ }

/-- Closes the blocks that are indented further than a column. -/
def closeBlocks (column : Int) : (outer : List Int) → State → State
  | [], s => if column < s.indent then { s.push .blockEnd with indent := -1 } else s
  | i :: outer, s =>
    if column < s.indent then
      closeBlocks column outer { s.push .blockEnd with indent := i, outerIndents := outer }
    else s

/-- Closes the blocks that are indented further than a column, outside of brackets. -/
def unwind (s : State) (column : Int) : State :=
  if s.inBrackets then s else closeBlocks column s.outerIndents s

/-- Opens a block at a column; whether it is a new one. -/
def openBlock (s : State) (column : Nat) : Bool × State :=
  if s.indent < column then
    (true, { s with indent := column, outerIndents := s.indent :: s.outerIndents })
  else (false, s)

/-- Opens a block at the cursor, outside of brackets, if a key may begin here. -/
def enterBlock (s : State) (t : Token) : Reading State :=
  if s.inBrackets then .ok s
  else if !s.keyAllowed then .error .malformed
  else
    let (isNew, s) := s.openBlock s.cursor.column
    .ok (if isNew then s.push t else s)

end State

/-! ### Parts of directives and tags -/

/-- The name of an alias or an anchor behind its sign. -/
def readName (c : Cursor) : Reading (Text × Cursor) :=
  let (name, c) := c.next.takeWhile isNameChar
  if name.isEmpty then .error .malformed
  else if endsWord c.peek || c.seesOne (isOneOf "?:,]\x7d%@\x60") then .ok (name, c)
  else .error .malformed

/-- A character that may stand in a tag. -/
def isTagChar (c : CodePoint) : Bool :=
  c.isAsciiLetter || c.isAsciiDigit || isOneOf "-;/?:@&=+$,_.!~*'()[]%" c

/-- Octets written as two hexadecimal digits behind a percent sign each. -/
def readOctets : (fuel : Nat) → Cursor → Reading (List UInt8 × Cursor)
  | 0, _ => .error .malformed
  | fuel + 1, c =>
    if c.sees '%' then
      match c.peekAt 1 >>= CodePoint.hexValue?, c.peekAt 2 >>= CodePoint.hexValue? with
      | some a, some b => do
        let (more, c) ← readOctets fuel (c.skip 3)
        return ((16 * a + b).toUInt8 :: more, c)
      | _, _ => .error .malformed
    else .ok ([], c)

/-- The characters of a tag, in which escaped octets stand for the text that they encode. -/
def readTagText : (fuel : Nat) → Cursor → Reading (Text × Cursor)
  | 0, _ => .error .malformed
  | fuel + 1, c => do
    let (t, c) := c.takeWhile fun d => isTagChar d && d.val != 37
    if !c.sees '%' then return (t, c)
    let (octets, c) ← readOctets (c.rest.length + 1) c
    match Text.Utf8.decode? octets with
    | none => throw .malformed
    | some u =>
      let (more, c) ← readTagText fuel c
      return (t ++ u ++ more, c)

/-- The text of a tag, which is not left out. -/
def readTagRest (c : Cursor) : Reading (Text × Cursor) :=
  if c.seesOne isTagChar then readTagText (c.rest.length + 1) c else .error .malformed

/-- The handle that begins a tag: one exclamation mark, or a name between two. -/
def readHandle (c : Cursor) : Reading (Text × Cursor) :=
  if !c.sees '!' then .error .malformed
  else if (c.peekAt 1).any isSpace then .ok (c.rest.take 1, c.next)
  else
    let name := (c.rest.drop 1).takeWhile isNameChar
    if (c.peekAt (name.length + 1)).any fun d => d.val == 33 then
      let n := name.length + 2
      .ok (c.rest.take n, c.skip n)
    else .error .malformed

/-- A tag from its exclamation mark on. -/
def readTag (c : Cursor) : Reading (Token × Cursor) := do
  let (token, c) ←
    if (c.peekAt 1).any fun d => d.val == 60 then do
      let (rest, c) ← readTagRest (c.skip 2)
      if !c.sees '>' then throw Fault.malformed
      pure (Token.tag none rest, c.next)
    else if endsWord (c.peekAt 1) then
      pure (Token.tag none (c.rest.take 1), c.next)
    else do
      let word := (c.rest.drop 1).takeWhile fun d => !isBreak d && !isSpace d
      let (handle, c) ←
        if word.any fun d => d.val == 33 then readHandle c else pure (c.rest.take 1, c.next)
      let (rest, c) ← readTagRest c
      pure (Token.tag (some handle) rest, c)
  if endsPart c.peek then return (token, c) else throw .malformed

/-- A whole number of a version. -/
def readVersionNumber (c : Cursor) : Reading (Nat × Cursor) :=
  let (digits, c) := c.takeWhile CodePoint.isAsciiDigit
  match Text.asciiNat? digits with
  | none => .error .malformed
  | some n =>
    if Numeral.digitLimit < digits.length then
      .error (.noValue (.numeralTooLong (some digits.length)))
    else .ok (n, c)

/-- The version behind the name of its directive. -/
def readVersion (c : Cursor) : Reading (Token × Cursor) := do
  let (major, c) ← readVersionNumber (c.skipWhile isSpace)
  if !c.sees '.' then throw .malformed
  let (_, c) ← readVersionNumber c.next
  if endsPart c.peek then return (.version major, c) else throw .malformed

/-- The handle and the tag behind the name of their directive. -/
def readHandleDirective (c : Cursor) : Reading (Token × Cursor) := do
  let (name, c) ← readHandle (c.skipWhile isSpace)
  if !c.seesOne isSpace then throw .malformed
  let (tag, c) ← readTagRest (c.skipWhile isSpace)
  if endsPart c.peek then return (.handle name tag, c) else throw .malformed

/-- A directive from its percent sign on, with its line. -/
def readDirective (c : Cursor) : Reading (Token × Cursor) := do
  let (name, c) := c.next.takeWhile isNameChar
  if name.isEmpty || !endsPart c.peek then throw .malformed
  let (token, c) ←
    if name = ("YAML" : Text) then readVersion c
    else if name = ("TAG" : Text) then readHandleDirective c
    else pure (.directive, c.skipLine)
  return (token, ← c.skipComment)

/-! ### Pieces -/

/-- The state behind a piece of one token that ends all blocks. -/
def endBlocks (s : State) : Reading State := do
  return { ← (s.unwind (-1)).dropKey with keyAllowed := false }

/-- A bracket that opens. -/
def openBrackets (s : State) (t : Token) : Reading State := do
  let s ← s.noteKey
  return { (s.skip 1).push t with
    possible := none, outerPossible := s.possible :: s.outerPossible, keyAllowed := true }

/-- A bracket that closes. -/
def closeBrackets (s : State) (t : Token) : Reading State := do
  let s ← s.dropKey
  let s := { (s.skip 1).push t with keyAllowed := false }
  match s.outerPossible with
  | [] => return s
  | k :: outer => return { s with possible := k, outerPossible := outer }

/-- The hyphen before a member. -/
def addItem (s : State) : Reading State := do
  let s ← s.enterBlock .blockSequence
  let s ← { s with keyAllowed := true }.dropKey
  return (s.skip 1).push .item

/-- The question mark before a key. -/
def addKey (s : State) : Reading State := do
  let s ← s.enterBlock .blockMapping
  let s ← { s with keyAllowed := !s.inBrackets }.dropKey
  return (s.skip 1).push .key

/-- The colon before a value. -/
def addValue (s : State) : Reading State := do
  match s.possible with
  | some k =>
    let s := ({ s with possible := none, keyAllowed := false } : State).insert k.token .key
    let s :=
      if s.inBrackets then s
      else
        let (isNew, s) := s.openBlock k.column
        if isNew then s.insert k.token .blockMapping else s
    return (s.skip 1).push .value
  | none =>
    let s ← s.enterBlock .blockMapping
    let s ← { s with keyAllowed := !s.inBrackets }.dropKey
    return (s.skip 1).push .value

/-- A piece that may be a key, read by `read`. -/
def addPossibleKey (s : State) (read : Cursor → Reading (Token × Cursor)) : Reading State := do
  let s ← s.noteKey
  let (t, c) ← read s.cursor
  return { (s.moveTo c).push t with keyAllowed := false }

/-- A plain scalar. -/
def addPlain (s : State) : Reading State := do
  let s ← s.noteKey
  let (t, newLine, c) :=
    readPlain s.inBrackets s.indent (s.cursor.rest.length + 1) [] false s.cursor
  return { (s.moveTo c).push (.scalar t true) with keyAllowed := newLine }

/-- A block scalar. -/
def addBlock (s : State) : Reading State := do
  let s ← { s with keyAllowed := true }.dropKey
  let (t, c) ← readBlock s.indent s.cursor
  return (s.moveTo c).push (.scalar t false)

/-- Whether a plain scalar begins at a cursor. -/
def beginsPlain (inBrackets : Bool) (c : Cursor) : Bool :=
  match c.peek with
  | none => false
  | some d =>
    (!isBreak d && !isOneOf " \t-?:,[]\x7b\x7d#&*!|>'\"%@\x60" d) ||
      (!endsWord (c.peekAt 1) && (d.val == 45 || (!inBrackets && (d.val == 63 || d.val == 58))))

/-- The next piece, if the text goes on at the cursor. -/
def addPiece (s : State) : Reading State := do
  let c := s.cursor
  let first := (c.peek.map CodePoint.toChar).getD ' '
  let endsSign := endsWord (c.peekAt 1)
  let mark (t : Token) : Reading State := do
    return ((← endBlocks s).skip 3).push t
  if first = '%' ∧ c.column = 0 then
    let s ← endBlocks s
    let (t, c) ← readDirective s.cursor
    return (s.moveTo c).push t
  else if c.column = 0 ∧ c.seesMark '-' then mark .documentStart
  else if c.column = 0 ∧ c.seesMark '.' then mark .documentEnd
  else if first = '[' then openBrackets s .openBracket
  else if first = '\x7b' then openBrackets s .openBrace
  else if first = ']' then closeBrackets s .closeBracket
  else if first = '\x7d' then closeBrackets s .closeBrace
  else if first = ',' then
    let s ← { s with keyAllowed := true }.dropKey
    return (s.skip 1).push .comma
  else if first = '-' ∧ endsSign then addItem s
  else if first = '?' ∧ (s.inBrackets ∨ endsSign) then addKey s
  else if first = ':' ∧ (s.inBrackets ∨ endsSign) then addValue s
  else if first = '*' then
    addPossibleKey s fun c => do
      let (name, c) ← readName c
      return (.alias name, c)
  else if first = '&' then
    addPossibleKey s fun c => do
      let (name, c) ← readName c
      return (.anchor name, c)
  else if first = '!' then addPossibleKey s readTag
  else if (first = '|' ∨ first = '>') ∧ !s.inBrackets then addBlock s
  else if first = '\'' ∨ first = '"' then
    addPossibleKey s fun c => do
      let (t, c) ← readQuoted c
      return (.scalar t false, c)
  else if beginsPlain s.inBrackets c then addPlain s
  else throw .malformed

/-- The state behind the spaces, comments and line ends at the cursor. A key may begin on a new line
outside of brackets. -/
def skipGap : (fuel : Nat) → State → State
  | 0, s => s
  | fuel + 1, s =>
    let c := s.cursor.skipWhile isSpace
    let c := if c.sees '#' then c.skipLine else c
    if c.seesOne isBreak then
      skipGap fuel { s with cursor := c.readBreak.2, keyAllowed := s.keyAllowed || !s.inBrackets }
    else s.moveTo c

/-- The state before the next piece. -/
def toNextPiece (s : State) : Reading State := do
  let c := s.cursor
  -- A byte order mark may begin the text.
  let s := if c.index == 0 && c.seesOne (fun d => d.val == 0xFEFF) then s.skip 1 else s
  let s ← (skipGap (s.cursor.rest.length + 1) s).dropStale
  return s.unwind s.cursor.column

/-- The tokens of a state in order. -/
def State.ordered (s : State) : List Token := s.tokens.reverse

/-- The tokens that are known when a fault follows: those before the first possible key. -/
def State.known (s : State) : List Token :=
  let first := (s.possible :: s.outerPossible).foldl
    (fun n k => match k with
      | some k => if isStale s.cursor k && !k.required then n else min n k.token
      | none => n) s.count
  s.ordered.take first

/-- Reads one piece; nothing is left to read behind the end. -/
def step (s : State) : Reading (State × Bool) := do
  let s ← toNextPiece s
  if s.cursor.rest.isEmpty then
    let s ← (s.unwind (-1)).dropKey
    return (s.push .finish, true)
  else return (← addPiece s, false)

/-- Reads up to the end; every piece has at least one character. -/
def run : (fuel : Nat) → State → Lexed
  | 0, s => ⟨s.known, some .malformed⟩
  | fuel + 1, s =>
    match step s with
    | .error e => ⟨s.known, some e⟩
    | .ok (s, true) => ⟨s.ordered, none⟩
    | .ok (s, false) => run fuel s

end Lexer

/-- The tokens of a text whose line ends are line feeds. -/
def tokens (t : Text) : Lexed :=
  if t.all isAllowed then Lexer.run (t.length + 2) { cursor := { rest := t } }
  else ⟨[], some .malformed⟩

end LedgerTags.Yaml

import LedgerTags.Number.Numeral
import LedgerTags.Pattern.Fault
import LedgerTags.Pattern.Width
import LedgerTags.Text.CharacterName

/-!
# Reading patterns

A pattern is read by recursive descent over its tokens, a token being one code point or a backslash
with the code point after it. A backslash at the very end is reported as soon as the token before it
has been taken. Every step takes a token, so the recursion is bounded by the length of the text.

`readPattern` returns the tree, the options that hold for the whole pattern, and the widths of its
groups.
-/

namespace LedgerTags.Pattern

/-- One code point, or a backslash and the code point after it. -/
inductive Token where
  | plain (c : CodePoint)
  | escaped (c : CodePoint)
deriving DecidableEq, Repr

/-- The text of a token. -/
def Token.text : Token → Text
  | .plain c => [c]
  | .escaped c => ['\\', c]

/-- The letter of an option, if the token is one. -/
def Token.isOptionLetter : Token → Bool
  | .plain c => (Options.ofLetter? c).isSome || c.val == 76
  | .escaped _ => false

/-- A token that is a letter. -/
def Token.isLetter : Token → Bool
  | .plain c => c.isLetter
  | .escaped _ => false

/-- What is known while a pattern is read. -/
structure ReadState where
  /-- The text that is still to be read. -/
  rest : Text
  /-- The number of code points read so far. -/
  place : Nat := 0
  /-- The options of the whole pattern. -/
  options : Options
  /-- The widths of the capturing groups, from the first; none for a group that is still open. -/
  widths : List (Option (Nat × Nat)) := []
  /-- The names of groups and their numbers. -/
  names : List (Text × Nat) := []
  /-- Inside a look behind: the number of the first group that is opened there. -/
  lookBehindFrom : Option Nat := none
  /-- The groups that conditions ask for by number, with the places, latest first. -/
  conditions : List (Nat × Nat) := []

namespace ReadState

/-- The number of groups, the whole pattern included. -/
def groupCount (s : ReadState) : Nat := s.widths.length + 1

/-- Whether a group has been read to its end. -/
def isClosed (s : ReadState) (g : Nat) : Bool :=
  match s.widths[g - 1]? with
  | some (some _) => 0 < g
  | _ => false

/-- The width of a group; zero for one that is still open. -/
def widthOf (s : ReadState) (g : Nat) : Nat × Nat :=
  match s.widths[g - 1]? with
  | some (some w) => w
  | _ => (0, 0)

end ReadState

/-- A step of reading. -/
abbrev Reader (α : Type) := StateT ReadState (Except Fault) α

namespace Reader

/-! ### Tokens -/

/-- Fails at a place. -/
def failAt {α : Type} (place : Nat) (p : Problem) : Reader α :=
  throw (.malformed p (some place))

/-- Fails `back` code points before the present place. -/
def fail {α : Type} (back : Nat) (p : Problem) : Reader α := do
  failAt ((← get).place - back) p

/-- The next token. -/
def peek : Reader (Option Token) := do
  match (← get).rest with
  | [] => return none
  | c :: t =>
    if c.val = 92 then
      match t with
      | d :: _ => return some (.escaped d)
      | [] => return some (.plain c)
    else return some (.plain c)

/-- Goes on at a place; a lone backslash there is an error. -/
def goTo (rest : Text) (place : Nat) : Reader Unit := do
  match rest with
  | [c] => if c.val = 92 then failAt place .escapeAtEnd
  | _ => pure ()
  modify fun s => { s with rest, place }

/-- Takes the next token. -/
def next : Reader (Option Token) := do
  let t ← peek
  match t with
  | none => return none
  | some token =>
    let n := token.text.length
    let s ← get
    goTo (s.rest.drop n) (s.place + n)
    return some token

/-- Takes the next token if it is `c`. -/
def accept (c : Char) : Reader Bool := do
  if (← peek) = some (.plain c) then
    let _ ← next
    return true
  else return false

/-- Takes at most `n` characters of a class. -/
def takeUpTo (p : CodePoint → Bool) : (n : Nat) → Reader Text
  | 0 => return []
  | n + 1 => do
    match ← peek with
    | some (.plain c) =>
      if p c then
        let _ ← next
        return c :: (← takeUpTo p n)
      else return []
    | _ => return []

/-- Helper of `takeUntil`: `name` is what has been read. -/
def takeUntilFrom (terminator : Char) (what : Text) (name : Text) : (fuel : Nat) → Reader Text
  | 0 => return name
  | fuel + 1 => do
    match ← next with
    | none =>
      if name.isEmpty then fail 0 (.missingName what)
      else fail name.length (.unterminatedName [terminator])
    | some t =>
      if t = .plain terminator then
        if name.isEmpty then fail 1 (.missingName what) else return name
      else takeUntilFrom terminator what (name ++ t.text) fuel

/-- The text up to a terminator, which is taken too; it must not be empty. -/
def takeUntil (terminator : Char) (what : Text) : Reader Text := do
  takeUntilFrom terminator what [] ((← get).rest.length + 1)

/-- Checks the name of a group; the place of the fault is that of the name. -/
def checkName (name : Text) : Reader Unit := do
  if !Text.isIdentifier name then fail (name.length + 1) (.badGroupName name)

/-! ### Escapes -/

/-- An octal digit. -/
def isOctal (c : CodePoint) : Bool := 48 ≤ c.val && c.val ≤ 55

/-- The number of octal digits. -/
def octalValue (t : Text) : Nat := Numeral.natOfDigits 8 (t.map fun c => c.val - 48)

/-- An escape of `n` hexadecimal digits after its letter. -/
def hexEscape (letter : CodePoint) (n : Nat) : Reader CodePoint := do
  let digits ← takeUpTo (fun c => c.hexValue?.isSome) n
  let escape : Text := ('\\' : CodePoint) :: letter :: digits
  if digits.length ≠ n then fail escape.length (.incompleteEscape escape)
  else
    match CodePoint.ofNat? (Numeral.natOfDigits 16 (digits.filterMap CodePoint.hexValue?)) with
    | some c => return c
    | none => fail escape.length (.badEscape escape)

/-- The escape of a character by its name. -/
def namedEscape : Reader CodePoint := do
  if !(← accept '\x7b') then fail 0 .missingBrace
  else
    let name ← takeUntil '\x7d' "character name"
    match Text.characterNamed? name with
    | some c => return c
    | none => fail (name.length + 4) (.undefinedCharacter name)

/-- The escapes of single characters that hold everywhere. -/
def letterEscape? (c : CodePoint) : Option CodePoint :=
  match c.toChar with
  | 'a' => some (CodePoint.ofNat 7)
  | 'f' => some (CodePoint.ofNat 12)
  | 'n' => some (CodePoint.ofNat 10)
  | 'r' => some (CodePoint.ofNat 13)
  | 't' => some (CodePoint.ofNat 9)
  | 'v' => some (CodePoint.ofNat 11)
  | '\\' => some c
  | _ => none

/-- The escapes of categories of characters. -/
def categoryEscape? (c : CodePoint) : Option (Bool × Category) :=
  match c.toChar with
  | 'd' => some (false, .digit)
  | 'D' => some (true, .digit)
  | 's' => some (false, .space)
  | 'S' => some (true, .space)
  | 'w' => some (false, .word)
  | 'W' => some (true, .word)
  | _ => none

/-- The escapes of places. -/
def anchorEscape? (c : CodePoint) : Option Anchor :=
  match c.toChar with
  | 'A' => some .textStart
  | 'Z' => some .textEnd
  | 'b' => some .wordBoundary
  | 'B' => some .notWordBoundary
  | _ => none

/-- The escapes by number or name, and of the other characters that are not letters; none for a
digit. -/
def codeEscape? (c : CodePoint) : Reader (Option CodePoint) := do
  match c.toChar with
  | 'x' => return some (← hexEscape c 2)
  | 'u' => return some (← hexEscape c 4)
  | 'U' => return some (← hexEscape c 8)
  | 'N' => return some (← namedEscape)
  | _ =>
    if c.isAsciiDigit then return none
    else if c.isAsciiLetter then fail 2 (.badEscape ['\\', c])
    else return some c

/-- Checks that an octal escape names one of the first 256 code points. -/
def octalEscape (digits : Text) : Reader CodePoint := do
  let escape : Text := '\\' :: digits
  if 0o377 < octalValue digits then fail escape.length (.octalTooLarge escape)
  else return CodePoint.ofNat (octalValue digits)

/-- An escape inside a set. -/
def setEscape (c : CodePoint) : Reader SetItem := do
  if c.val = 98 then return .code (CodePoint.ofNat 8)
  match letterEscape? c, categoryEscape? c with
  | some d, _ => return .code d
  | none, some (negated, k) => return .category negated k
  | none, none =>
    match ← codeEscape? c with
    | some d => return .code d
    | none =>
      if isOctal c then
        let more ← takeUpTo isOctal 2
        return .code (← octalEscape (c :: more))
      else fail 2 (.badEscape ['\\', c])

/-- Checks that a look behind does not refer to a group of its own. -/
def checkLookBehind (g : Nat) : Reader Unit := do
  let s ← get
  match s.lookBehindFrom with
  | none => return ()
  | some from_ =>
    if !s.isClosed g then fail 0 .openGroup
    else if from_ ≤ g then fail 0 .lookBehindGroup

/-- A reference to a group by the digits after the backslash. -/
def numberedReference (digits : Text) : Reader Node := do
  let g := Text.natOfDigits (digits.map fun c => c.val - 48)
  let s ← get
  if g < s.groupCount then
    if !s.isClosed g then fail (digits.length + 1) .openGroup
    checkLookBehind g
    return .reference g
  else fail digits.length (.invalidGroup g)

/-- An escape outside a set. -/
def nodeEscape (c : CodePoint) : Reader Node := do
  match anchorEscape? c, categoryEscape? c, letterEscape? c with
  | some a, _, _ => return .anchor a
  | _, some (negated, k), _ => return .set false [.category negated k]
  | _, _, some d => return .literal d
  | none, none, none =>
    match ← codeEscape? c with
    | some d => return .literal d
    | none =>
      if c.val = 48 then
        let more ← takeUpTo isOctal 2
        return .literal (CodePoint.ofNat (octalValue (c :: more)))
      else
        match ← takeUpTo CodePoint.isAsciiDigit 1 with
        | [d] =>
          if isOctal c && isOctal d then
            match ← takeUpTo isOctal 1 with
            | [e] => return .literal (← octalEscape [c, d, e])
            | _ => numberedReference [c, d]
          else numberedReference [c, d]
        | _ => numberedReference [c]

/-! ### Sets of characters -/

/-- A list without the repeats of earlier elements. -/
def dropRepeats {α : Type} [BEq α] (xs : List α) : List α :=
  xs.foldl (fun seen x => if seen.contains x then seen else seen ++ [x]) []

/-- One element of a set, given the token at its start. -/
def setElement : Token → Reader SetItem
  | .plain c => return .code c
  | .escaped c => setEscape c

/-- The elements of a set up to its end; `start` is the place of the opening bracket. -/
def setItems (start : Nat) (items : List SetItem) : (fuel : Nat) → Reader (List SetItem)
  | 0 => return items
  | fuel + 1 => do
    match ← next with
    | none => failAt start .unterminatedSet
    | some first =>
      if first = .plain ']' && !items.isEmpty then return items
      else
        let one ← setElement first
        if ← accept '-' then
          match ← next with
          | none => failAt start .unterminatedSet
          | some second =>
            if second = .plain ']' then return items ++ [one, .code '-']
            else
              let two ← setElement second
              let back := first.text.length + 1 + second.text.length
              match one, two with
              | .code lo, .code hi =>
                if hi < lo then fail back (.badRange first.text second.text)
                else setItems start (items ++ [.range lo hi]) fuel
              | _, _ => fail back (.badRange first.text second.text)
        else setItems start (items ++ [one]) fuel

/-- A set, after its opening bracket. -/
def readSet : Reader Node := do
  let start := (← get).place - 1
  let negated ← accept '^'
  let items ← setItems start [] ((← get).rest.length + 1)
  match dropRepeats items with
  | [.code c] => return if negated then .notLiteral c else .literal c
  | items => return .set negated items

/-! ### Repeats -/

/-- The bounds of a repeat from here on are refused. -/
def repeatLimit : Nat := 4294967295

/-- The number of a bound. -/
def bound (digits : Text) : Reader Nat := do
  if Numeral.digitLimit < digits.length then throw (.boundTooLong digits.length)
  let n := Text.natOfDigits (digits.map fun c => c.val - 48)
  if repeatLimit ≤ n then throw .repeatTooLarge
  return n

/-- The bounds in braces after the opening one; none if the braces stand for themselves. -/
def braces : Reader (Option (Nat × Option Nat)) := do
  let s ← get
  let here := s.place
  if (← peek) = some (.plain '\x7d') then return none
  let lo ← takeUpTo CodePoint.isAsciiDigit s.rest.length
  let hi ← if ← accept ',' then takeUpTo CodePoint.isAsciiDigit s.rest.length else pure lo
  if !(← accept '\x7d') then
    goTo s.rest here
    return none
  let min ← if lo.isEmpty then pure 0 else bound lo
  if hi.isEmpty then return some (min, none)
  let max ← bound hi
  if max < min then failAt here .minAboveMax
  return some (min, some max)

/-- The sequence with its last node, the first of `done`, repeated. -/
def repeatLast (min : Nat) (max : Option Nat) (here : Nat) (done : List Node) :
    Reader (List Node) := do
  match done with
  | [] => failAt (here - 1) .nothingToRepeat
  | .anchor _ :: _ => failAt (here - 1) .nothingToRepeat
  | .repeat .. :: _ => failAt (here - 1) .multipleRepeat
  | node :: before =>
    let body :=
      match node with
      | .group none added removed body =>
        if added = {} ∧ removed = {} then body else [node]
      | _ => [node]
    if ← accept '?' then return .repeat .lazy min max body :: before
    else if ← accept '+' then return .repeat .possessive min max body :: before
    else return .repeat .greedy min max body :: before

/-! ### Options -/

/-- The options turned on, the terminator being taken too and returned. -/
def optionsOn (added : Options) (letter : Token) : (fuel : Nat) → Reader (Options × CodePoint)
  | 0 => return (added, ')')
  | fuel + 1 => do
    let option :=
      match letter with
      | .plain c => (Options.ofLetter? c).getD {}
      | .escaped _ => {}
    if letter = .plain 'L' then fail 0 .localeOption
    let added := added.union option
    if (option.ascii || option.unicode) && added.ascii && added.unicode then
      fail 0 .incompatibleOptions
    match ← next with
    | none => fail 0 .missingOptionEnd
    | some t =>
      match t with
      | .plain c =>
        if c = ')' || c = '-' || c = ':' then return (added, c)
        else if t.isOptionLetter then optionsOn added t fuel
        else fail 1 (if t.isLetter then .unknownOption else .missingOptionEnd)
      | .escaped _ => fail 2 .missingOptionEnd

/-- The options turned off, up to the colon, which is taken too. -/
def optionsOff (removed : Options) (letter : Token) : (fuel : Nat) → Reader Options
  | 0 => return removed
  | fuel + 1 => do
    let option :=
      match letter with
      | .plain c => (Options.ofLetter? c).getD {}
      | .escaped _ => {}
    if option.ascii || option.unicode || letter = .plain 'L' then fail 0 .repertoireOff
    let removed := removed.union option
    match ← next with
    | none => fail 0 .missingColon
    | some t =>
      if t = .plain ':' then return removed
      else if t.isOptionLetter then optionsOff removed t fuel
      else fail t.text.length (if t.isLetter then .unknownOption else .missingColon)

/-- The options that a group turns on and off, given its first token; none if they hold for the
whole pattern, of which they are then options. -/
def groupOptions (letter : Token) : Reader (Option (Options × Options)) := do
  let fuel := (← get).rest.length + 1
  let (added, stop) ←
    if letter = .plain '-' then pure ({}, ('-' : CodePoint)) else optionsOn {} letter fuel
  if stop = ')' then
    modify fun s => { s with options := s.options.union added }
    return none
  if added.template then fail 1 .globalOptionOn
  let removed ←
    if stop = '-' then
      match ← next with
      | none => fail 0 .missingOption
      | some t =>
        if t.isOptionLetter then optionsOff {} t fuel
        else fail t.text.length (if t.isLetter then .unknownOption else .missingOption)
    else pure {}
  if removed.template then fail 1 .globalOptionOff
  if added.overlap removed then fail 1 .optionOnAndOff
  return some (added, removed)

/-! ### Groups -/

/-- Opens a capturing group and returns its number. -/
def openGroup (name : Option Text) : Reader Nat := do
  let s ← get
  let g := s.groupCount
  match name with
  | none => set { s with widths := s.widths ++ [none] }
  | some n =>
    match s.names.lookup n with
    | some earlier => fail (n.length + 1) (.groupRedefined n g earlier)
    | none => set { s with widths := s.widths ++ [none], names := s.names ++ [(n, g)] }
  return g

/-- Closes a capturing group. -/
def closeGroup (g : Nat) (body : List Node) : Reader Unit := do
  modify fun s => { s with widths := s.widths.set (g - 1) (some (sequenceWidth s.widthOf body)) }

/-- A reference to a group by name, after the opening mark. -/
def namedReference : Reader Node := do
  let name ← takeUntil ')' "group name"
  checkName name
  let s ← get
  match s.names.lookup name with
  | none => fail (name.length + 1) (.unknownGroup name)
  | some g =>
    if !s.isClosed g then fail (name.length + 1) .openGroup
    checkLookBehind g
    return .reference g

/-- The greatest number that a group may have. -/
def groupLimit : Nat := 2147483647

/-- The group that a condition asks for. -/
def conditionGroup : Reader Nat := do
  let name ← takeUntil ')' "group name"
  let back := name.length + 1
  let s ← get
  if Text.isIdentifier name then
    match s.names.lookup name with
    | none => fail back (.unknownGroup name)
    | some g => return g
  else
    match Numeral.int? 10 name with
    | .error _ => fail back (.badGroupName name)
    | .ok n =>
      if n < 0 then fail back (.badGroupName name)
      else if n = 0 then fail back .badGroupNumber
      else
        let g := n.toNat
        if groupLimit ≤ g then fail back (.invalidGroup g)
        if s.conditions.all fun c => c.1 != g then
          set { s with conditions := (g, s.place - back) :: s.conditions }
        return g

/-- Skips a comment up to its closing parenthesis. -/
def skipComment (start : Nat) : (fuel : Nat) → Reader Unit
  | 0 => return ()
  | fuel + 1 => do
    match ← next with
    | none => failAt start .unterminatedComment
    | some t => if t = .plain ')' then return () else skipComment start fuel

/-- Skips the rest of a line. -/
def skipLine : (fuel : Nat) → Reader Unit
  | 0 => return ()
  | fuel + 1 => do
    match ← next with
    | none => return ()
    | some t => if t = .plain '\n' then return () else skipLine fuel

/-- A sequence with the groups that neither capture nor change options taken apart. -/
def unwrap (nodes : List Node) : List Node :=
  nodes.flatMap fun n =>
    match n with
    | .group none added removed body => if added = {} ∧ removed = {} then body else [n]
    | n => [n]

/-! ### Alternatives -/

/-- The leaves with which all alternatives begin, and what is left of the alternatives. -/
def factor : List Node → List (List Node) → List Node × List (List Node)
  | [], others => ([], [] :: others)
  | n :: ns, others =>
    let agrees (o : List Node) : Bool :=
      match o with
      | m :: _ => n.sameLeaf m
      | [] => false
    if others.all agrees then
      let (lead, rest) := factor ns (others.map (·.drop 1))
      (n :: lead, rest)
    else ([], (n :: ns) :: others)

/-- The set that a list of alternatives is, if each one is a character or a set. -/
def asSet? : List (List Node) → Option (List SetItem)
  | [] => some []
  | [.literal c] :: as => (asSet? as).map (.code c :: ·)
  | [.set false items] :: as => (asSet? as).map (items ++ ·)
  | _ :: _ => none

/-- Alternatives as a sequence. -/
def joinAlternatives : List (List Node) → List Node
  | [] => []
  | [a] => a
  | a :: as =>
    let (lead, rest) := factor a as
    match asSet? rest with
    | some items => lead ++ [.set false (dropRepeats items)]
    | none => lead ++ [.branch rest]

/-! ### The grammar -/

mutual

/-- Alternatives; `top` if no group is open. -/
def alternatives : (fuel : Nat) → (verbose top : Bool) → Reader (List Node)
  | 0, _, _ => return []
  | fuel + 1, verbose, top => do
    let first ← sequence fuel verbose top []
    let more ← moreAlternatives fuel verbose top
    return joinAlternatives (first :: more)

/-- The alternatives after the first. -/
def moreAlternatives : (fuel : Nat) → (verbose top : Bool) → Reader (List (List Node))
  | 0, _, _ => return []
  | fuel + 1, verbose, top => do
    if ← accept '|' then
      let s ← get
      let verbose := if top then s.options.verbose else verbose
      let a ← sequence fuel verbose false []
      return a :: (← moreAlternatives fuel verbose top)
    else return []

/-- A sequence; `first` if it is the first of the whole pattern, and `done` its nodes so far, the
last one first. -/
def sequence : (fuel : Nat) → (verbose first : Bool) → (done : List Node) → Reader (List Node)
  | 0, _, _, done => return unwrap done.reverse
  | fuel + 1, verbose, first, done => do
    match ← peek with
    | none => return unwrap done.reverse
    | some (.escaped c) =>
      let _ ← next
      let node ← nodeEscape c
      sequence fuel verbose first (node :: done)
    | some (.plain c) =>
      if c = '|' || c = ')' then return unwrap done.reverse
      let _ ← next
      if verbose && Numeral.isBlank c then sequence fuel verbose first done
      else if verbose && c = '#' then
        skipLine ((← get).rest.length + 1)
        sequence fuel verbose first done
      else
        match c.toChar with
        | '[' => do
          let node ← readSet
          sequence fuel verbose first (node :: done)
        | '.' => sequence fuel verbose first (.any :: done)
        | '^' => sequence fuel verbose first (.anchor .lineStart :: done)
        | '$' => sequence fuel verbose first (.anchor .lineEnd :: done)
        | '?' => do
          let s ← get
          let done ← repeatLast 0 (some 1) s.place done
          sequence fuel verbose first done
        | '*' => do
          let s ← get
          let done ← repeatLast 0 none s.place done
          sequence fuel verbose first done
        | '+' => do
          let s ← get
          let done ← repeatLast 1 none s.place done
          sequence fuel verbose first done
        | '\x7b' => do
          let here := (← get).place
          match ← braces with
          | none => sequence fuel verbose first (.literal c :: done)
          | some (min, max) =>
            let done ← repeatLast min max here done
            sequence fuel verbose first done
        | '(' => do
          let start := (← get).place - 1
          match ← group fuel verbose (first && done.isEmpty) start with
          | (some node, _) => sequence fuel verbose first (node :: done)
          | (none, verbose) => sequence fuel verbose first done
        | _ => sequence fuel verbose first (.literal c :: done)

/-- A group after its opening parenthesis at `start`: its node, none for a comment and for options
of the whole pattern, and whether blanks are skipped after it. `leading` if nothing stands before
the group. -/
def group : (fuel : Nat) → (verbose leading : Bool) → (start : Nat) → Reader (Option Node × Bool)
  | 0, verbose, _, _ => return (none, verbose)
  | fuel + 1, verbose, leading, start => do
    let plainGroup (number : Option Nat) (added removed : Options) : Reader (List Node) := do
      let inner := (verbose || added.verbose) && !removed.verbose
      let body ← alternatives fuel inner false
      if !(← accept ')') then failAt start .unterminatedGroup
      match number with
      | some g => closeGroup g body
      | none => pure ()
      return body
    if !(← accept '?') then
      let g ← openGroup none
      let body ← plainGroup (some g) {} {}
      return (some (.group (some g) {} {} body), verbose)
    match ← next with
    | none => fail 0 .unexpectedEnd
    | some t =>
      match t with
      | .escaped _ => fail (t.text.length + 1) (.unknownExtension t.text)
      | .plain c =>
        match c.toChar with
        | 'P' =>
          if ← accept '<' then
            let name ← takeUntil '>' "group name"
            checkName name
            let g ← openGroup (some name)
            let body ← plainGroup (some g) {} {}
            return (some (.group (some g) {} {} body), verbose)
          else if ← accept '=' then
            return (some (← namedReference), verbose)
          else
            match ← next with
            | none => fail 0 .unexpectedEnd
            | some d => fail (d.text.length + 2) (.unknownExtension ("P" ++ d.text))
        | ':' =>
          let body ← plainGroup none {} {}
          return (some (.group none {} {} body), verbose)
        | '#' => do
          let s ← get
          skipComment start (s.rest.length + 1)
          return (none, verbose)
        | '=' => lookGroup fuel verbose start false c
        | '!' => lookGroup fuel verbose start false c
        | '<' =>
          match ← next with
          | none => fail 0 .unexpectedEnd
          | some d =>
            match d with
            | .plain e =>
              if e = '=' || e = '!' then lookGroup fuel verbose start true e
              else fail (d.text.length + 2) (.unknownExtension ("<" ++ d.text))
            | .escaped _ => fail (d.text.length + 2) (.unknownExtension ("<" ++ d.text))
        | '(' =>
          let g ← conditionGroup
          checkLookBehind g
          let yes ← sequence fuel verbose false []
          let no ←
            if ← accept '|' then
              let no ← sequence fuel verbose false []
              if (← peek) = some (.plain '|') then fail 0 .tooManyBranches
              pure (some no)
            else pure none
          if !(← accept ')') then failAt start .unterminatedGroup
          return (some (.conditional g yes no), verbose)
        | '>' =>
          let body ← plainGroup none {} {}
          return (some (.atomic body), verbose)
        | _ =>
          if t.isOptionLetter || c = '-' then
            match ← groupOptions t with
            | none =>
              if !leading then failAt start .lateGlobalOptions
              let s ← get
              return (none, s.options.verbose)
            | some (added, removed) =>
              let body ← plainGroup none added removed
              return (some (.group none added removed body), verbose)
          else fail 2 (.unknownExtension [c])

/-- A look ahead or behind, after its opening mark. -/
def lookGroup : (fuel : Nat) → (verbose : Bool) → (start : Nat) → (behind : Bool) →
    (mark : CodePoint) → Reader (Option Node × Bool)
  | 0, verbose, _, _, _ => return (none, verbose)
  | fuel + 1, verbose, start, behind, mark => do
    let outer := (← get).lookBehindFrom
    if behind && outer.isNone then
      modify fun s => { s with lookBehindFrom := some s.groupCount }
    let body ← alternatives fuel verbose false
    if behind && outer.isNone then modify fun s => { s with lookBehindFrom := none }
    if !(← accept ')') then failAt start .unterminatedGroup
    return (some (.look behind (mark == '!') body), verbose)

end

end Reader

/-- A pattern as it has been read. -/
structure Reading where
  /-- The tree. -/
  nodes : List Node
  /-- The options of the whole pattern. -/
  options : Options
  /-- The widths of the groups. -/
  widths : Nat → Nat × Nat

/-- Reads a pattern with some options set from the start. -/
def readPattern (options : Options) (pattern : Text) : Except Fault Reading := do
  let start : ReadState := { rest := pattern, options }
  let fuel := 4 * pattern.length + 8
  let read : Reader (List Node) := do
    Reader.goTo pattern 0
    Reader.alternatives fuel options.verbose true
  let (nodes, s) ← read.run start
  if s.options.ascii && s.options.unicode then throw .asciiAndUnicode
  let options := { s.options with unicode := !s.options.ascii }
  if !s.rest.isEmpty then throw (.malformed .unbalancedParenthesis (some s.place))
  match s.conditions.reverse.find? fun c => s.groupCount ≤ c.1 with
  | some (g, place) => throw (.malformed (.invalidGroup g) (some place))
  | none => return { nodes, options, widths := s.widthOf }

end LedgerTags.Pattern

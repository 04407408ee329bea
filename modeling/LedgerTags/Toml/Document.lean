import LedgerTags.Toml.Scalar

/-!
# TOML documents

A document is a list of entries under headers. A header opens a table, or adds one to a list of
tables. No value is written twice: the tables that a header has opened cannot be opened again, the
tables that dotted keys have opened cannot be opened by headers later, and values in brackets and
braces are closed for good. `Marks` remembers this.
-/

namespace LedgerTags.Toml

/-- The path of a table or a value from the root. -/
abbrev Key := List Text

/-! ### What is closed -/

/-- What is remembered about a path. -/
inductive Mark where
  /-- It cannot be opened by a header again. -/
  | opened
  /-- Neither it nor anything behind it can be changed. -/
  | closed
deriving DecidableEq, Repr

/-- The paths with something to remember. -/
abbrev Marks := List (Key × Mark)

namespace Marks

/-- Whether a path has a mark; a closed path closes the paths behind it. -/
def has (m : Marks) (key : Key) (mark : Mark) : Bool :=
  m.any fun (k, x) => x == mark && (k == key || (x == .closed && k.isPrefixOf key))

/-- The marks with the ones at a path and behind it forgotten. -/
def forget (m : Marks) (key : Key) : Marks := m.filter fun (k, _) => !key.isPrefixOf k

end Marks

/-! ### Tables -/

/-- The entries of a table. -/
abbrev Table := List (Value × Value)

/-- The table with a value under a key, in place of the one that is there. -/
def put (t : Table) (key : Text) (v : Value) : Table :=
  if (Value.lookup? key t).isSome then
    t.map fun e => if e.1.text? = some key then (e.1, v) else e
  else t ++ [(.text key, v)]

/-- Changes the table at a path, opening tables on the way. Of a list of tables the last one is
meant if `throughLists` says so. Nothing else can be passed through. -/
def change (throughLists : Bool) (f : Table → Outcome Table) : Key → Table → Outcome Table
  | [], t => f t
  | k :: ks, t => do
    match (Value.lookup? k t).getD (.dict []) with
    | .dict inner => return put t k (.dict (← change throughLists f ks inner))
    | .list vs =>
      match vs.getLast? with
      | some (.dict inner) =>
        if throughLists then
          return put t k (.list (vs.dropLast ++ [.dict (← change throughLists f ks inner)]))
        else malformed
      | _ => malformed
    | _ => malformed

/-- Adds an entry that is not there yet. -/
def addEntry (key : Text) (v : Value) (t : Table) : Outcome Table :=
  if (Value.lookup? key t).isSome then malformed else .ok (t ++ [(.text key, v)])

/-- Adds a table to the list under a key. -/
def addTable (key : Text) (t : Table) : Outcome Table :=
  match Value.lookup? key t with
  | none => .ok (t ++ [(.text key, .list [.dict []])])
  | some (.list vs) => .ok (put t key (.list (vs ++ [.dict []])))
  | some _ => malformed

/-- A path without its last name, and that name. -/
def splitKey (key : Key) : Key × Text := (key.dropLast, key.getLast?.getD [])

/-! ### Values -/

/-- The words for truth values. -/
def truthWords : List (Text × Value) := [("true", .bool true), ("false", .bool false)]

/-- A scalar that is not a text. -/
def readPlain (t : Text) : Outcome (Value × Text) := do
  let withRest (r : Outcome Value × Text) : Outcome (Value × Text) := r.1.map fun v => (v, r.2)
  match readWord? truthWords t, readDate? t, readTime? t, readBased? t, readDecimal? t,
      readWord? words t with
  | some r, _, _, _, _, _ => return r
  | _, some r, _, _, _, _ => withRest r
  | _, _, some (time, rest), _, _, _ => return (.time time, rest)
  | _, _, _, some r, _, _ => withRest r
  | _, _, _, _, some r, _ => withRest r
  | _, _, _, _, _, some r => return r
  | _, _, _, _, _, _ => malformed

/-- Whether a value is closed for good once it is written in a table in braces. -/
def isCollection : Value → Bool
  | .dict _ | .list _ => true
  | _ => false

mutual

/-- A value. -/
def readValue (fuel : Nat) (t : Text) : Outcome (Value × Text) := do
  match fuel with
  | 0 => malformed
  | fuel + 1 =>
    match t with
    | [] => malformed
    | c :: u =>
      if c.val = 34 ∨ c.val = 39 then
        let (s, rest) ← readText true t
        return (.text s, rest)
      else if c.val = 91 then readItems fuel [] (← skipGap (u.length + 1) u)
      else if c.val = 123 then
        match skipBlanks u with
        | [] => malformed
        | d :: v => if d.val = 125 then return (.dict [], v) else readEntries fuel [] [] (d :: v)
      else readPlain t

/-- The members of a list from its next member or its end on. -/
def readItems (fuel : Nat) (done : List Value) (t : Text) : Outcome (Value × Text) := do
  match fuel with
  | 0 => malformed
  | fuel + 1 =>
    match t with
    | [] => malformed
    | c :: u =>
      if c.val = 93 then return (.list done.reverse, u)
      else
        let (v, rest) ← readValue fuel t
        match ← skipGap (rest.length + 1) rest with
        | [] => malformed
        | d :: rest =>
          if d.val = 93 then return (.list (v :: done).reverse, rest)
          else if d.val = 44 then
            readItems fuel (v :: done) (← skipGap (rest.length + 1) rest)
          else malformed

/-- The key and the value of an entry. -/
def readEntry (fuel : Nat) (t : Text) : Outcome ((Key × Value) × Text) := do
  match fuel with
  | 0 => malformed
  | fuel + 1 =>
    let (key, rest) ← readKey (t.length + 1) t
    match rest with
    | [] => malformed
    | c :: u =>
      if c.val = 61 then
        let (v, rest) ← readValue fuel (skipBlanks u)
        return ((key, v), rest)
      else malformed

/-- The entries of a table in braces from its next entry on. -/
def readEntries (fuel : Nat) (marks : Marks) (done : Table) (t : Text) :
    Outcome (Value × Text) := do
  match fuel with
  | 0 => malformed
  | fuel + 1 =>
    let ((key, v), rest) ← readEntry fuel t
    let (parent, last) := splitKey key
    if marks.has key .closed then malformed
    let done ← change false (addEntry last v) parent done
    match skipBlanks rest with
    | [] => malformed
    | c :: u =>
      if c.val = 125 then return (.dict done, u)
      else if c.val = 44 then
        let marks := if isCollection v then (key, .closed) :: marks else marks
        readEntries fuel marks done (skipBlanks u)
      else malformed

end

/-! ### Documents -/

/-- What is known while a document is read. -/
structure Progress where
  /-- The table of the document. -/
  root : Table := []
  /-- What is closed. -/
  marks : Marks := []
  /-- The tables that dotted keys have opened since the last header. -/
  pending : List Key := []
  /-- The table that entries belong to. -/
  header : Key := []

namespace Progress

/-- The dotted beginnings of a key behind a header. -/
def beginnings (header key : Key) : List Key :=
  ((List.range key.length).drop 1).map fun n => header ++ key.take n

/-- Adds an entry to the table of the last header. -/
def addEntry (p : Progress) (key : Key) (v : Value) : Outcome Progress := do
  let opened := beginnings p.header key
  if opened.any fun k => p.marks.has k .opened then malformed
  let (parent, last) := splitKey key
  let parent := p.header ++ parent
  if !parent.isEmpty && p.marks.has parent .closed then malformed
  let root ← change true (Toml.addEntry last v) parent p.root
  let marks := if isCollection v then (p.header ++ key, Mark.closed) :: p.marks else p.marks
  return { p with root, marks, pending := opened ++ p.pending }

/-- The tables that dotted keys have opened cannot be opened by headers any more. -/
def settle (p : Progress) : Progress :=
  { p with marks := p.pending.map (·, Mark.opened) ++ p.marks, pending := [] }

/-- Opens a table. -/
def openTable (p : Progress) (key : Key) : Outcome Progress := do
  if p.marks.has key .opened || p.marks.has key .closed then malformed
  let root ← change true .ok key p.root
  return { p with root, marks := (key, .opened) :: p.marks, header := key }

/-- Adds a table to a list of tables. What was opened in the one before can be opened again. -/
def openItem (p : Progress) (key : Key) : Outcome Progress := do
  if p.marks.has key .closed then malformed
  let (parent, last) := splitKey key
  let root ← change true (addTable last) parent p.root
  return { p with root, marks := (key, .opened) :: p.marks.forget key, header := key }

end Progress

/-- A header from its opening bracket on. -/
def readHeader (p : Progress) (t : Text) : Outcome (Progress × Text) := do
  let p := p.settle
  match Text.dropLiteral? "[[" t with
  | some u =>
    let (key, rest) ← readKey (u.length + 1) (skipBlanks u)
    let p ← p.openItem key
    match Text.dropLiteral? "]]" rest with
    | some rest => return (p, rest)
    | none => malformed
  | none =>
    let u := t.drop 1
    let (key, rest) ← readKey (u.length + 1) (skipBlanks u)
    let p ← p.openTable key
    match Text.dropLiteral? "]" rest with
    | some rest => return (p, rest)
    | none => malformed

/-- One statement, which may be empty, up to the end of its line. -/
def readStatement (p : Progress) (t : Text) : Outcome (Progress × Text) := do
  match t with
  | [] => return (p, [])
  | c :: _ =>
    if beginsKey c then
      let ((key, v), rest) ← readEntry (2 * t.length + 2) t
      return (← p.addEntry key v, skipBlanks rest)
    else if c.val = 91 then
      let (p, rest) ← readHeader p t
      return (p, skipBlanks rest)
    else if c.val = 35 ∨ c.val = 10 then return (p, t)
    else malformed

/-- The statements of a document, one a line. -/
def readStatements : (fuel : Nat) → Progress → Text → Outcome Table
  | 0, _, _ => malformed
  | fuel + 1, p, t => do
    let (p, rest) ← readStatement p (skipBlanks t)
    match ← skipComment rest with
    | [] => return p.root
    | c :: u => if c.val = 10 then readStatements fuel p u else malformed

/-- A text in which line feeds end the lines that ended with a carriage return and a line feed. -/
def dropReturns : Text → Text
  | [] => []
  | c :: t =>
    match t with
    | [] => [c]
    | d :: u => if c.val = 13 ∧ d.val = 10 then d :: dropReturns u else c :: dropReturns (d :: u)

/-- The entries of a document. -/
def read (t : Text) : Outcome Table :=
  let t := dropReturns t
  readStatements (t.length + 1) {} t

end LedgerTags.Toml

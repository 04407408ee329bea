import LedgerTags.Yaml.Tag
import LedgerTags.Yaml.Token.Lexer

/-!
# Nodes of a document

A document is a graph of nodes, numbered in the order in which they begin. An alias is the node that
its anchor names, so a node can lie in several others and even in itself. `Graph.ofTokens?` is the
grammar: a text holds one document, whose root is node zero, or none.
-/

namespace LedgerTags.Yaml

/-- What a node holds; nodes are given by their numbers. -/
inductive Content where
  | scalar (t : Text)
  | sequence (items : List Nat)
  | mapping (entries : List (Nat × Nat))
deriving Repr

/-- A node of a document. -/
structure Node where
  /-- What kind of value it stands for. -/
  tag : Tag
  /-- What it holds. -/
  content : Content
deriving Repr

/-- The nodes of a document by number. -/
abbrev Graph := Array Node

namespace Graph

/-- What is known while a document is read. -/
structure Progress where
  /-- The tokens that follow. -/
  tokens : List Token
  /-- What is wrong behind them. -/
  fault : Option Fault
  /-- The nodes so far. -/
  nodes : Graph := #[]
  /-- The nodes of the anchors so far. -/
  anchors : List (Text × Nat) := []
  /-- What the handles of tags stand for. -/
  handles : List (Text × Text) := []

/-- A step of reading a document. -/
abbrev Step (α : Type) := StateT Progress (Except Fault) α

/-- The fault that what follows breaks the grammar. -/
def malformed {α : Type} : Step α := throw .malformed

/-- The next token. -/
def peek : Step Token := do
  let p ← get
  match p.tokens with
  | t :: _ => return t
  | [] => throw (p.fault.getD .malformed)

/-- Passes over the next token. -/
def advance : Step Unit := modify fun p => { p with tokens := p.tokens.tail }

/-- Whether the next token is one of some. -/
def sees (ts : List Token) : Step Bool := do return ts.contains (← peek)

/-- Passes over the next token if it is the given one, and says whether it was. -/
def accept (t : Token) : Step Bool := do
  if (← peek) == t then
    advance
    return true
  else return false

/-- Passes over the next token, which has to be the given one. -/
def expect (t : Token) : Step Unit := do
  if !(← accept t) then malformed

/-- Adds a node and gives its number. -/
def add (node : Node) : Step Nat :=
  modifyGet fun p => (p.nodes.size, { p with nodes := p.nodes.push node })

/-- Adds a node whose content is still to come, so that it can lie in itself. -/
def begin (name : Option Text) (tag : Tag) (content : Content) : Step Nat := do
  let n ← add ⟨tag, content⟩
  if let some a := name then modify fun p => { p with anchors := (a, n) :: p.anchors }
  return n

/-- Fills a node. -/
def fill (n : Nat) (content : Content) : Step Unit :=
  modify fun p => { p with nodes := p.nodes.modify n fun node => { node with content } }

/-- A node for what is left out. -/
def nothing : Step Nat := add ⟨.null, .scalar []⟩

/-! ### Properties of nodes -/

/-- The anchor and the tag before a node. -/
structure Properties where
  anchor : Option Text := none
  /-- The full name of the tag. -/
  tag : Option Text := none

/-- The name of an anchor, if one follows. -/
def anchor? : Step (Option Text) := do
  match ← peek with
  | .anchor name =>
    advance
    return some name
  | _ => return none

/-- The parts of a tag, if one follows. -/
def tag? : Step (Option (Option Text × Text)) := do
  match ← peek with
  | .tag handle rest =>
    advance
    return some (handle, rest)
  | _ => return none

/-- The full name of a tag. -/
def fullName : Option (Option Text × Text) → Step (Option Text)
  | none => return none
  | some (none, rest) => return some rest
  | some (some handle, rest) => do
    match (← get).handles.lookup handle with
    | some start => return some (start ++ rest)
    | none => malformed

/-- The anchor and the tag before a node, in either order. -/
def properties : Step Properties := do
  let first ← anchor?
  let tag ← tag?
  let anchor ← if first.isNone && tag.isSome then anchor? else pure first
  return { anchor, tag := ← fullName tag }

/-- An anchor names one node only. -/
def checkAnchor (name : Option Text) : Step Unit := do
  if let some a := name then
    if ((← get).anchors.lookup a).isSome then malformed

/-- The name that leaves the choice of the tag to the content. -/
def anyTag : Text := "!"

/-- The tag of a list or mapping. -/
def collectionTag (other : Tag) : Option Text → Tag
  | none => other
  | some t => if t = anyTag then other else Tag.ofName t

/-- The tag of a scalar. -/
def scalarTag (t : Text) (plain : Bool) : Option Text → Tag
  | none => if plain then Tag.ofPlain t else .text
  | some name => if name = anyTag then Tag.ofPlain t else Tag.ofName name

/-! ### The grammar -/

/-- Where a node stands. -/
inductive Site where
  /-- Inside brackets: no blocks. -/
  | inBrackets
  /-- Outside of brackets. -/
  | inBlock
  /-- In a block of entries, where a list need not be indented. -/
  | inEntry
deriving DecidableEq, Repr

mutual

/-- A node. -/
def node (fuel : Nat) (site : Site) : Step Nat := do
  match fuel with
  | 0 => malformed
  | fuel + 1 =>
    if let .alias name ← peek then
      advance
      match (← get).anchors.lookup name with
      | some n => return n
      | none => malformed
    else
      let p ← properties
      let list (read : Nat → Step (List Nat)) : Step Nat := do
        checkAnchor p.anchor
        let n ← begin p.anchor (collectionTag .sequence p.tag) (.sequence [])
        fill n (.sequence (← read n))
        return n
      let entries (read : Nat → Step (List (Nat × Nat))) : Step Nat := do
        checkAnchor p.anchor
        let n ← begin p.anchor (collectionTag .mapping p.tag) (.mapping [])
        fill n (.mapping (← read n))
        return n
      let t ← peek
      if t = .item ∧ site = .inEntry then list fun _ => openItems fuel
      else
        match t with
        | .scalar t plain =>
          advance
          checkAnchor p.anchor
          begin p.anchor (scalarTag t plain p.tag) (.scalar t)
        | .openBracket =>
          advance
          list fun _ => bracketItems fuel true
        | .openBrace =>
          advance
          entries fun _ => braceEntries fuel true
        | t =>
          if t = .blockSequence ∧ site ≠ .inBrackets then
            advance
            list fun _ => blockItems fuel
          else if t = .blockMapping ∧ site ≠ .inBrackets then
            advance
            entries fun _ => blockEntries fuel
          else if p.anchor.isSome || p.tag.isSome then
            checkAnchor p.anchor
            begin p.anchor (scalarTag [] true p.tag) (.scalar [])
          else malformed

/-- A node, or nothing if one of some tokens follows. -/
def nodeUnless (fuel : Nat) (site : Site) (ts : List Token) : Step Nat := do
  match fuel with
  | 0 => malformed
  | fuel + 1 => if ← sees ts then nothing else node fuel site

/-- The members of a block. -/
def blockItems (fuel : Nat) : Step (List Nat) := do
  match fuel with
  | 0 => malformed
  | fuel + 1 =>
    if ← accept .item then
      let n ← nodeUnless fuel .inBlock [.item, .blockEnd]
      return n :: (← blockItems fuel)
    else
      expect .blockEnd
      return []

/-- The members of a list that is not indented. -/
def openItems (fuel : Nat) : Step (List Nat) := do
  match fuel with
  | 0 => malformed
  | fuel + 1 =>
    if ← accept .item then
      let n ← nodeUnless fuel .inBlock [.item, .key, .value, .blockEnd]
      return n :: (← openItems fuel)
    else return []

/-- The entries of a block. -/
def blockEntries (fuel : Nat) : Step (List (Nat × Nat)) := do
  match fuel with
  | 0 => malformed
  | fuel + 1 =>
    let ends : List Token := [.key, .value, .blockEnd]
    if ← accept .key then
      let k ← nodeUnless fuel .inEntry ends
      let v ← if ← accept .value then nodeUnless fuel .inEntry ends else nothing
      return (k, v) :: (← blockEntries fuel)
    else
      expect .blockEnd
      return []

/-- The members of a list in brackets; `first` if none came before. A pair that stands among them is
a mapping of one entry. -/
def bracketItems (fuel : Nat) (first : Bool) : Step (List Nat) := do
  match fuel with
  | 0 => malformed
  | fuel + 1 =>
    if ← accept .closeBracket then return []
    if !first then expect .comma
    if ← accept .key then
      let n ← add ⟨.mapping, .mapping []⟩
      let k ← nodeUnless fuel .inBrackets [.value, .comma, .closeBracket]
      let v ←
        if ← accept .value then nodeUnless fuel .inBrackets [.comma, .closeBracket] else nothing
      fill n (.mapping [(k, v)])
      return n :: (← bracketItems fuel false)
    else if ← accept .closeBracket then return []
    else
      let n ← node fuel .inBrackets
      return n :: (← bracketItems fuel false)

/-- The entries of a mapping in braces; `first` if none came before. A key without a colon has no
value. -/
def braceEntries (fuel : Nat) (first : Bool) : Step (List (Nat × Nat)) := do
  match fuel with
  | 0 => malformed
  | fuel + 1 =>
    if ← accept .closeBrace then return []
    if !first then expect .comma
    if ← accept .key then
      let k ← nodeUnless fuel .inBrackets [.value, .comma, .closeBrace]
      let v ←
        if ← accept .value then nodeUnless fuel .inBrackets [.comma, .closeBrace] else nothing
      return (k, v) :: (← braceEntries fuel false)
    else if ← accept .closeBrace then return []
    else
      let k ← node fuel .inBrackets
      let v ← nothing
      return (k, v) :: (← braceEntries fuel false)

end

/-! ### Documents -/

/-- The handles that every document knows. -/
def commonHandles : List (Text × Text) := [("!", "!"), ("!!", Tag.family)]

/-- The directives before a document; `versioned` if one of them gave the version. -/
def directives : (fuel : Nat) → (versioned : Bool) → Step Unit
  | 0, _ => malformed
  | fuel + 1, versioned => do
    match ← peek with
    | .version major =>
      advance
      if versioned || major != 1 then malformed else directives fuel true
    | .handle name tag =>
      advance
      let p ← get
      if (p.handles.lookup name).isSome then malformed
      else
        set { p with handles := (name, tag) :: p.handles }
        directives fuel versioned
    | .directive =>
      advance
      directives fuel versioned
    | _ => modify fun p => { p with handles := p.handles ++ commonHandles }

/-- Whether a directive or the mark of a new document follows. -/
def seesHeader : Step Bool := do
  match ← peek with
  | .version _ | .handle .. | .directive | .documentStart => return true
  | _ => return false

/-- The one document of a text, if there is one. -/
def document (fuel : Nat) : Step Bool := do
  if ← sees [.finish] then return false
  if ← seesHeader then
    directives fuel false
    expect .documentStart
    let isEmpty ← do
      if ← seesHeader then pure true else sees [.documentEnd, .finish]
    let _ ← if isEmpty then nothing else node fuel .inBlock
  else
    modify fun p => { p with handles := commonHandles }
    let _ ← node fuel .inBlock
  return true

/-- Nothing but marks of an end and the end itself. -/
def ending : (fuel : Nat) → Step Unit
  | 0 => malformed
  | fuel + 1 => do if ← accept .documentEnd then ending fuel else expect .finish

/-- The nodes of a text, if it holds a document. -/
def ofTokens? (lexed : Lexed) : Reading (Option Graph) := do
  let fuel := 4 * lexed.tokens.length + 8
  let read : Step (Option Graph) := do
    if ← document fuel then
      ending fuel
      return some (← get).nodes
    else return none
  read.run' { tokens := lexed.tokens, fault := lexed.fault }

end Graph

end LedgerTags.Yaml

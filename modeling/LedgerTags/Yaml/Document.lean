import LedgerTags.Value.Equality
import LedgerTags.Yaml.Node
import LedgerTags.Yaml.ScalarValue

/-!
# The value of a document

The nodes of a document become values. A collection is noted first and filled later, so that it can
hold itself; collections are filled in the order in which they are met. A collection cannot be the
key of a mapping, whatever it holds.

Before a mapping is filled it takes over the entries of the mappings under its merge keys; its own
entries come after them and win.
-/

namespace LedgerTags.Yaml

namespace Document

/-- What a node has become. -/
inductive Part where
  /-- The value of a scalar. -/
  | value (v : Value)
  /-- The collection of a node. -/
  | collection (node : Nat)

/-- A collection that may hold others. -/
inductive Collection where
  | list (items : List Part)
  | pairs (items : List (Part × Part))
  | set (items : List Value)
  | mapping (entries : List (Value × Part))

/-- What is known while values are built. -/
structure Progress where
  /-- The nodes, with the entries of mappings as they are once merged. -/
  nodes : Graph
  /-- What the nodes have become so far. -/
  parts : Array (Option Part)
  /-- The collections that are filled. -/
  collections : Array (Option Collection)
  /-- The collections that are still to be filled, the last one first. -/
  waiting : List Nat := []

/-- A step of building values. -/
abbrev Step (α : Type) := StateT Progress (Except Fault) α

/-- The fault that the nodes make no document. -/
def malformed {α : Type} : Step α := throw .malformed

/-- A node. -/
def node (n : Nat) : Step Node := do
  match (← get).nodes[n]? with
  | some node => return node
  | none => malformed

/-- Changes the content of a node. -/
def setContent (n : Nat) (content : Content) : Step Unit :=
  modify fun p => { p with nodes := p.nodes.modify n fun node => { node with content } }

/-- Changes the tag of a node. -/
def setTag (n : Nat) (tag : Tag) : Step Unit :=
  modify fun p => { p with nodes := p.nodes.modify n fun node => { node with tag } }

/-- The entries of a mapping. -/
def entries (n : Nat) : Step (List (Nat × Nat)) := do
  match (← node n).content with
  | .mapping es => return es
  | _ => malformed

/-- The members of a list. -/
def items (n : Nat) : Step (List Nat) := do
  match (← node n).content with
  | .sequence ns => return ns
  | _ => malformed

/-! ### Merging -/

mutual

/-- Merges into a mapping what its merge keys name. -/
def merge (fuel n : Nat) : Step Unit := do
  match fuel with
  | 0 => malformed
  | fuel + 1 =>
    let merged ← mergeFrom fuel n 0
    if !merged.isEmpty then setContent n (.mapping (merged ++ (← entries n)))

/-- The entries to be merged into a mapping by its entries from a position on. Merge keys are taken
out, and a key that stands for the mapping becomes a text. -/
def mergeFrom (fuel n i : Nat) : Step (List (Nat × Nat)) := do
  match fuel with
  | 0 => malformed
  | fuel + 1 =>
    let es ← entries n
    match es[i]? with
    | none => return []
    | some (key, source) =>
      match (← node key).tag with
      | .merge =>
        setContent n (.mapping (es.eraseIdx i))
        let first ←
          match (← node source).content with
          | .mapping _ =>
            merge fuel source
            entries source
          | .sequence sources =>
            return (← mergeAll fuel sources).reverse.flatten ++ (← mergeFrom fuel n i)
          | .scalar _ => malformed
        return first ++ (← mergeFrom fuel n i)
      | .value =>
        setTag key .text
        mergeFrom fuel n (i + 1)
      | _ => mergeFrom fuel n (i + 1)

/-- The entries of several mappings after merging. -/
def mergeAll (fuel : Nat) (ns : List Nat) : Step (List (List (Nat × Nat))) := do
  match fuel with
  | 0 => malformed
  | fuel + 1 =>
    match ns with
    | [] => return []
    | n :: ns =>
      let _ ← entries n
      merge fuel n
      let es ← entries n
      return es :: (← mergeAll fuel ns)

end

/-! ### Building -/

/-- The text of the first value key among some entries; `text` is that of a node. -/
def findValue (text : Nat → Step Text) : List (Nat × Nat) → Step Text
  | [] => malformed
  | (k, v) :: es => do
    if (← node k).tag = .value then text v else findValue text es

/-- The text of a scalar; a mapping has that of its value key. -/
def scalarText : (fuel n : Nat) → Step Text
  | 0, _ => malformed
  | fuel + 1, n => do
    match (← node n).content with
    | .scalar t => return t
    | .sequence _ => malformed
    | .mapping es => findValue (scalarText fuel) es

/-- The entries with one more; an earlier entry with the key keeps its place. -/
def put (es : List (Value × Part)) (k : Value) (v : Part) : List (Value × Part) :=
  if es.any fun e => Value.sameKey e.1 k then
    es.map fun e => if Value.sameKey e.1 k then (e.1, v) else e
  else es ++ [(k, v)]

/-- The part of a node. A collection is noted to be filled later. -/
def build (n : Nat) : Step Part := do
  let p ← get
  if let some (some part) := p.parts[n]? then return part
  let here ← node n
  let tag := here.tag
  let part ←
    if tag = .sequence ∨ tag = .mapping ∨ tag = .set ∨ tag = .pairs then
      modify fun p => { p with waiting := n :: p.waiting }
      pure (.collection n)
    else if tag = .merge ∨ tag = .value ∨ tag = .unknown then malformed
    else do
      let t ← scalarText (p.nodes.size + 1) n
      match here.content with
      | .scalar _ => pure ()
      | _ => if tag = .timestamp then throw (.noValue (.matchNotText "list"))
      pure (.value (← scalarValue tag t))
  modify fun p => { p with parts := p.parts.set! n (some part) }
  return part

/-- The entries of a mapping. -/
def buildEntries :
    (done : List (Value × Part)) → List (Nat × Nat) → Step (List (Value × Part))
  | done, [] => return done
  | done, (k, v) :: es => do
    match ← build k with
    | .collection _ => malformed
    | .value key =>
      let part ← build v
      buildEntries (put done key part) es

/-- The entries of a mapping once merged. -/
def buildMapping (n : Nat) : Step (List (Value × Part)) := do
  let p ← get
  let total := p.nodes.foldl (fun k node => match node.content with
    | .mapping es => k + es.length
    | _ => k + 1) 2
  let _ ← entries n
  merge (4 * total * total) n
  buildEntries [] (← entries n)

/-- The pair that a mapping of one entry stands for. -/
def buildPair (n : Nat) : Step (Part × Part) := do
  match ← entries n with
  | [(k, v)] =>
    let key ← build k
    let part ← build v
    return (key, part)
  | _ => malformed

/-- Fills the collection of a node. -/
def fill (n : Nat) : Step Unit := do
  let collection ←
    match (← node n).tag with
    | .sequence => Collection.list <$> (← items n).mapM build
    | .pairs => Collection.pairs <$> (← items n).mapM buildPair
    | .set => do
      let es ← buildMapping n
      pure (.set (es.map (·.1)))
    | _ => Collection.mapping <$> buildMapping n
  modify fun p => { p with collections := p.collections.set! n (some collection) }

/-- Fills the collections that wait, and those that they hold. -/
def fillAll : (fuel : Nat) → Step Unit
  | 0 => malformed
  | fuel + 1 => do
    let p ← get
    match p.waiting.reverse with
    | [] => return ()
    | ns =>
      set { p with waiting := [] }
      ns.forM fill
      fillAll fuel

/-! ### Unfolding -/

/-- How often a collection may lie in itself before what it holds is left out. -/
def unfoldings : Nat := 3

/-- What a collection shows when what it holds is left out. -/
def hollow : Collection → Value
  | .mapping _ => .dict []
  | _ => .list []

/-- The values of parts whose collections hold no cycle, by node. -/
abbrev Known := Array (Option Value)

/-- The value of a part that lies in the collections of the nodes `around`, and whether nothing was
left out of it. -/
def unfold (collections : Array (Option Collection)) (fuel : Nat) (around : List Nat)
    (part : Part) : StateM Known (Value × Bool) := do
  match fuel, part with
  | _, .value v => return (v, true)
  | 0, .collection _ => return (.null, false)
  | fuel + 1, .collection n =>
    if let some (some v) := (← get)[n]? then return (v, true)
    match collections[n]? with
    | some (some c) =>
      if unfoldings ≤ around.count n then return (.cyclic n (hollow c), false)
      let inner (part : Part) : StateM Known (Value × Bool) :=
        unfold collections fuel (n :: around) part
      let (v, isWhole) ←
        match c with
        | .list ps => do
          let vs ← ps.mapM inner
          pure (Value.list (vs.map (·.1)), vs.all (·.2))
        | .set vs => pure (Value.set vs, true)
        | .pairs ps => do
          let vs ← ps.mapM fun (a, b) => do
            let (v, x) ← inner a
            let (w, y) ← inner b
            pure (Value.tuple [v, w], x && y)
          pure (Value.list (vs.map (·.1)), vs.all (·.2))
        | .mapping es => do
          let vs ← es.mapM fun (k, part) => do
            let (v, x) ← inner part
            pure ((k, v), x)
          pure (Value.dict (vs.map (·.1)), vs.all (·.2))
      if isWhole then
        modify fun known => known.set! n (some v)
        return (v, true)
      else return (.cyclic n v, false)
    | _ => return (.null, true)

/-- The value of a document. -/
def ofGraph (g : Graph) : Reading Value := do
  let work : Step Part := do
    let root ← build 0
    fillAll (g.size + 1)
    return root
  let start : Progress := {
    nodes := g
    parts := Array.replicate g.size none
    collections := Array.replicate g.size none }
  let (root, p) ← work.run start
  let fuel := unfoldings * g.size + 1
  return ((unfold p.collections fuel [] root).run (Array.replicate g.size none)).1.1

end Document

/-- The value of a text that holds one document; a text without a document is null. The text is
there as a whole before any of it is read, and collections are nested to any depth. -/
def read (t : Text) : Reading Value := do
  match ← Graph.ofTokens? (tokens (Text.unifyNewlines t)) with
  | none => return .null
  | some g => Document.ofGraph g

end LedgerTags.Yaml

import TypedSheets.Value.SlotOrder
import TypedSheets.Yaml.Node
import TypedSheets.Yaml.ScalarValue

/-!
# Values of documents

A node stands for a value by its tag. A scalar is read as soon as it is met, a collection
is put down empty and filled later, in the order in which the collections were met: so
of several faults in a document the one on the shallowest level counts, and the first
one there. Each node is read once, and every alias stands for what it was read into.

Merge keys take the entries of other mappings in when a mapping is filled: an entry of
the mapping itself wins over a merged one, and of several merged mappings the first wins.
Later entries with an equal key replace the value of earlier ones.
-/

namespace TypedSheets.Yaml

open TypedSheets.Number

/-- What a node was read into; what lies in a collection is given by the places of nodes. -/
inductive Content where
  | atom (value : Value)
  | list (items : List Nat)
  | pairs (items : List (Nat × Nat))
  | set (items : List Value)
  | map (entries : List (Value × Nat))
  deriving Repr

/-- A document while it is read. -/
structure Reading where
  /-- A bound on the steps that merges take. -/
  bound : Nat
  nodes : Array Node
  /-- What the nodes were read into, by their places. -/
  contents : Array (Option Content)
  /-- The collections that were met and not filled yet, the latest first. -/
  pending : List Nat := []

namespace Reading

/-- The node at a place. -/
def nodeAt (s : Reading) (place : Nat) : Node := s.nodes[place]?.getD .empty

/-- What the node at a place was read into. -/
def contentAt? (s : Reading) (place : Nat) : Option Content := (s.contents[place]?).join

/-- With the content of a place put down. -/
def put (s : Reading) (place : Nat) (content : Content) : Reading :=
  { s with contents := s.contents.setIfInBounds place (some content) }

/-- With the entries of a mapping put down. -/
def setEntries (s : Reading) (place : Nat) (entries : List (Nat × Nat)) : Reading :=
  { s with nodes := s.nodes.modify place fun
      | .mapping tag _ => .mapping tag entries
      | node => node }

/-- A key with the tag of the default key becomes a text, wherever it stands. -/
def plainKey (s : Reading) (place : Nat) : Reading :=
  { s with nodes := s.nodes.modify place fun node =>
      if node.tag = .defaultKey then node.withTag .text else node }

/-- The entries of the mapping at a place. -/
def entriesAt? (s : Reading) (place : Nat) : Option (List (Nat × Nat)) :=
  match s.nodeAt place with
  | .mapping _ entries => some entries
  | _ => none

/-- The first merge key of a mapping that stands behind `passed` entries: its value and the
other entries. The keys that are passed by become plain. -/
def takeMerge (s : Reading) (passed : List (Nat × Nat)) :
    List (Nat × Nat) → Reading × Option (Nat × List (Nat × Nat) × Nat)
  | [] => (s, none)
  | (key, value) :: rest =>
    if (s.nodeAt key).tag = .merge then (s, some (value, passed.reverse ++ rest, passed.length))
    else (s.plainKey key).takeMerge ((key, value) :: passed) rest

mutual

/-- Carries out the merges of the mapping at a place from the entry `index` on; `merged` are
the entries that were taken in so far. They go in front of its own entries. The bound on
the steps comes from the number of merge keys, each of which is taken out before its value
is looked at. -/
def flatten : Nat → Nat → Nat → List (Nat × Nat) → Reading → Except ReadError Reading
  | 0, _, _, _, _ => .error .malformed
  | fuel + 1, place, index, merged, s =>
    match s.entriesAt? place with
    | none => .error .malformed
    | some entries =>
      let (s, found) := s.takeMerge (entries.take index).reverse (entries.drop index)
      match found with
      | none =>
        .ok (if merged.isEmpty then s else s.setEntries place (merged ++ entries))
      | some (source, others, reached) => do
        let (further, s) ← mergeSource fuel source (s.setEntries place others)
        flatten fuel place reached (merged ++ further) s

/-- The entries that a mapping, or a sequence of mappings, contributes to a merge; of a
sequence, the entries of later mappings come first. -/
def mergeSource : Nat → Nat → Reading → Except ReadError (List (Nat × Nat) × Reading)
  | 0, _, _ => .error .malformed
  | fuel + 1, source, s =>
    match s.nodeAt source with
    | .mapping .. => do
      let s ← flatten fuel source 0 [] s
      pure ((s.entriesAt? source).getD [], s)
    | .sequence _ items => mergeItems fuel items s
    | .scalar .. => .error .malformed

/-- The entries that the mappings of a sequence contribute. -/
def mergeItems : Nat → List Nat → Reading → Except ReadError (List (Nat × Nat) × Reading)
  | 0, _, _ => .error .malformed
  | _, [], s => .ok ([], s)
  | fuel + 1, item :: rest, s =>
    match s.nodeAt item with
    | .mapping .. => do
      let s ← flatten fuel item 0 [] s
      let own := (s.entriesAt? item).getD []
      let (others, s) ← mergeItems fuel rest s
      pure (others ++ own, s)
    | _ => .error .malformed

end

mutual

/-- The text of a scalar; a mapping stands for the scalar under its default key. The bound
is the number of nodes: no chain of mappings is longer, unless it never ends. -/
def scalarText (s : Reading) : Nat → Nat → Except ReadError String
  | 0, _ => .error .endless
  | fuel + 1, place =>
    match s.nodeAt place with
    | .scalar _ text => .ok text
    | .sequence .. => .error .malformed
    | .mapping _ entries =>
      match entries.find? fun entry => (s.nodeAt entry.1).tag == .defaultKey with
      | some entry => scalarText s fuel entry.2
      | none => .error .malformed

end

/-- The value of a node whose tag is that of a scalar. -/
def atomValue (s : Reading) (place : Nat) : Except ReadError Value := do
  let node := s.nodeAt place
  let text ← s.scalarText (s.nodes.size + 1) place
  match node.tag, node with
  | .timestamp, .mapping .. => throw .timestampOfMapping
  | _, _ => pure ()
  match ← scalarValue node.tag text with
  | .float .nan => pure (.sharedNan (.node place))
  | value => pure value

/-- Meets the node at a place: an atom is read, a collection is put down empty. -/
def start (s : Reading) (place : Nat) : Except ReadError Reading :=
  if (s.contentAt? place).isSome then .ok s
  else
    let wait (content : Content) : Except ReadError Reading :=
      let s := s.put place content
      .ok { s with pending := place :: s.pending }
    match (s.nodeAt place).tag with
    | .sequence => wait (.list [])
    | .orderedMap | .pairs => wait (.pairs [])
    | .mapping => wait (.map [])
    | .set => wait (.set [])
    | .merge | .defaultKey | .unknown _ => .error .malformed
    | _ => (s.atomValue place).map fun value => s.put place (.atom value)

/-- Meets nodes one after another. -/
def startAll (s : Reading) : List Nat → Except ReadError Reading
  | [] => .ok s
  | place :: rest => do (← s.start place).startAll rest

/-- Meets the entries of a mapping: a key must be an atom. -/
def startEntries (s : Reading) :
    List (Nat × Nat) → Except ReadError (List (Value × Nat) × Reading)
  | [] => .ok ([], s)
  | (key, value) :: rest => do
    let s ← s.start key
    match s.contentAt? key with
    | some (.atom found) => do
      let s ← s.start value
      let (others, s) ← s.startEntries rest
      pure ((found, value) :: others, s)
    | _ => throw .malformed

/-- Meets the items of a list of pairs, each a mapping of one entry. -/
def startPairs (s : Reading) : List Nat → Except ReadError (List (Nat × Nat) × Reading)
  | [] => .ok ([], s)
  | place :: rest =>
    match s.nodeAt place with
    | .mapping _ [(key, value)] => do
      let s ← (← s.start key).start value
      let (others, s) ← s.startPairs rest
      pure ((key, value) :: others, s)
    | _ => .error .malformed

/-- Puts an entry under a key: an equal key keeps its place and its own form. -/
def putPlace (key : Value) (place : Nat) : List (Value × Nat) → List (Value × Nat)
  | [] => [(key, place)]
  | entry :: rest =>
    if Value.same entry.1 key then (entry.1, place) :: rest else entry :: putPlace key place rest

/-- The entries of the mapping at a place, its merges carried out and equal keys united. -/
def fillEntries (s : Reading) (place : Nat) :
    Except ReadError (List (Value × Nat) × Reading) := do
  let s ← match s.nodeAt place with
    | .mapping .. => flatten s.bound place 0 [] s
    | _ => throw .malformed
  let (entries, s) ← s.startEntries ((s.entriesAt? place).getD [])
  pure (entries.foldl (fun built entry => putPlace entry.1 entry.2 built) [], s)

/-- Fills the collection at a place. -/
def fill (s : Reading) (place : Nat) : Except ReadError Reading := do
  let node := s.nodeAt place
  match node.tag, node with
  | .sequence, .sequence _ items => do
    let s ← s.startAll items
    pure (s.put place (.list items))
  | .orderedMap, .sequence _ items | .pairs, .sequence _ items => do
    let (pairs, s) ← s.startPairs items
    pure (s.put place (.pairs pairs))
  | .mapping, _ => do
    let (entries, s) ← s.fillEntries place
    pure (s.put place (.map entries))
  | .set, _ => do
    let (entries, s) ← s.fillEntries place
    pure (s.put place (.set (slotOrder (entries.map Prod.fst))))
  | _, _ => throw .malformed

/-- Fills collections in order. -/
def fillAll (s : Reading) : List Nat → Except ReadError Reading
  | [] => .ok s
  | place :: rest => do (← s.fill place).fillAll rest

/-- Fills the collections that were met, and those that are met on the way. Each is met
once, so the number of nodes bounds the number of levels. -/
def settle : Nat → Reading → Except ReadError Reading
  | 0, s => .ok s
  | fuel + 1, s =>
    if s.pending.isEmpty then .ok s
    else do settle fuel (← { s with pending := [] }.fillAll s.pending.reverse)

end Reading

/-- The number of references from nodes to nodes. -/
def Document.references (d : Document) : Nat :=
  d.nodes.foldl (fun total node =>
    match node with
    | .scalar .. => total
    | .sequence _ items => total + items.length
    | .mapping _ entries => total + entries.length) 0

/-- A document before its nodes are read. -/
def Document.reading (d : Document) : Reading :=
  { bound := 3 * Nat.pow (d.references + 2) 2, nodes := d.nodes
    contents := Array.replicate d.nodes.size none }

/-- What the node at a place came to: its value, and the places around it that the value
refers back to. `around` are the places of the collections around it. A collection from
which a way leads back to itself or to one around it lies on a circle and is a knot. -/
abbrev Unfolded := Value × List Nat

namespace Reading

/-- A collection by what lies in it. -/
def tied (place : Nat) (body : Value) (free : List Nat) : Unfolded :=
  if free.isEmpty then (body, [])
  else (.knot place body, free.filter (· != place))

mutual

/-- The value of the node at a place; a place around it is referred back to. The bound is
the number of nodes, which limits the collections around a node. -/
def unfold (s : Reading) : Nat → List Nat → Nat → Unfolded
  | 0, _, _ => (.null, [])
  | fuel + 1, around, place =>
    if around.contains place then (.back place, [place])
    else
      match s.contentAt? place with
      | some (.atom value) => (value, [])
      | some (.list items) =>
        let (values, free) := unfoldAll s fuel (place :: around) items
        tied place (.list values) free
      | some (.pairs items) =>
        let (keys, free) := unfoldAll s fuel (place :: around) (items.map Prod.fst)
        let (values, more) := unfoldAll s fuel (place :: around) (items.map Prod.snd)
        tied place (.list (keys.zipWith .pair values)) (free ++ more)
      | some (.set items) => (.set items, [])
      | some (.map entries) =>
        let (values, free) := unfoldAll s fuel (place :: around) (entries.map Prod.snd)
        tied place (.map ((entries.map Prod.fst).zip values)) free
      | none => (.null, [])

def unfoldAll (s : Reading) (fuel : Nat) (around : List Nat) : List Nat → List Value × List Nat
  | [] => ([], [])
  | place :: rest =>
    let (value, free) := unfold s fuel around place
    let (values, more) := unfoldAll s fuel around rest
    (value :: values, free ++ more)

end

end Reading

/-- The value of a document. -/
def Document.value (d : Document) : Except ReadError Value := do
  let s ← d.reading.start d.root
  let s ← s.settle (d.nodes.size + 1)
  pure (s.unfold (d.nodes.size + 1) [] d.root).1

/-- The value that a text denotes; an empty document denotes null. -/
def readValue (text : String) : Except ReadError Value :=
  match Document.ofText? text with
  | .error cause => .error cause
  | .ok none => .ok .null
  | .ok (some d) => d.value

end TypedSheets.Yaml

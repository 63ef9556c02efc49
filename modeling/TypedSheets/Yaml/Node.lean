import TypedSheets.Yaml.Resolution
import TypedSheets.Yaml.TokenStream

/-!
# Nodes

A document is a table of nodes, which refer to each other by their places: a scalar, a
sequence of nodes or a mapping between nodes, each with a tag. `Document.ofTokens?` reads
the tokens of a stream that holds at most one document. Where a node may be left out, an
empty scalar stands for it. An anchor names a node, and an alias behind the anchor is the
same node once more, so that a node may lie inside itself.

The readers of the grammar call each other and consume tokens as they go; the bound on
their depth comes from the number of tokens.
-/

namespace TypedSheets.Yaml

/-- A node; the nodes in it are given by their places. -/
inductive Node where
  | scalar (tag : Tag) (text : String)
  | sequence (tag : Tag) (items : List Nat)
  | mapping (tag : Tag) (entries : List (Nat × Nat))
  deriving Repr, DecidableEq

/-- The scalar that stands for a node that is left out. -/
def Node.empty : Node := .scalar .null ""

def Node.tag : Node → Tag
  | .scalar tag _ => tag
  | .sequence tag _ => tag
  | .mapping tag _ => tag

/-- The node under another tag. -/
def Node.withTag (tag : Tag) : Node → Node
  | .scalar _ text => .scalar tag text
  | .sequence _ items => .sequence tag items
  | .mapping _ entries => .mapping tag entries

/-- A table of nodes with the place of the outermost one. -/
structure Document where
  nodes : Array Node
  root : Nat
  deriving Repr, DecidableEq

/-- What is left of a document while it is read. -/
structure Composing where
  tokens : List Token
  /-- The nodes so far. -/
  nodes : Array Node := #[]
  /-- The places of the nodes with an anchor. -/
  anchors : List (String × Nat) := []
  /-- What the tag handles stand for. -/
  handles : List (String × String) := []

namespace Composing

/-- Without the next token. -/
def next (s : Composing) : Composing := { s with tokens := s.tokens.drop 1 }

/-- Whether the next token is a given one. -/
def at_ (s : Composing) (token : Token) : Bool := s.tokens.head? == some token

/-- Whether the next token is one of the given ones. -/
def atAny (s : Composing) (expected : List Token) : Bool := expected.any s.at_

/-- The refusal of the next token. -/
def refusal (s : Composing) : ReadError :=
  match s.tokens with
  | .unreadable cause :: _ => cause
  | _ => .malformed

/-- Behind a token that must come next. -/
def expect (s : Composing) (token : Token) : Except ReadError Composing :=
  if s.at_ token then .ok s.next else .error s.refusal

/-- The anchor and the tag before a node, in either order. -/
def properties (s : Composing) : (Option String × Option TagText) × Composing :=
  match s.tokens with
  | .anchor name :: .tag t :: rest => ((some name, some t), { s with tokens := rest })
  | .tag t :: .anchor name :: rest => ((some name, some t), { s with tokens := rest })
  | .anchor name :: rest => ((some name, none), { s with tokens := rest })
  | .tag t :: rest => ((none, some t), { s with tokens := rest })
  | _ => ((none, none), s)

/-- The full name of a tag; its handle must be known. -/
def fullName (s : Composing) (t : TagText) : Except ReadError String :=
  match t.handle with
  | none => .ok t.suffix
  | some handle =>
    match s.handles.lookup handle with
    | some meaning => .ok (meaning ++ t.suffix)
    | none => .error .malformed

/-- The tag of a collection: a lone mark counts as no tag. -/
def collectionTag (standard : Tag) : Option String → Tag
  | none => standard
  | some name => if name = "!" then standard else Tag.ofName name

/-- The tag of a scalar. A plain one without tag, and any one with a lone mark, has the
type that its text looks like; a quoted one without tag is text. -/
def scalarTag (plain : Bool) (text : String) : Option String → Tag
  | none => if plain then resolve text else .text
  | some name => if name = "!" then resolve text else Tag.ofName name

/-- Behind a further node; gives its place. -/
def add (s : Composing) (node : Node) : Nat × Composing :=
  (s.nodes.size, { s with nodes := s.nodes.push node })

/-- Names the next node; a name must not be given twice. -/
def named (s : Composing) (anchor : Option String) : Except ReadError Composing :=
  match anchor with
  | none => .ok s
  | some name =>
    if (s.anchors.lookup name).isSome then .error .malformed
    else .ok { s with anchors := (name, s.nodes.size) :: s.anchors }

/-- A collection, whose place comes before those of the nodes in it. -/
def collection {α : Type} (s : Composing) (make : α → Node)
    (content : Composing → Except ReadError (α × Composing)) :
    Except ReadError (Nat × Composing) := do
  let (place, inside) := s.add .empty
  let (found, behind) ← content inside
  pure (place, { behind with nodes := behind.nodes.setIfInBounds place (make found) })

mutual

/-- A node. `block` tells whether it may be a block collection, and `dashes` whether it may
be a sequence whose dashes are not indented further than the mapping around it. -/
def node (block dashes : Bool) : Nat → Composing → Except ReadError (Nat × Composing)
  | 0, s => .error s.refusal
  | fuel + 1, s =>
    match s.tokens with
    | .alias name :: _ =>
      match s.anchors.lookup name with
      | some found => .ok (found, s.next)
      | none => .error .malformed
    | _ => do
      let ((anchor, tagText), body) := s.properties
      let name ← match tagText with
        | none => pure none
        | some t => (s.fullName t).map some
      let sequence := Node.sequence (collectionTag .sequence name)
      let mapping := Node.mapping (collectionTag .mapping name)
      if dashes && body.at_ .blockEntry then
        (← body.named anchor).collection sequence (dashedItems fuel)
      else match body.tokens with
        | .scalar text plain :: _ =>
          pure ((← body.next.named anchor).add (.scalar (scalarTag plain text name) text))
        | .flowSequenceStart :: _ =>
          (← body.next.named anchor).collection sequence (flowItems true fuel)
        | .flowMappingStart :: _ =>
          (← body.next.named anchor).collection mapping (flowEntries true fuel)
        | .blockSequenceStart :: _ =>
          if block then (← body.next.named anchor).collection sequence (blockItems fuel)
          else emptyNode anchor name body
        | .blockMappingStart :: _ =>
          if block then (← body.next.named anchor).collection mapping (blockEntries fuel)
          else emptyNode anchor name body
        | _ => emptyNode anchor name body

/-- Properties without a node have an empty scalar. -/
def emptyNode (anchor name : Option String) (s : Composing) :
    Except ReadError (Nat × Composing) :=
  if anchor.isSome || name.isSome then do
    pure ((← s.named anchor).add (.scalar (scalarTag true "" name) ""))
  else .error s.refusal

/-- A node, or an empty scalar before one of the tokens that end it. -/
def nodeUnless (ends : List Token) (block dashes : Bool) :
    Nat → Composing → Except ReadError (Nat × Composing)
  | 0, s => .error s.refusal
  | fuel + 1, s => if s.atAny ends then .ok (s.add .empty) else node block dashes fuel s

/-- The entries of a block sequence and the end of the block. -/
def blockItems : Nat → Composing → Except ReadError (List Nat × Composing)
  | 0, s => .error s.refusal
  | fuel + 1, s =>
    if s.at_ .blockEntry then do
      let (item, behind) ← nodeUnless [.blockEntry, .blockEnd] true false fuel s.next
      let (items, last) ← blockItems fuel behind
      pure (item :: items, last)
    else do
      let last ← s.expect .blockEnd
      pure ([], last)

/-- The entries of a sequence that shares the indentation of the mapping around it. -/
def dashedItems : Nat → Composing → Except ReadError (List Nat × Composing)
  | 0, s => .error s.refusal
  | fuel + 1, s =>
    if s.at_ .blockEntry then do
      let (item, behind) ←
        nodeUnless [.blockEntry, .key, .value, .blockEnd] true false fuel s.next
      let (items, last) ← dashedItems fuel behind
      pure (item :: items, last)
    else pure ([], s)

/-- The entries of a block mapping and the end of the block. -/
def blockEntries : Nat → Composing → Except ReadError (List (Nat × Nat) × Composing)
  | 0, s => .error s.refusal
  | fuel + 1, s =>
    if s.at_ .key then do
      let (key, behind) ← nodeUnless [.key, .value, .blockEnd] true true fuel s.next
      let (value, behind) ← if behind.at_ .value then
          nodeUnless [.key, .value, .blockEnd] true true fuel behind.next
        else pure (behind.add .empty)
      let (entries, last) ← blockEntries fuel behind
      pure ((key, value) :: entries, last)
    else do
      let last ← s.expect .blockEnd
      pure ([], last)

/-- The entries of a flow sequence and its end. A key makes a mapping of one entry. -/
def flowItems (first : Bool) : Nat → Composing → Except ReadError (List Nat × Composing)
  | 0, s => .error s.refusal
  | fuel + 1, s =>
    if s.at_ .flowSequenceEnd then .ok ([], s.next)
    else do
      let s ← if first then pure s else s.expect .flowEntry
      if s.at_ .key then
        let (key, behind) ←
          nodeUnless [.value, .flowEntry, .flowSequenceEnd] false false fuel s.next
        let (value, behind) ← if behind.at_ .value then
            nodeUnless [.flowEntry, .flowSequenceEnd] false false fuel behind.next
          else pure (behind.add .empty)
        let (pair, behind) := behind.add (.mapping .mapping [(key, value)])
        let (items, last) ← flowItems false fuel behind
        pure (pair :: items, last)
      else if s.at_ .flowSequenceEnd then pure ([], s.next)
      else
        let (item, behind) ← node false false fuel s
        let (items, last) ← flowItems false fuel behind
        pure (item :: items, last)

/-- The entries of a flow mapping and its end. -/
def flowEntries (first : Bool) :
    Nat → Composing → Except ReadError (List (Nat × Nat) × Composing)
  | 0, s => .error s.refusal
  | fuel + 1, s =>
    if s.at_ .flowMappingEnd then .ok ([], s.next)
    else do
      let s ← if first then pure s else s.expect .flowEntry
      if s.at_ .key then
        let (key, behind) ←
          nodeUnless [.value, .flowEntry, .flowMappingEnd] false false fuel s.next
        let (value, behind) ← if behind.at_ .value then
            nodeUnless [.flowEntry, .flowMappingEnd] false false fuel behind.next
          else pure (behind.add .empty)
        let (entries, last) ← flowEntries false fuel behind
        pure ((key, value) :: entries, last)
      else if s.at_ .flowMappingEnd then pure ([], s.next)
      else
        let (key, behind) ← node false false fuel s
        let (value, behind) := behind.add .empty
        let (entries, last) ← flowEntries false fuel behind
        pure ((key, value) :: entries, last)

end

/-- The directives before a document, and the handles that they declare. -/
structure Preamble where
  versioned : Bool := false
  handles : List (String × String) := []

/-- The directives at the start of a document. Only the first major version is read, and
nothing may be declared twice. -/
def readPreamble : List Token → Preamble → Except ReadError (Preamble × List Token)
  | .directive (.version major _) :: rest, p =>
    if p.versioned || major != 1 then .error .malformed
    else readPreamble rest { p with versioned := true }
  | .directive (.handle name meaning) :: rest, p =>
    if (p.handles.lookup name).isSome then .error .malformed
    else readPreamble rest { p with handles := p.handles ++ [(name, meaning)] }
  | .directive .other :: rest, p => readPreamble rest p
  | rest, p => .ok (p, rest)

/-- The handles that need no declaration. -/
def standardHandles : List (String × String) := [("!", "!"), ("!!", tagPrefix)]

/-- The content of a document and the tokens behind it. -/
def documentContent (handles : List (String × String)) (tokens : List Token) :
    Except ReadError (Document × List Token) := do
  let (root, behind) ← node true false (4 * tokens.length + 4)
    { tokens, handles := handles ++ standardHandles }
  pure ({ nodes := behind.nodes, root }, behind.tokens)

/-- The end of a stream behind its only document. -/
def streamEnds (tokens : List Token) : Except ReadError Unit :=
  let rest := tokens.dropWhile (· == .documentEnd)
  if rest.head? == some .streamEnd then .ok () else .error (refusal { tokens := rest })

/-- The tokens that a document starts with when it says so. -/
def isExplicit : List Token → Bool
  | .directive _ :: _ => true
  | .documentStart :: _ => true
  | _ => false

/-- The document of a stream that is not empty. -/
def document (tokens : List Token) : Except ReadError Document :=
  if isExplicit tokens then do
    let (preamble, rest) ← readPreamble tokens {}
    let content := rest.drop 1
    if rest.head? != some .documentStart then .error (refusal { tokens := rest })
    let empty := isExplicit content || content.head? == some .documentEnd ||
      content.head? == some .streamEnd
    if empty then
      streamEnds content
      pure { nodes := #[.empty], root := 0 }
    else
      let (found, behind) ← documentContent preamble.handles content
      streamEnds behind
      pure found
  else do
    let (found, behind) ← documentContent [] tokens
    streamEnds behind
    pure found

end Composing

/-- The document in a stream of tokens, if it holds one. -/
def Document.ofTokens? (tokens : List Token) : Except ReadError (Option Document) :=
  if tokens.head? == some .streamEnd then .ok none else (Composing.document tokens).map some

/-- The document in a text. Characters that a document cannot carry are refused. -/
def Document.ofText? (text : String) : Except ReadError (Option Document) :=
  if text.toList.all isAdmitted then Document.ofTokens? (tokens text.toList)
  else .error .malformed

end TypedSheets.Yaml

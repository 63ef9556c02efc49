import TypedSheets.Proofs.Yaml.AssetTokens
import TypedSheets.Yaml.Node

/-!
# Assets as nodes

Composing the tokens of an asset lays its nodes out one behind the other, each collection before
what lies in it: the mapping of the asset, its names and texts, the list, and for each record a
mapping with its keys and values in turn.
-/

namespace TypedSheets.Yaml

/-- The node of a scalar that is written as an asset writes it: in quotes it is text. -/
def formNode (form : ScalarForm) : Node :=
  let style := chooseStyle form.bare false (analyze form.text)
  let text := String.ofList (readBack style form.text)
  .scalar (if style = .plain then resolve text else .text) text

/-- The nodes of an entry: its key is text however it is written. -/
def entryNodes (entry : String × Value) : List Node :=
  [.scalar .text entry.1, formNode (formOf entry.2)]

/-- The places of the keys and values of a mapping whose nodes start at a place. -/
def entryPlaces (place : Nat) : Entries → List (Nat × Nat)
  | [] => []
  | _ :: rest => (place, place + 1) :: entryPlaces (place + 2) rest

/-- The nodes of a record whose mapping stands at a place. -/
def recordNodes (place : Nat) (entries : Entries) : List Node :=
  .mapping .mapping (entryPlaces (place + 1) entries) :: entries.flatMap entryNodes

/-- The places of the mappings of records whose nodes start at a place. -/
def recordPlaces (place : Nat) : List Entries → List Nat
  | [] => []
  | entries :: rest => place :: recordPlaces (place + (recordNodes place entries).length) rest

/-- The nodes of records from a place on. -/
def recordsNodes (place : Nat) : List Entries → List Node
  | [] => []
  | entries :: rest =>
    recordNodes place entries ++ recordsNodes (place + (recordNodes place entries).length) rest

/-- The nodes of an asset. -/
def assetNodes (a : Asset) : List Node :=
  [.mapping .mapping [(1, 2), (3, 4), (5, 6)], .scalar .text "name", formNode (formOf (.text a.name)),
    .scalar .text "record_type", formNode (formOf (.text a.recordType)), .scalar .text "list",
    .sequence .sequence (recordPlaces 7 a.records)] ++ recordsNodes 7 a.records

namespace Composing

/-- A document that is read up to some tokens, without anchors. -/
def reading (handles : List (String × String)) (tokens : List Token) (nodes : List Node) :
    Composing :=
  { tokens, nodes := nodes.toArray, handles }

variable (handles : List (String × String))

/-- A scalar token becomes a scalar node. -/
theorem node_scalar (block dashes : Bool) (fuel : Nat) (text : String) (plain : Bool)
    (tokens : List Token) (nodes : List Node) :
    node block dashes (fuel + 1) (reading handles (.scalar text plain :: tokens) nodes) =
      .ok (nodes.length,
        reading handles tokens (nodes ++ [Node.scalar (scalarTag plain text none) text])) := by
  rw [node]
  simp [properties, reading, at_, next, named, add, bind, Except.bind, pure, Except.pure]

/-- Also where a node may be left out. -/
theorem nodeUnless_scalar (ends : List Token) (block dashes : Bool) (fuel : Nat) (text : String)
    (plain : Bool) (tokens : List Token) (nodes : List Node)
    (other : ∀ e ∈ ends, e ≠ .scalar text plain) :
    nodeUnless ends block dashes (fuel + 2) (reading handles (.scalar text plain :: tokens) nodes) =
      .ok (nodes.length,
        reading handles tokens (nodes ++ [Node.scalar (scalarTag plain text none) text])) := by
  have notEnded : (reading handles (.scalar text plain :: tokens) nodes).atAny ends = false := by
    refine List.any_eq_false.mpr fun e present => ?_
    simp [at_, reading, (other e present).symm]
  rw [nodeUnless, notEnded]
  exact node_scalar handles block dashes fuel text plain tokens nodes

/-- A collection is put down before what lies in it. -/
theorem collection_eq {α : Type} (tokens behind : List Token) (nodes inner : List Node)
    (make : α → Node) (content : Composing → Except ReadError (α × Composing)) (found : α)
    (read : content (reading handles tokens (nodes ++ [Node.empty])) =
      .ok (found, reading handles behind (nodes ++ [Node.empty] ++ inner))) :
    (reading handles tokens nodes).collection make content =
      .ok (nodes.length, reading handles behind (nodes ++ make found :: inner)) := by
  have added : (reading handles tokens nodes).add .empty =
      (nodes.length, reading handles tokens (nodes ++ [Node.empty])) := by
    simp [add, reading]
  have replaced : (nodes ++ .empty :: inner).set nodes.length (make found) =
      nodes ++ make found :: inner := by
    rw [List.set_append_right _ _ (Nat.le_refl _), Nat.sub_self]
    rfl
  rw [List.append_assoc] at read
  simp only [collection, added, bind, Except.bind, read, pure, Except.pure]
  simp [reading, replaced]

/-- The node of a key. -/
theorem scalarTag_key (name : String) : scalarTag (resolve name == .text) name none = .text := by
  by_cases text : resolve name = .text <;> simp [scalarTag, text]

/-- The node of a value. -/
theorem scalarTag_form (form : ScalarForm) :
    ∃ text plain, formToken form = .scalar text plain ∧
      Node.scalar (scalarTag plain text none) text = formNode form := by
  refine ⟨_, _, rfl, ?_⟩
  by_cases plain : chooseStyle form.bare false (analyze form.text) = .plain <;>
    simp [scalarTag, formNode, plain]

/-- An entry of a block mapping: its key and its value, one behind the other. -/
theorem blockEntries_entry (entry : String × Value) (fuel : Nat) (tokens behind : List Token)
    (nodes inner : List Node) (entries : List (Nat × Nat))
    (further : blockEntries (fuel + 2) (reading handles tokens (nodes ++ entryNodes entry)) =
      .ok (entries, reading handles behind (nodes ++ entryNodes entry ++ inner))) :
    blockEntries (fuel + 3) (reading handles (entryTokens entry ++ tokens) nodes) =
      .ok ((nodes.length, nodes.length + 1) :: entries,
        reading handles behind (nodes ++ (entryNodes entry ++ inner))) := by
  obtain ⟨text, plain, token, node⟩ := scalarTag_form (formOf entry.2)
  have keyRead := nodeUnless_scalar handles [.key, .value, .blockEnd] true true fuel entry.1
    (resolve entry.1 == .text) (.value :: formToken (formOf entry.2) :: tokens) nodes (by simp)
  have valueRead := nodeUnless_scalar handles [.key, .value, .blockEnd] true true fuel text
    plain tokens (nodes ++ [Node.scalar .text entry.1]) (by simp)
  rw [scalarTag_key] at keyRead
  rw [node, ← token] at valueRead
  have atKey : (reading handles (entryTokens entry ++ tokens) nodes).at_ .key = true := rfl
  have atValue : (reading handles (.value :: formToken (formOf entry.2) :: tokens)
      (nodes ++ [Node.scalar .text entry.1])).at_ .value = true := rfl
  have key : (reading handles (entryTokens entry ++ tokens) nodes).next =
      reading handles (.scalar entry.1 (resolve entry.1 == .text) :: .value ::
        formToken (formOf entry.2) :: tokens) nodes := rfl
  have value : (reading handles (.value :: formToken (formOf entry.2) :: tokens)
      (nodes ++ [Node.scalar .text entry.1])).next =
      reading handles (formToken (formOf entry.2) :: tokens) (nodes ++ [Node.scalar .text entry.1]) := rfl
  rw [List.append_assoc] at further
  have laid : nodes ++ [Node.scalar .text entry.1] ++ [formNode (formOf entry.2)] =
      nodes ++ entryNodes entry := by simp [entryNodes]
  rw [laid] at valueRead
  rw [blockEntries]
  simp only [atKey, if_true, key, keyRead, atValue, value, valueRead, further, bind, Except.bind, pure,
    Except.pure, List.length_append, List.length_singleton]

/-- The entries of a record, up to the end of its block. -/
theorem blockEntries_record (entries : Entries) (fuel : Nat) (tokens : List Token)
    (nodes : List Node) (enough : entries.length + 3 ≤ fuel) :
    blockEntries fuel (reading handles (entries.flatMap entryTokens ++ .blockEnd :: tokens) nodes) =
      .ok (entryPlaces nodes.length entries,
        reading handles tokens (nodes ++ entries.flatMap entryNodes)) := by
  induction entries generalizing fuel nodes with
  | nil =>
    obtain ⟨fuel, rfl⟩ : ∃ less, fuel = less + 1 := ⟨fuel - 1, by omega⟩
    simp [blockEntries, reading, at_, expect, next, entryPlaces, bind, Except.bind, pure, Except.pure]
  | cons entry entries inductionHypothesis =>
    rw [List.length_cons] at enough
    obtain ⟨fuel, rfl⟩ : ∃ less, fuel = less + 3 := ⟨fuel - 3, by omega⟩
    have further := inductionHypothesis (fuel + 2) (nodes ++ entryNodes entry) (by omega)
    have whole := blockEntries_entry handles entry fuel _ _ nodes _ _ further
    rw [List.flatMap_cons, List.flatMap_cons, List.append_assoc, whole]
    simp [entryPlaces, entryNodes]

/-- The node of a block mapping is a collection of its entries. -/
theorem node_blockMapping (dashes : Bool) (fuel : Nat) (tokens : List Token) (nodes : List Node) :
    node true dashes (fuel + 1) (reading handles (.blockMappingStart :: tokens) nodes) =
      (reading handles tokens nodes).collection (.mapping .mapping) (blockEntries fuel) := by
  cases dashes <;> rfl

/-- So is that of a flow mapping. -/
theorem node_flowMapping (block dashes : Bool) (fuel : Nat) (tokens : List Token)
    (nodes : List Node) :
    node block dashes (fuel + 1) (reading handles (.flowMappingStart :: tokens) nodes) =
      (reading handles tokens nodes).collection (.mapping .mapping) (flowEntries true fuel) := by
  cases dashes <;> rfl

/-- The node of a flow sequence is a collection of its items. -/
theorem node_flowSequence (block dashes : Bool) (fuel : Nat) (tokens : List Token)
    (nodes : List Node) :
    node block dashes (fuel + 1) (reading handles (.flowSequenceStart :: tokens) nodes) =
      (reading handles tokens nodes).collection (.sequence .sequence) (flowItems true fuel) := by
  cases dashes <;> rfl

/-- So is that of a sequence at the margin of the mapping around it. -/
theorem node_dashes (block : Bool) (fuel : Nat) (tokens : List Token) (nodes : List Node) :
    node block true (fuel + 1) (reading handles (.blockEntry :: tokens) nodes) =
      (reading handles (.blockEntry :: tokens) nodes).collection (.sequence .sequence)
        (dashedItems fuel) := rfl

/-- A record behind its dash. -/
theorem nodeUnless_record (entries : Entries) (fuel : Nat) (tokens : List Token)
    (nodes : List Node) (enough : entries.length + 5 ≤ fuel) :
    nodeUnless [.blockEntry, .key, .value, .blockEnd] true false fuel
        (reading handles ((recordTokens entries).tail ++ tokens) nodes) =
      .ok (nodes.length, reading handles tokens (nodes ++ recordNodes nodes.length entries)) := by
  obtain ⟨fuel, rfl⟩ : ∃ less, fuel = less + 3 := ⟨fuel - 3, by omega⟩
  cases entries with
  | nil =>
    have content : flowEntries true (fuel + 1) (reading handles (.flowMappingEnd :: tokens)
        (nodes ++ [Node.empty])) = .ok ([], reading handles tokens (nodes ++ [Node.empty] ++ [])) := by
      simp [flowEntries, reading, at_, next]
    have start : (reading handles ((recordTokens []).tail ++ tokens) nodes).atAny
      [.blockEntry, .key, .value, .blockEnd] = false := rfl
    rw [nodeUnless, start]
    exact (node_flowMapping handles true false (fuel + 1) _ nodes).trans
      (collection_eq handles _ tokens nodes [] (.mapping .mapping) _ [] content)
  | cons entry entries =>
    have content := blockEntries_record handles (entry :: entries) (fuel + 1) tokens
      (nodes ++ [Node.empty]) (by omega)
    rw [List.length_append, List.length_singleton] at content
    have start : (reading handles ((recordTokens (entry :: entries)).tail ++ tokens) nodes).atAny
      [.blockEntry, .key, .value, .blockEnd] = false := rfl
    have body : (recordTokens (entry :: entries)).tail ++ tokens =
        .blockMappingStart :: ((entry :: entries).flatMap entryTokens ++ .blockEnd :: tokens) := by
      simp [recordTokens]
    rw [nodeUnless, start, body]
    exact (node_blockMapping handles false (fuel + 1) _ nodes).trans
      (collection_eq handles _ tokens nodes _ (.mapping .mapping) _ _ content)

/-- A record has more tokens than entries. -/
theorem length_recordTokens (entries : Entries) : entries.length + 3 ≤ (recordTokens entries).length := by
  have each (entries : Entries) : entries.length ≤ (entries.flatMap entryTokens).length := by
    induction entries with
    | nil => exact Nat.le_refl 0
    | cons entry entries inductionHypothesis =>
      simp only [List.flatMap_cons, List.length_append, List.length_cons, entryTokens]
      omega
  cases entries with
  | nil => exact Nat.le_refl 3
  | cons entry entries =>
    have counted := each (entry :: entries)
    simp only [recordTokens, List.length_cons, List.length_append, List.length_nil] at counted ⊢
    omega

/-- The records behind their dashes, up to what ends them. The induction is on the records; each
of them starts where the nodes of the one before end. -/
theorem dashedItems_records (records : List Entries) (fuel : Nat) (tokens : List Token)
    (nodes : List Node) (ends : tokens.head? ≠ some .blockEntry)
    (enough : (records.flatMap recordTokens).length + 6 ≤ fuel) :
    dashedItems fuel (reading handles (records.flatMap recordTokens ++ tokens) nodes) =
      .ok (recordPlaces nodes.length records,
        reading handles tokens (nodes ++ recordsNodes nodes.length records)) := by
  induction records generalizing fuel nodes with
  | nil =>
    obtain ⟨fuel, rfl⟩ : ∃ less, fuel = less + 1 := ⟨fuel - 1, by omega⟩
    have ended : (reading handles tokens nodes).at_ .blockEntry = false := by
      simpa [reading, at_] using ends
    simp [dashedItems, ended, recordPlaces, recordsNodes, pure, Except.pure]
  | cons entries records inductionHypothesis =>
    obtain ⟨fuel, rfl⟩ : ∃ less, fuel = less + 1 := ⟨fuel - 1, by omega⟩
    have counted := length_recordTokens entries
    rw [List.flatMap_cons, List.length_append] at enough
    have first := nodeUnless_record handles entries fuel
      (records.flatMap recordTokens ++ tokens) nodes (by omega)
    have further := inductionHypothesis fuel (nodes ++ recordNodes nodes.length entries) (by omega)
    have atDash : (reading handles ((entries :: records).flatMap recordTokens ++ tokens) nodes).at_
        .blockEntry = true := by
      cases entries <;> rfl
    have behindDash : (reading handles ((entries :: records).flatMap recordTokens ++ tokens) nodes).next =
        reading handles ((recordTokens entries).tail ++ (records.flatMap recordTokens ++ tokens)) nodes := by
      cases entries <;> simp [reading, next, recordTokens]
    rw [dashedItems]
    simp only [atDash, if_true, behindDash, first, further, bind, Except.bind, pure, Except.pure]
    simp [recordPlaces, recordsNodes]

/-- The list of an asset: an empty flow sequence, or its records at the margin. -/
theorem nodeUnless_list (records : List Entries) (fuel : Nat) (tokens : List Token)
    (nodes : List Node) (ends : tokens.head? ≠ some .blockEntry)
    (enough : (listTokens records).length + 8 ≤ fuel) :
    nodeUnless [.key, .value, .blockEnd] true true fuel
        (reading handles (listTokens records ++ tokens) nodes) =
      .ok (nodes.length, reading handles tokens (nodes ++
        .sequence .sequence (recordPlaces (nodes.length + 1) records) ::
          recordsNodes (nodes.length + 1) records)) := by
  obtain ⟨fuel, rfl⟩ : ∃ less, fuel = less + 2 := ⟨fuel - 2, by omega⟩
  cases records with
  | nil =>
    obtain ⟨fuel, rfl⟩ : ∃ less, fuel = less + 1 := ⟨fuel - 1, by omega⟩
    have content : flowItems true (fuel + 1) (reading handles (.flowSequenceEnd :: tokens)
        (nodes ++ [Node.empty])) = .ok ([], reading handles tokens (nodes ++ [Node.empty] ++ [])) := by
      simp [flowItems, reading, at_, next]
    have start : (reading handles (listTokens [] ++ tokens) nodes).atAny [.key, .value, .blockEnd] =
      false := rfl
    rw [nodeUnless, start]
    exact (node_flowSequence handles true true (fuel + 1) _ nodes).trans
      (collection_eq handles _ tokens nodes [] (.sequence .sequence) _ [] content)
  | cons entries records =>
    have all : listTokens (entries :: records) = (entries :: records).flatMap recordTokens := rfl
    rw [all] at enough ⊢
    have content := dashedItems_records handles (entries :: records) fuel tokens
      (nodes ++ [Node.empty]) ends (by omega)
    rw [List.length_append, List.length_singleton] at content
    obtain ⟨more, dash⟩ : ∃ more, (entries :: records).flatMap recordTokens ++ tokens =
        .blockEntry :: more := by
      cases entries with
      | nil => exact ⟨_, rfl⟩
      | cons entry entries => exact ⟨_, by rw [List.flatMap_cons, recordTokens]; rfl⟩
    rw [dash] at content ⊢
    have start : (reading handles (.blockEntry :: more) nodes).atAny [.key, .value, .blockEnd] =
      false := rfl
    rw [nodeUnless, start]
    exact (node_dashes handles true fuel more nodes).trans
      (collection_eq handles _ tokens nodes _ (.sequence .sequence) _ _ content)

/-- The entry of the list, the last one of an asset. -/
theorem blockEntries_list (records : List Entries) (fuel : Nat) (tokens : List Token)
    (nodes : List Node) (enough : (listTokens records).length + 9 ≤ fuel) :
    blockEntries fuel (reading handles
        (.key :: .scalar "list" true :: .value :: (listTokens records ++ .blockEnd :: tokens)) nodes) =
      .ok ([(nodes.length, nodes.length + 1)], reading handles tokens (nodes ++
        .scalar .text "list" :: .sequence .sequence (recordPlaces (nodes.length + 2) records) ::
          recordsNodes (nodes.length + 2) records)) := by
  obtain ⟨fuel, rfl⟩ : ∃ less, fuel = less + 3 := ⟨fuel - 3, by omega⟩
  have listText : scalarTag true "list" none = .text := by decide
  have keyRead := nodeUnless_scalar handles [.key, .value, .blockEnd] true true fuel "list"
    true (.value :: (listTokens records ++ .blockEnd :: tokens)) nodes (by simp)
  rw [listText] at keyRead
  have listRead := nodeUnless_list handles records (fuel + 2) (.blockEnd :: tokens)
    (nodes ++ [Node.scalar .text "list"]) (by simp) (by omega)
  rw [List.length_append, List.length_singleton] at listRead
  have ended := blockEntries_record handles [] (fuel + 2) tokens (nodes ++
    [Node.scalar .text "list"] ++ Node.sequence .sequence (recordPlaces (nodes.length + 1 + 1) records) ::
      recordsNodes (nodes.length + 1 + 1) records) (by simp only [List.length_nil]; omega)
  have atKey : (reading handles (.key :: .scalar "list" true :: .value ::
    (listTokens records ++ .blockEnd :: tokens)) nodes).at_ .key = true := rfl
  have key : (reading handles (.key :: .scalar "list" true :: .value ::
      (listTokens records ++ .blockEnd :: tokens)) nodes).next =
    reading handles (.scalar "list" true :: .value ::
      (listTokens records ++ .blockEnd :: tokens)) nodes := rfl
  have atValue : (reading handles (.value :: (listTokens records ++ .blockEnd :: tokens))
    (nodes ++ [Node.scalar .text "list"])).at_ .value = true := rfl
  have value : (reading handles (.value :: (listTokens records ++ .blockEnd :: tokens))
      (nodes ++ [Node.scalar .text "list"])).next =
    reading handles (listTokens records ++ .blockEnd :: tokens) (nodes ++ [Node.scalar .text "list"]) := rfl
  rw [List.flatMap_nil, List.nil_append] at ended
  rw [blockEntries]
  simp only [atKey, if_true, key, keyRead, atValue, value, listRead, ended, bind, Except.bind, pure,
    Except.pure]
  simp [entryPlaces]

/-- The whole asset: a mapping of its two texts and its list. -/
theorem node_asset (a : Asset) (fuel : Nat) (tokens : List Token)
    (enough : (listTokens a.records).length + 12 ≤ fuel) :
    node true false fuel (reading handles (.blockMappingStart ::
        (entryTokens ("name", .text a.name) ++ (entryTokens ("record_type", .text a.recordType) ++
          .key :: .scalar "list" true :: .value :: (listTokens a.records ++ .blockEnd :: tokens)))) []) =
      .ok (0, reading handles tokens (assetNodes a)) := by
  obtain ⟨fuel, rfl⟩ : ∃ less, fuel = less + 4 := ⟨fuel - 4, by omega⟩
  have list := blockEntries_list handles a.records (fuel + 1) tokens
    ([Node.empty] ++ entryNodes ("name", .text a.name) ++ entryNodes ("record_type", .text a.recordType))
    (by omega)
  have recordType := blockEntries_entry handles ("record_type", .text a.recordType) (fuel - 1) _ _
    ([Node.empty] ++ entryNodes ("name", .text a.name)) _ _ (by
      rw [show fuel - 1 + 2 = fuel + 1 by omega]
      exact list)
  have name := blockEntries_entry handles ("name", .text a.name) fuel _ _ [.empty] _ _ (by
    rw [show fuel + 2 = fuel - 1 + 3 by omega]
    exact recordType)
  rw [node_blockMapping]
  exact collection_eq handles _ tokens [] _ (.mapping .mapping) _ _ name

end Composing

/-- The tokens of an asset are those of one document with the nodes of the asset. -/
theorem ofTokens?_asset (a : Asset) :
    Document.ofTokens? (assetTokens a) = .ok (some { nodes := (assetNodes a).toArray, root := 0 }) := by
  have shape : assetTokens a = .blockMappingStart ::
      (entryTokens ("name", .text a.name) ++ (entryTokens ("record_type", .text a.recordType) ++
        Token.key :: .scalar "list" true :: .value :: (listTokens a.records ++ .blockEnd :: [.streamEnd]))) := by
    simp [assetTokens]
  have content := Composing.node_asset ([] ++ Composing.standardHandles) a
    (4 * (assetTokens a).length + 4) [.streamEnd] (by
      simp only [assetTokens, entryTokens, List.length_cons, List.length_append, List.length_nil]
      omega)
  rw [← shape] at content
  have start : (assetTokens a).head? = some .blockMappingStart := rfl
  have implicit : Composing.isExplicit (assetTokens a) = false := rfl
  have read : Composing.documentContent [] (assetTokens a) =
      .ok ({ nodes := (assetNodes a).toArray, root := 0 }, [.streamEnd]) := by
    unfold Composing.documentContent
    rw [show ({ tokens := assetTokens a, handles := [] ++ Composing.standardHandles } : Composing) =
      Composing.reading ([] ++ Composing.standardHandles) (assetTokens a) [] from rfl, content]
    rfl
  have ended : Composing.streamEnds [.streamEnd] = .ok () := rfl
  unfold Document.ofTokens? Composing.document
  rw [start, implicit, read]
  simp only [bind, Except.bind, ended, pure, Except.pure]
  rfl

end TypedSheets.Yaml

import TypedSheets.Proofs.Yaml.AssetNodes
import TypedSheets.Proofs.Yaml.IntegerScalars
import TypedSheets.Proofs.Yaml.TreeDocuments

/-!
# Assets as values

The nodes of an asset form a tree. Its value is the asset again: the same names in the same
order, the same records, and each value as its scalar gives it back.
-/

namespace TypedSheets.Yaml

open TypedSheets.Number

/-- The values that cells of a sheet come to: texts, integers that have a decimal text, and truth
values. -/
inductive IsCellValue : Value → Prop
  | text (s : String) : IsCellValue (.text s)
  | int (n : Int) (short : n.natAbs < 10 ^ digitLimit) : IsCellValue (.int n)
  | bool (truth : Bool) : IsCellValue (.bool truth)

/-- What a value comes back as from an asset: a text as its style gives it back. -/
def returned : Value → Value
  | .text s =>
    .text (String.ofList (readBack (chooseStyle (resolve s == .text) false (analyze s.toList)) s.toList))
  | value => value

/-- A text is read as text: without quotes it is written only if it looks like nothing else. -/
theorem formNode_text (s : String) :
    formNode (formOf (.text s)) = .scalar .text
      (String.ofList (readBack (chooseStyle (resolve s == .text) false (analyze s.toList)) s.toList)) := by
  have form : formOf (.text s) = { text := s.toList, bare := resolve s == .text } := rfl
  rw [form, formNode]
  by_cases plain : chooseStyle (resolve s == .text) false (analyze s.toList) = .plain
  · have bare : (resolve s == .text) = true := by
      by_contra other
      have other : (resolve s == .text) = false := by simpa using other
      simp only [other, chooseStyle, Bool.false_and, Bool.false_eq_true, if_false] at plain
      split at plain <;> cases plain
    have isText : resolve s = .text := by simpa using bare
    rw [bare] at plain ⊢
    simp only [plain, if_true, readBack, String.ofList_toList, isText]
  · simp only [plain, if_false]

seal integerText? in
/-- It is written as its text. -/
theorem scalarForm_int (n : Int) (short : n.natAbs < 10 ^ digitLimit) :
    scalarForm (.int n) = .ok { text := integerChars n } := by
  unfold scalarForm
  simp only [integerText?_short n short, integerText, String.toList_ofList]

theorem formOf_int (n : Int) (short : n.natAbs < 10 ^ digitLimit) :
    formOf (.int n) = { text := integerChars n } := by
  simp only [formOf, scalarForm_int n short, Except.toOption, Option.getD_some]

/-- An integer is read as an integer. -/
theorem formNode_int (n : Int) (short : n.natAbs < 10 ^ digitLimit) :
    formNode (formOf (.int n)) = .scalar .int (String.ofList (integerChars n)) := by
  rw [formOf_int n short, formNode]
  simp only [chooseStyle_integerChars n, if_true, readBack, resolve_integerChars n]

/-- A truth value is read as one. -/
theorem formNode_bool (truth : Bool) :
    formNode (formOf (.bool truth)) = .scalar .bool (if truth then "true" else "false") := by
  cases truth <;> decide

/-- What is written for the value of a cell is read without fault, as the value that comes back. -/
theorem isAtom_formNode (value : Value) (isCell : IsCellValue value) :
    (formNode (formOf value)).IsAtom ∧ (formNode (formOf value)).atom = returned value := by
  cases isCell with
  | text s =>
    rw [formNode_text]
    exact ⟨⟨.text, _, .text _, rfl, rfl, rfl, by simp⟩, rfl⟩
  | int n short =>
    rw [formNode_int n short]
    have read : scalarValue .int (String.ofList (integerChars n)) = .ok (.int n) := by
      rw [scalarValue, readInt_integerChars n short]
      rfl
    exact ⟨⟨.int, _, .int n, rfl, rfl, read, by simp⟩, by rw [Node.atom, read]; rfl⟩
  | bool truth =>
    rw [formNode_bool]
    have word : readTruthWord (if truth then "true" else "false") = .ok truth := by
      cases truth <;> decide
    have read : scalarValue .bool (if truth then "true" else "false") = .ok (.bool truth) := by
      rw [scalarValue, word]
      rfl
    exact ⟨⟨.bool, _, .bool truth, rfl, rfl, read, by simp⟩, by rw [Node.atom, read]; rfl⟩

/-- The value of a cell can be held under a name. -/
theorem writable_cell (name : String) (value : Value) (isName : IsName name.toList)
    (isCell : IsCellValue value) : Writable (name, value) := by
  cases isCell with
  | text s => exact writable_text name s isName
  | int n short =>
    have same := formOf_int n short
    have nonempty : integerChars n ≠ [] := by
      unfold integerChars
      split
      · simp
      · exact naturalChars_ne_nil _
    refine ⟨isName, by rw [same]; exact scalarForm_int n short, by rw [same], fun _ => ?_⟩
    rw [same]
    exact nonempty
  | bool truth =>
    refine ⟨isName, rfl, rfl, fun _ => ?_⟩
    cases truth <;> exact List.cons_ne_nil _ _

/-- A table holds some nodes from a place on. -/
def Holds (nodes : Array Node) (place : Nat) (part : List Node) : Prop :=
  ∀ i < part.length, nodes[place + i]? = part[i]?

namespace Holds

variable {nodes : Array Node} {place : Nat}

theorem head {node : Node} {rest : List Node} (holds : Holds nodes place (node :: rest)) :
    nodes[place]? = some node := holds 0 (by simp)

theorem tail {node : Node} {rest : List Node} (holds : Holds nodes place (node :: rest)) :
    Holds nodes (place + 1) rest := by
  intro i inside
  have shifted := holds (i + 1) (by simpa using inside)
  rw [show place + (i + 1) = place + 1 + i by omega] at shifted
  simpa using shifted

theorem left {a b : List Node} (holds : Holds nodes place (a ++ b)) : Holds nodes place a := by
  intro i inside
  have whole := holds i (by rw [List.length_append]; omega)
  rwa [List.getElem?_append_left inside] at whole

theorem right {a b : List Node} (holds : Holds nodes place (a ++ b)) :
    Holds nodes (place + a.length) b := by
  intro i inside
  have whole := holds (a.length + i) (by rw [List.length_append]; omega)
  rw [List.getElem?_append_right (by omega), Nat.add_sub_cancel_left] at whole
  rwa [Nat.add_assoc]

/-- The part ends where the table ends or before. -/
theorem fits {part : List Node} (holds : Holds nodes place part) (nonempty : part ≠ []) :
    place + part.length ≤ nodes.size := by
  have positive : 0 < part.length := List.length_pos_of_ne_nil nonempty
  have last := holds (part.length - 1) (by omega)
  rw [List.getElem?_eq_getElem (by omega)] at last
  obtain ⟨inside, -⟩ := Array.getElem?_eq_some_iff.mp last
  omega

end Holds

theorem size_le_of_getElem? {nodes : Array Node} {place : Nat} {node : Node}
    (found : nodes[place]? = some node) : place < nodes.size :=
  (Array.getElem?_eq_some_iff.mp found).1

/-- The value of an atom, at any depth but none. -/
theorem treeValue_atom {nodes : Array Node} {place : Nat} {node : Node} (depth : Nat)
    (found : nodes[place]? = some node) (isAtom : node.IsAtom) :
    treeValue nodes (depth + 1) place = node.atom := by
  rw [treeValue, standing_atom found isAtom]
  simp [atomAt, found]

/-- What the entries of a record stand for: their places lie one behind the other, keys are texts
and values what comes back. The induction is on the entries, two nodes for each. -/
structure EntriesHeld (nodes : Array Node) (place : Nat) (entries : Entries) : Prop where
  inTree : ∀ q, place ≤ q → q < place + 2 * entries.length → InTree nodes q
  places : ∀ e ∈ entryPlaces place entries, place ≤ e.1 ∧ place ≤ e.2 ∧ e.2 < nodes.size
  keys : ∀ e ∈ entryPlaces place entries, ∃ node, nodes[e.1]? = some node ∧ node.IsAtom
  names : (entryPlaces place entries).map (fun e => atomAt nodes e.1) =
    entries.map fun entry => .text entry.1
  values : ∀ depth, (entryPlaces place entries).map (fun e => treeValue nodes (depth + 1) e.2) =
    entries.map fun entry => returned entry.2

theorem length_flatMap_entryNodes (entries : Entries) :
    (entries.flatMap entryNodes).length = 2 * entries.length := by
  induction entries with
  | nil => rfl
  | cons entry rest inductionHypothesis =>
    rw [List.flatMap_cons, List.length_append, inductionHypothesis, List.length_cons]
    simp only [entryNodes, List.length_cons, List.length_nil]
    omega

theorem entriesHeld (nodes : Array Node) (place : Nat) (entries : Entries)
    (holds : Holds nodes place (entries.flatMap entryNodes))
    (cells : ∀ entry ∈ entries, IsCellValue entry.2) : EntriesHeld nodes place entries := by
  induction entries generalizing place with
  | nil => exact ⟨fun q _ _ => by simp at *; omega, by simp [entryPlaces], by simp [entryPlaces],
      rfl, fun _ => rfl⟩
  | cons entry rest inductionHypothesis =>
    rw [List.flatMap_cons] at holds
    have key : nodes[place]? = some (.scalar .text entry.1) := holds.left.head
    have value : nodes[place + 1]? = some (formNode (formOf entry.2)) := holds.left.tail.head
    have keyAtom : (Node.scalar .text entry.1).IsAtom :=
      ⟨.text, entry.1, .text entry.1, rfl, rfl, rfl, by simp⟩
    obtain ⟨valueAtom, comesBack⟩ := isAtom_formNode entry.2 (cells entry List.mem_cons_self)
    have further := inductionHypothesis (place + 2) holds.right
      fun e present => cells e (List.mem_cons_of_mem entry present)
    refine ⟨?_, ?_, ?_, ?_, ?_⟩
    · intro q low high
      rw [List.length_cons] at high
      rcases Nat.lt_or_ge q (place + 2) with near | far
      · rcases Nat.lt_or_ge q (place + 1) with first | second
        · obtain rfl : q = place := by omega
          exact .atom _ key keyAtom
        · obtain rfl : q = place + 1 := by omega
          exact .atom _ value valueAtom
      · exact further.inTree q far (by omega)
    · intro e present
      rcases List.mem_cons.mp present with rfl | present
      · exact ⟨Nat.le_refl _, Nat.le_succ _, size_le_of_getElem? value⟩
      · obtain ⟨first, second, inside⟩ := further.places e present
        exact ⟨by omega, by omega, inside⟩
    · intro e present
      rcases List.mem_cons.mp present with rfl | present
      · exact ⟨_, key, keyAtom⟩
      · exact further.keys e present
    · have name : atomAt nodes place = .text entry.1 := by
        rw [atomAt, key]
        rfl
      simp only [entryPlaces, List.map_cons, name, further.names]
    · intro depth
      simp only [entryPlaces, List.map_cons, treeValue_atom depth value valueAtom, comesBack,
        further.values depth]

/-- Different names are different keys. -/
theorem apart_texts (names : List String) (different : names.Nodup) :
    (names.map Value.text).Pairwise fun a b => Value.same a b = false := by
  rw [List.pairwise_map]
  refine different.imp fun {a b} unequal => ?_
  simpa [Value.same, Value.sameAtom, Value.numeral?, Value.dateTime?] using unequal

/-- A record with fields in order, as a value. -/
def recordValue (entries : Entries) : Value :=
  .map (entries.map fun entry => (.text entry.1, returned entry.2))

/-- The nodes of a record belong to a tree, whose value is the record. -/
theorem recordHeld (nodes : Array Node) (place : Nat) (entries : Entries)
    (holds : Holds nodes place (recordNodes place entries))
    (cells : ∀ entry ∈ entries, IsCellValue entry.2) (different : (entries.map Prod.fst).Nodup) :
    (∀ q, place ≤ q → q < place + (recordNodes place entries).length → InTree nodes q) ∧
      ∀ depth, treeValue nodes (depth + 2) place = recordValue entries := by
  have found : nodes[place]? = some (.mapping .mapping (entryPlaces (place + 1) entries)) := holds.head
  have held := entriesHeld nodes (place + 1) entries holds.tail cells
  have mapping : InTree nodes place := by
    refine .map _ found (fun e present => ?_) held.keys ?_
    · obtain ⟨first, second, inside⟩ := held.places e present
      exact ⟨first, second, inside⟩
    · rw [held.names, show (entries.map fun entry => Value.text entry.1) =
        (entries.map Prod.fst).map Value.text by simp]
      exact apart_texts _ different
  refine ⟨fun q low high => ?_, fun depth => ?_⟩
  · rw [recordNodes, List.length_cons, length_flatMap_entryNodes] at high
    rcases Nat.lt_or_ge place q with behind | here
    · exact held.inTree q behind (by omega)
    · obtain rfl : q = place := by omega
      exact mapping
  · rw [treeValue, standing_map found]
    simp only [List.map_map, Function.comp_def]
    rw [← List.zip_map', held.names, held.values depth, List.zip_map']
    rfl

/-- The nodes of several records. -/
theorem recordsHeld (nodes : Array Node) (place : Nat) (records : List Entries)
    (holds : Holds nodes place (recordsNodes place records))
    (cells : ∀ entries ∈ records, ∀ entry ∈ entries, IsCellValue entry.2)
    (different : ∀ entries ∈ records, (entries.map Prod.fst).Nodup) :
    (∀ q, place ≤ q → q < place + (recordsNodes place records).length → InTree nodes q) ∧
      (∀ q ∈ recordPlaces place records, place ≤ q ∧ q < nodes.size) ∧
      ∀ depth, (recordPlaces place records).map (treeValue nodes (depth + 2)) =
        records.map recordValue := by
  induction records generalizing place with
  | nil => exact ⟨fun q _ _ => by simp [recordsNodes] at *; omega, by simp [recordPlaces], fun _ => rfl⟩
  | cons entries rest inductionHypothesis =>
    obtain ⟨inTree, value⟩ := recordHeld nodes place entries holds.left
      (cells entries List.mem_cons_self) (different entries List.mem_cons_self)
    obtain ⟨inTrees, places, values⟩ := inductionHypothesis _ holds.right
      (fun e present => cells e (List.mem_cons_of_mem entries present))
      (fun e present => different e (List.mem_cons_of_mem entries present))
    refine ⟨fun q low high => ?_, fun q present => ?_, fun depth => ?_⟩
    · rw [recordsNodes, List.length_append] at high
      rcases Nat.lt_or_ge q (place + (recordNodes place entries).length) with near | far
      · exact inTree q low near
      · exact inTrees q far (by omega)
    · rcases List.mem_cons.mp present with rfl | present
      · exact ⟨Nat.le_refl _, size_le_of_getElem? holds.left.head⟩
      · obtain ⟨behind, inside⟩ := places q present
        exact ⟨by omega, inside⟩
    · simp only [recordPlaces, List.map_cons, value depth, values depth]

/-- The asset that comes back: its texts as their styles give them back. -/
def returnedAsset (a : Asset) : Asset :=
  { a with records := a.records.map fun entries => entries.map fun entry => (entry.1, returned entry.2) }

/-- A name comes back as it is. -/
theorem returned_name (name : String) (isName : IsName name.toList) :
    returned (.text name) = .text name := by
  rw [returned, isName.chooseStyle_eq, isName.readBack_eq, String.ofList_toList]

/-- What stands at the first seven places of a table that holds the nodes of an asset: the root, and
a key and a value for each of its entries. -/
structure AssetHeld (nodes : Array Node) (a : Asset) : Prop where
  root : nodes[0]? = some (.mapping .mapping [(1, 2), (3, 4), (5, 6)])
  nameKey : nodes[1]? = some (.scalar .text "name")
  name : nodes[2]? = some (formNode (formOf (.text a.name)))
  typeKey : nodes[3]? = some (.scalar .text "record_type")
  type : nodes[4]? = some (formNode (formOf (.text a.recordType)))
  listKey : nodes[5]? = some (.scalar .text "list")
  list : nodes[6]? = some (.sequence .sequence (recordPlaces 7 a.records))

theorem assetHeld {nodes : Array Node} {a : Asset} (holds : Holds nodes 0 (assetNodes a)) :
    AssetHeld nodes a where
  root := holds.head
  nameKey := holds.tail.head
  name := holds.tail.tail.head
  typeKey := holds.tail.tail.tail.head
  type := holds.tail.tail.tail.tail.head
  listKey := holds.tail.tail.tail.tail.tail.head
  list := holds.tail.tail.tail.tail.tail.tail.head

/-- A key is an atom. -/
theorem isAtom_key (text : String) : (Node.scalar .text text).IsAtom :=
  ⟨.text, text, .text text, rfl, rfl, rfl, by simp⟩

/-- The keys of an asset are the names of its entries. -/
theorem AssetHeld.keys {nodes : Array Node} {a : Asset} (held : AssetHeld nodes a) :
    [(1, 2), (3, 4), (5, 6)].map (fun e => atomAt nodes e.1) =
      ["name", "record_type", "list"].map Value.text := by
  simp [atomAt, held.nameKey, held.typeKey, held.listKey, Node.atom, scalarValue, Except.toOption]

/-- The first nodes of an asset belong to a tree, when the places of its records lie behind them. -/
theorem AssetHeld.inTree {nodes : Array Node} {a : Asset} (held : AssetHeld nodes a)
    (size : 7 ≤ nodes.size) (places : ∀ q ∈ recordPlaces 7 a.records, 7 ≤ q ∧ q < nodes.size)
    (q : Nat) (first : q < 7) : InTree nodes q := by
  have cases : q = 0 ∨ q = 1 ∨ q = 2 ∨ q = 3 ∨ q = 4 ∨ q = 5 ∨ q = 6 := by omega
  rcases cases with rfl | rfl | rfl | rfl | rfl | rfl | rfl
  · refine .map _ held.root ?_ ?_ ?_
    · simp only [List.mem_cons, List.not_mem_nil, or_false, forall_eq_or_imp, forall_eq]
      omega
    · simp only [List.mem_cons, List.not_mem_nil, or_false, forall_eq_or_imp, forall_eq]
      exact ⟨⟨_, held.nameKey, isAtom_key _⟩, ⟨_, held.typeKey, isAtom_key _⟩,
        ⟨_, held.listKey, isAtom_key _⟩⟩
    · rw [held.keys]
      exact apart_texts _ (by decide)
  · exact .atom _ held.nameKey (isAtom_key _)
  · exact .atom _ held.name (isAtom_formNode (.text a.name) (.text a.name)).1
  · exact .atom _ held.typeKey (isAtom_key _)
  · exact .atom _ held.type (isAtom_formNode (.text a.recordType) (.text a.recordType)).1
  · exact .atom _ held.listKey (isAtom_key _)
  · refine .list _ held.list fun q present => ?_
    obtain ⟨after, inside⟩ := places q present
    exact ⟨by omega, inside⟩

/-- The root of an asset stands for its name, its record type and the values of its records. -/
theorem AssetHeld.treeValue_root {nodes : Array Node} {a : Asset} (held : AssetHeld nodes a)
    (depth : Nat) (isName : IsName a.name.toList) (isType : IsName a.recordType.toList)
    (values : (recordPlaces 7 a.records).map (treeValue nodes (depth + 2)) =
      a.records.map recordValue) :
    treeValue nodes (depth + 4) 0 = .map [(.text "name", .text a.name),
      (.text "record_type", .text a.recordType), (.text "list", .list (a.records.map recordValue))] := by
  obtain ⟨nameAtom, nameBack⟩ := isAtom_formNode (.text a.name) (.text a.name)
  obtain ⟨typeAtom, typeBack⟩ := isAtom_formNode (.text a.recordType) (.text a.recordType)
  have listValue : treeValue nodes (depth + 3) 6 = .list (a.records.map recordValue) := by
    rw [treeValue, standing_list held.list]
    simp only [values]
  have keys := held.keys
  simp only [List.map_cons, List.map_nil, List.cons.injEq, and_true] at keys
  obtain ⟨nameText, typeText, listText⟩ := keys
  rw [treeValue, standing_map held.root]
  simp only [List.map_cons, List.map_nil, nameText, typeText, listText,
    treeValue_atom _ held.name nameAtom, treeValue_atom _ held.type typeAtom, nameBack, typeBack,
    listValue, returned_name _ isName, returned_name _ isType]

/-- The nodes of an asset form a tree, whose value is the asset that comes back. -/
theorem value_asset (a : Asset) (isName : IsName a.name.toList) (isType : IsName a.recordType.toList)
    (cells : ∀ entries ∈ a.records, ∀ entry ∈ entries, IsCellValue entry.2)
    (different : ∀ entries ∈ a.records, (entries.map Prod.fst).Nodup) :
    Document.value { nodes := (assetNodes a).toArray, root := 0 } =
      .ok (returnedAsset a).toValue := by
  obtain ⟨nodes, table⟩ : ∃ nodes, nodes = (assetNodes a).toArray := ⟨_, rfl⟩
  rw [← table]
  have holds : Holds nodes 0 (assetNodes a) := fun i _ => by simp [table]
  have size : nodes.size = 7 + (recordsNodes 7 a.records).length := by
    simp only [table, List.size_toArray, assetNodes, List.length_append, List.length_cons,
      List.length_nil]
  obtain ⟨inTrees, places, values⟩ := recordsHeld nodes 7 a.records holds.right cells different
  have held := assetHeld holds
  have tree : IsTree nodes := by
    intro q inside
    rcases Nat.lt_or_ge q 7 with first | behind
    · exact held.inTree (by omega) places q first
    · exact inTrees q behind (by omega)
  rw [Document.value_tree nodes 0 tree (by omega)]
  obtain ⟨depth, deep⟩ : ∃ depth, nodes.size + 1 = depth + 4 := ⟨nodes.size - 3, by omega⟩
  rw [deep, held.treeValue_root depth isName isType (values depth)]
  simp [Asset.toValue, returnedAsset, recordValue, Function.comp_def]

end TypedSheets.Yaml

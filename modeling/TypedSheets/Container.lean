import TypedSheets.Record

/-!
# Containers

A container holds the records of one sheet in row order. Its type names it and the
record type that its records are rebuilt with; a container type without record type
can be filled with records, but not from an asset.
-/

namespace TypedSheets

structure ContainerType where
  name : String
  record : Option RecordType
  deriving Repr

structure Container where
  /-- The name of the type that the container was made with. -/
  typeName : String
  records : List Entries := []
  deriving Repr

namespace ContainerType

/-- A container of the type without records. -/
def empty (t : ContainerType) : Container := { typeName := t.name }

/-- The record of one entry of an asset. -/
def buildRecord (t : ContainerType) (item : Value) : Except Failure Entries :=
  match item.opened with
  | .map entries =>
    match t.record with
    | none => .error (.record (.unbound t.name false))
    | some record => do
      record.checkKinds.mapError .record
      let given ← convertEntries record entries
      (record.create given).mapError .record
  | value => .error (.record (.entryKind value.kindName))

/-- The records of the entries of an asset; the first entry that does not fit refuses all. -/
def buildRecords (t : ContainerType) : List Value → Except Failure (List Entries)
  | [] => .ok []
  | item :: rest => do
    let record ← t.buildRecord item
    let others ← t.buildRecords rest
    pure (record :: others)

/-- The entries that a value gives when it is gone through. -/
def itemsOf (value : Value) : Except RecordError (List Value) :=
  match value.opened with
  | .list items => .ok items
  | .set items => .ok items
  | .text s => .ok (s.toList.map fun c => .text (String.singleton c))
  | .map entries => .ok (entries.map Prod.fst)
  | .bytes data => .ok (data.map fun b => .int b.toNat)
  | value => .error (.notIterable value.familyKindName)

/-- The container of an asset: a record for each entry of its list. A list that is missing
or counts as false has no entries. -/
def fromAsset (t : ContainerType) (payload : Value) : Except Failure Container :=
  match payload.opened with
  | .map entries => do
    let items ← match Value.lookup? (.text "list") entries with
      | none => pure []
      | some value =>
        if value.isTruthy then (itemsOf value).mapError .record else pure []
    let records ← t.buildRecords items
    pure { typeName := t.name, records }
  | value => .error (.record (.payloadKind value.kindName))

end ContainerType

namespace Container

/-- The asset of a container under a name. -/
def toAsset (c : Container) (t : ContainerType) (name : String) : Except RecordError Value :=
  match t.record with
  | none => .error (.unbound c.typeName true)
  | some record =>
    .ok (.map [(.text "name", .text name), (.text "record_type", .text record.name),
      (.text "list", .list (c.records.map recordMap))])

/-- The record at an index; a negative one counts from the end. -/
def at_ (c : Container) (index : Int) : Except RecordError Entries :=
  let place := if index < 0 then index + c.records.length else index
  match if place < 0 then none else c.records[place.toNat]? with
  | some record => .ok record
  | none => .error .outOfRange

/-- A container in messages: its type and the number of its records. -/
def shown (c : Container) : String :=
  c.typeName ++ "(" ++ Number.integerText c.records.length ++ " records)"

end Container

end TypedSheets

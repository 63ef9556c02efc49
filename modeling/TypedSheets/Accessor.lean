import TypedSheets.Container
import TypedSheets.Json.Encoding
import TypedSheets.Log

/-!
# Accessors

An accessor gives access to the records of one loaded container by their keys. Loading
replaces the container and the index as a whole. Of several records with one key the
last is indexed, each of the others is reported once, and the index keeps the order
in which the keys first occur. A load that fails leaves everything as it was.
-/

namespace TypedSheets

open TypedSheets.Number TypedSheets.Text

structure AccessorType where
  /-- Tells accessor types apart; their class names need not. -/
  identity : Nat
  className : String
  /-- The name of the dataset. -/
  name : String
  /-- The path of the asset, as it is written. -/
  assetPath : String
  container : ContainerType
  deriving Repr

/-- Records by their keys, in the order of first occurrence. -/
abbrev KeyIndex := List (Value × Entries)

namespace KeyIndex

/-- The record with a key. -/
def find? (index : KeyIndex) (key : Value) : Option Entries :=
  (List.find? (fun entry => Value.same entry.1 key) index).map Prod.snd

/-- Puts a record under its key, in the place of the one that is there. -/
def insert (index : KeyIndex) (key : Value) (record : Entries) : KeyIndex :=
  match index with
  | [] => [(key, record)]
  | entry :: rest =>
    if Value.same entry.1 key then (entry.1, record) :: rest
    else entry :: KeyIndex.insert rest key record

end KeyIndex

structure Accessor where
  type : AccessorType
  container : Container
  index : KeyIndex := []
  /-- The keys of the records whose key had occurred before, in row order. -/
  duplicates : List Value := []
  deriving Repr

/-- An accessor before its first load. -/
def AccessorType.new (t : AccessorType) : Accessor := { type := t, container := t.container.empty }

/-- What comes of indexing records: the index, the keys that occurred before, and the key
that stopped the work because it can be none. -/
structure Indexing where
  index : KeyIndex := []
  duplicates : List Value := []
  stopped : Option RecordError := none

/-- A lookup needs a value that can be a key. -/
def checkKey (key : Value) : Except RecordError Value :=
  if key.isKey then .ok key else .error (.notKey key.kindName)

/-- Indexes records one after another. -/
def indexRecords (done : Indexing) : List Entries → Indexing
  | [] => done
  | record :: rest =>
    match askedKey record >>= checkKey with
    | .error e => { done with stopped := some e }
    | .ok key =>
      let seen := (done.index.find? key).isSome
      indexRecords
        { done with index := done.index.insert key record
                    duplicates := if seen then done.duplicates ++ [key] else done.duplicates } rest

/-- A key in log lines. -/
def keyLine (key : Value) : String := (key.plainText.toOption).getD ""

namespace Accessor

/-- What the records of an accessor are called in log lines: the record type, or the type
of the container when that binds none. -/
def recordName (a : Accessor) : String :=
  (a.type.container.record.map RecordType.name).getD a.container.typeName

/-- The warning about a key that occurs again. -/
def duplicateLine (a : Accessor) (key : Value) : LogLine :=
  ⟨.warning, "DUPLICATE_KEY: duplicated key [" ++ keyLine key ++ "] in " ++ a.recordName ++ " (" ++
    a.type.name ++ "); the later record is kept"⟩

/-- Loads a container; a warning is logged for each key that occurs again. -/
def load (a : Accessor) (c : Container) : List LogLine × Except Failure Accessor :=
  let done := indexRecords {} c.records
  let lines := done.duplicates.map a.duplicateLine
  match done.stopped with
  | some e => (lines, .error (.record e))
  | none =>
    (lines, .ok { a with container := c, index := done.index, duplicates := done.duplicates })

/-- Loads the container of an asset. -/
def loadAsset (a : Accessor) (payload : Value) : List LogLine × Except Failure Accessor :=
  match a.type.container.fromAsset payload with
  | .error e => ([], .error e)
  | .ok c => a.load c

/-- Loads what a fetch delivers; a fetch that fails or is cancelled loads nothing. -/
def loadFetched (a : Accessor) (fetched : Except Failure Value) :
    List LogLine × Except Failure Accessor :=
  match fetched with
  | .error e => ([], .error e)
  | .ok payload => a.loadAsset payload

/-- Back to the state before the first load. -/
def clear (a : Accessor) : Accessor := a.type.new

/-- The record with a key. -/
def getSilently (a : Accessor) (key : Value) : Except RecordError (Option Entries) :=
  (checkKey key).map a.index.find?

/-- The record with a key; a warning is logged when there is none. -/
def get (a : Accessor) (key : Value) : List LogLine × Except RecordError (Option Entries) :=
  match a.getSilently key with
  | .ok none =>
    ([⟨.warning, "LOOKUP_NOT_FOUND: attempted to get non-existed object in " ++ a.recordName ++
        ". key=" ++ keyLine key⟩], .ok none)
  | outcome => ([], outcome)

/-- Whether there is a record with a key. -/
def contains (a : Accessor) (key : Value) : Except RecordError Bool :=
  (a.getSilently key).map Option.isSome

/-- Whether a record with the same values is loaded. -/
def containsRecord (a : Accessor) (record : Entries) : Bool :=
  a.container.records.any fun other => sameRecord other record

/-- The first record in row order that matches. -/
def find? (test : Entries → Except Failure Bool) : List Entries → Except Failure (Option Entries)
  | [] => .ok none
  | record :: rest => do if ← test record then pure (some record) else find? test rest

/-- Every record that matches, in row order. -/
def findAll (test : Entries → Except Failure Bool) : List Entries → Except Failure (List Entries)
  | [] => .ok []
  | record :: rest => do
    let matches_ ← test record
    let others ← findAll test rest
    pure (if matches_ then record :: others else others)

/-- An accessor in messages. -/
def shown (a : Accessor) : String :=
  a.type.className ++ "(name=" ++ quote a.type.name ++ ", records=" ++
    integerText a.container.records.length ++ ")"

/-- The dataset in object notation: its name and its records in row order. -/
def toJson (a : Accessor) : Except Failure String :=
  Json.encode (.map [(.text a.type.name, .list (a.container.records.map recordMap))])

end Accessor

end TypedSheets

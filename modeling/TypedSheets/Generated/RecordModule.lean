import TypedSheets.Emission.Modules
import TypedSheets.Generated.EnumModule
import TypedSheets.Record

/-!
# Loaded record modules

The record module of a sheet defines a class with a field for each column. The class
decides what the fields are called and what they default to; the types of the fields are
looked up by name when the first record is read: first in the module, then among the
fields of the class, and then among the types that every module knows. A field with a
name that classes use for themselves takes part in that use.
-/

namespace TypedSheets.Generated

open TypedSheets.Emission TypedSheets.Number TypedSheets.Schema TypedSheets.Text

/-- A field of a class that is being defined. -/
structure ClassField where
  name : String
  default : Value
  /-- The name of its type. -/
  typeName : String
  deriving Repr

/-- With a field: one of the same name is replaced. -/
def putField (field : ClassField) : List ClassField → List ClassField
  | [] => [field]
  | other :: rest =>
    if other.name = field.name then field :: rest else other :: putField field rest

/-- The field of a name. -/
def fieldNamed? (fields : List ClassField) (name : String) : Option ClassField :=
  fields.find? fun f => f.name == name

/-- The default of a field inside a class. The enumeration of an enum field is looked up among
the fields before it and then among the imports. -/
def classDefault (owner : String) (imported : List Enumeration) (fields : List ClassField)
    (f : Field) : Except LoadError Value :=
  match f.enumeration with
  | none => .ok f.default
  | some e =>
    let name := nameWithin owner (normalForm e.name)
    let label := normalForm ((e.members.head?.map EnumMember.name).getD "")
    match fieldNamed? fields name, importEnumeration? imported name with
    | some other, _ => .error (.noAttribute other.default.kindName label)
    | none, none => .error (.undefinedName name)
    | none, some loaded =>
      match loaded.member? label with
      | some m => .ok (memberValueOf loaded m)
      | none => .error (.noMember label)

/-- The name under which a class keeps the types of its fields. -/
def typesName : String := "__annotations__"

/-- The fields of a class, one after another. -/
def classFields (owner : String) (imported : List Enumeration) (done : List ClassField) :
    List Field → Except LoadError (List ClassField)
  | [] => .ok done
  | f :: rest => do
    let default ← classDefault owner imported done f
    let name := nameWithin owner (normalForm f.name)
    if name = typesName then throw (.noItems default.kindName)
    let declared := annotation f
    let field := { name, default, typeName := normalForm declared }
    classFields owner imported (putField field done) rest

/-- The text of a default in messages. -/
def shownDefault (value : Value) : String := (value.shown.toOption).getD ""

/-- The kind of a default in messages. -/
def shownKind : Value → String
  | .member owner _ _ => "<enum '" ++ owner ++ "'>"
  | value => "<class '" ++ value.kindName ++ "'>"

/-- Checks the fields that the definition of a class uses. -/
def checkClass (fields : List ClassField) : Except LoadError Unit := do
  let default? (name : String) : Option Value := (fieldNamed? fields name).map ClassField.default
  match default? "__slots__" with
  | some (.text _) => throw .slotNames
  | some value => throw (.failure (.record (.notIterable value.kindName)))
  | none => pure ()
  match default? "__qualname__" with
  | none | some (.text _) => pure ()
  | some value => throw (.qualifiedName value.kindName)
  match default? "__classcell__" with
  | some value => throw (.classCell (shownKind value))
  | none => pure ()

/-- What a class has under a name before it is a record class, if that hides the default of a
field. -/
def classAttribute? (owner name : String) : Option Value :=
  [("__name__", .text owner), ("__text_signature__", .null), ("__class__", .object "type"),
    ("__base__", .object "type"), ("__bases__", .object "type"), ("__mro__", .object "type"),
    ("__dataclass_params__", .object "_DataclassParams"),
    ("get_key", .object "function")].lookup name

/-- Checks what making a record class of a class takes: its module, defaults that are no
maps, names that may be arguments, and a way to call it. -/
def checkRecordClass (fields : List ClassField) : Except LoadError Unit := do
  let default? (name : String) : Option Value := (fieldNamed? fields name).map ClassField.default
  if (default? "__module__").isSome then throw .noNamespace
  if (default? "__dict__").isSome then
    throw (.failure (.record (.sharedItems "mappingproxy" "__dict__")))
  if fields.any fun f => reservedWords.contains f.name then
    throw (.malformed "invalid syntax" "<string>" 2)
  if !((default? "__doc__").map Value.isTruthy).getD false then
    match default? "__signature__" with
    | some value => throw (.notSignature (shownDefault value))
    | none => pure ()
    match default? "__new__" <|> default? "__init__" with
    | some value => throw (.notFunction (shownDefault value))
    | none => pure ()

/-- The kind that the name of a type gives to a field. -/
def kindNamed (owner : String) (imported : List Enumeration) (fields : List ClassField)
    (typeName : String) : FieldKind :=
  match importEnumeration? imported typeName with
  | some e =>
    if typeName = owner || ["None", "True", "False"].contains typeName then .any
    else if reservedWords.contains typeName then .nameless typeName
    else .member e
  | none =>
    match (fieldNamed? fields typeName).map ClassField.default with
    | some (.text s) => .nameless s
    | some _ => .any
    | none =>
      ([("int", FieldKind.int), ("float", .float), ("bool", .truth), ("str", .text)].lookup
        typeName).getD .any

/-- The line of the first field in a record module. -/
def firstFieldLine (d : Description) : Nat := if (enumImports d).isEmpty then 9 else 11

/-- The first line of a record module that binds the name that no module may bind. -/
def unboundRecordLine? (d : Description) : Option Nat :=
  if (enumImports d).any fun name => normalForm name == unboundName then some 6
  else (d.fields.findIdx? fun f => normalForm f.name == unboundName).map (firstFieldLine d + ·)

/-- A class in messages: its module and its name. -/
def shownClass (place name : String) : String := "<class '" ++ place ++ "." ++ name ++ "'>"

/-- The record type that the module of a sheet defines; `defined` is what the enumeration
module of the schema file gives. -/
def loadRecordModule (base : String) (defined : Except LoadError (List Enumeration))
    (d : Description) : Except LoadError RecordType := do
  let owner := recordName d.sheet
  if let some line := unboundRecordLine? d then throw (bindsUnbound (owner ++ ".py") line)
  let imports := enumImports d
  let imported ← if imports.isEmpty then pure []
    else defined.map fun enums => imports.filterMap (importEnumeration? enums)
  let fields ← classFields owner imported [] d.fields
  checkClass fields
  let maker := "dataclass"
  if (importEnumeration? imported maker).isSome then
    throw (.failure (.record
      (.notMember (shownClass (sheetModule base "VO" d.schema owner) owner) maker)))
  checkRecordClass fields
  pure {
    name := owner
    fields := fields.map fun f => {
      name := f.name
      kind := kindNamed owner imported fields f.typeName
      default := (classAttribute? owner f.name).getD f.default } }

end TypedSheets.Generated

import TypedSheets.Issue
import TypedSheets.Schema.Enumeration
import TypedSheets.Text.Quoted

/-!
# Schema descriptions

A description is what a sheet says once it is read: its fields in column order,
the first of which is the key, and its data rows as raw texts under the field
names. A shape error says why a sheet, or the file that it belongs to, is refused.
-/

namespace TypedSheets.Schema

open TypedSheets.Text

structure Field where
  name : String
  /-- The column of the grid that the field comes from. -/
  column : Int
  /-- The declared type: a primitive name, or the name of the enumeration. -/
  declaredType : String
  comment : String
  enumeration : Option Enumeration
  /-- The cell that declares the enumeration; empty when it is declared elsewhere. -/
  enumBody : String
  deriving Repr, DecidableEq

structure DataRow where
  /-- The row of the grid. -/
  number : Int
  /-- The raw texts under the names of the fields, in field order. -/
  values : List (String × String)
  deriving Repr, DecidableEq

/-- The raw text of a field; a field that the row lacks counts as empty. -/
def DataRow.raw (row : DataRow) (field : String) : String := (row.values.lookup field).getD ""

structure Description where
  schema : String
  sheet : String
  /-- The first field, whose values are the primary keys. -/
  key : Field
  /-- The fields behind the key. -/
  others : List Field
  rows : List DataRow
  deriving Repr, DecidableEq

/-- All fields in column order. -/
def Description.fields (d : Description) : List Field := d.key :: d.others

/-- The field with a name. -/
def Description.field? (d : Description) (name : String) : Option Field :=
  d.fields.find? fun f => f.name == name

/-- The enumerations of the enum fields, in column order. -/
def Description.enumerations (d : Description) : List Enumeration :=
  d.fields.filterMap Field.enumeration

/-- Why a sheet or a schema file is refused. -/
inductive ShapeCause where
  | schemaName (name : String)
  | sheetName (name : String)
  | missingKey
  | untypedField (name : String)
  | unnamedType
  | fieldName (name : String)
  | duplicateField (name : String)
  | reservedField (name : String)
  | enumTypeName (declared : String)
  | enumBody (cause : EnumBodyError)
  | redeclaredEnum (declared : String)
  | unknownType (declared : String)
  | fieldNamedAsEnum (name : String)
  | conflictingEnum (declared : String)
  | missingSheet
  deriving Repr, DecidableEq

/-- The wording of a refusal. -/
def ShapeCause.message : ShapeCause → String
  | .schemaName name => "schema file name " ++ quote name ++ " is not a valid identifier"
  | .sheetName name => "sheet name " ++ quote name ++ " is not a valid identifier"
  | .missingKey => "primary key field name is missing"
  | .untypedField name => "field '" ++ name ++ "' has no type"
  | .unnamedType => "type declared without a field name"
  | .fieldName name => "field name " ++ quote name ++ " is not a valid identifier"
  | .duplicateField name => "duplicate field name " ++ quote name
  | .reservedField name => "field name " ++ quote name ++ " is reserved"
  | .enumTypeName declared =>
    "enum type name " ++ quote declared ++ " must be a non-primitive identifier"
  | .enumBody cause => cause.message
  | .redeclaredEnum declared =>
    "enum " ++ quote declared ++ " is declared twice with different members"
  | .unknownType declared => "unknown field type " ++ quote declared
  | .fieldNamedAsEnum name => "field name " ++ quote name ++ " collides with an enum type name"
  | .conflictingEnum declared =>
    "enum " ++ quote declared ++ " conflicts with another declaration in this file"
  | .missingSheet => "sheet not found in schema file"

/-- A refusal and its place. -/
structure ShapeError where
  cause : ShapeCause
  place : Place
  deriving Repr, DecidableEq

/-- The refusal as an issue. -/
def ShapeError.issue (e : ShapeError) : Issue :=
  { kind := .shape, message := e.cause.message, place := e.place }

/-- The wording of a refusal with its place. -/
def ShapeError.text (e : ShapeError) : String := e.issue.text

end TypedSheets.Schema

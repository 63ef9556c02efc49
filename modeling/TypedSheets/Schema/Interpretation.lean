import TypedSheets.Grid
import TypedSheets.Log
import TypedSheets.Schema.Description
import TypedSheets.Schema.Primitive

/-!
# Interpretation of sheets

Four header rows fix the meaning of a column: the field name, a comment, an
optional enum body and the type. Data rows follow. The first column is the key.
Names and types must come in pairs, and a type is primitive, or an enumeration
that this column declares, that a column further left declares, or that any sheet
of the same file declares: enumerations share one namespace per file. Sheets are
interpreted one by one, so a refused sheet never stops its siblings.
-/

namespace TypedSheets.Schema

open TypedSheets.Grid TypedSheets.Number TypedSheets.Text

/-- The header rows and the first data row. -/
def nameRow : Int := 0
def commentRow : Int := 1
def enumRow : Int := 2
def typeRow : Int := 3
def firstDataRow : Int := 4

/-- The column of the primary key. -/
def keyColumn : Int := 0

/-- Field names that would hide names which the generated records use. -/
def reservedFieldNames : List String := ["int", "float", "bool", "str", "get_key"]

/-- The columns in which a row holds a text that is not blank, in ascending order. -/
def populatedColumns (sheet : Sheet) (row : Int) : List Int :=
  ((sheet.row row).filter fun c => !isBlankText c.value).map Cell.column

/-- A refusal of a sheet at a place. -/
def refuse {α : Type} (schema : String) (sheet : Sheet) (cause : ShapeCause)
    (row : Int := -1) (column : Int := -1) : Except ShapeError α :=
  .error { cause, place := { file := schema, sheet := sheet.name, row, column } }

/-- The name of a schema file must be an identifier. -/
def checkSchemaName (schema : String) : Except ShapeError Unit :=
  if isIdentifier schema then .ok ()
  else .error { cause := .schemaName schema, place := { file := schema } }

/-- The enumerations by type name, in the order of their first declaration. -/
abbrev EnumTable := List (String × Enumeration)

/-- Every name has a type, every type has a name, and the key column has both. -/
def checkHeader (schema : String) (sheet : Sheet) (names types : List Int) :
    Except ShapeError Unit := do
  if !names.contains keyColumn then refuse schema sheet .missingKey nameRow keyColumn
  for column in names do
    if !types.contains column then
      refuse schema sheet (.untypedField (trim (sheet.value nameRow column))) typeRow column
  for column in types do
    if !names.contains column then refuse schema sheet .unnamedType nameRow column

/-- What the columns read so far declare. -/
structure ColumnsRead where
  fields : List Field := []
  enums : EnumTable := []

/-- The enumeration of a column with an enum body. -/
def declaredEnum (schema : String) (sheet : Sheet) (column : Int) (declared body : String)
    (enums : EnumTable) : Except ShapeError Enumeration :=
  if !isIdentifier declared || isPrimitive declared then
    refuse schema sheet (.enumTypeName declared) typeRow column
  else match readEnumBody declared body with
    | .error cause => refuse schema sheet (.enumBody cause) enumRow column
    | .ok enumeration =>
      match enums.lookup declared with
      | none => .ok enumeration
      | some previous =>
        if previous = enumeration then .ok enumeration
        else refuse schema sheet (.redeclaredEnum declared) enumRow column

/-- Reads one column behind the columns already read. -/
def readColumn (schema : String) (sheet : Sheet) (known : EnumTable) (read : ColumnsRead)
    (column : Int) : Except ShapeError ColumnsRead :=
  let name := trim (sheet.value nameRow column)
  let declared := trim (sheet.value typeRow column)
  let comment := trim (sheet.value commentRow column)
  let body := sheet.value enumRow column
  let field (enumeration : Option Enumeration) (enumBody : String) : Field :=
    { name, column, declaredType := declared, comment, enumeration, enumBody }
  if !isIdentifier name then refuse schema sheet (.fieldName name) nameRow column
  else if read.fields.any fun f => f.name == name then
    refuse schema sheet (.duplicateField name) nameRow column
  else if reservedFieldNames.contains name then
    refuse schema sheet (.reservedField name) nameRow column
  else if !isBlankText body then
    match declaredEnum schema sheet column declared body read.enums with
    | .error e => .error e
    | .ok enumeration =>
      let enums := if (read.enums.lookup declared).isSome then read.enums
        else read.enums ++ [(declared, enumeration)]
      .ok { fields := read.fields ++ [field (some enumeration) body], enums }
  else if isPrimitive declared then
    .ok { read with fields := read.fields ++ [field none body] }
  else
    match (read.enums.lookup declared).or (known.lookup declared) with
    | none => refuse schema sheet (.unknownType declared) typeRow column
    | some enumeration => .ok { read with fields := read.fields ++ [field (some enumeration) ""] }

/-- The data rows: from the first data row on, those with a field that is not blank. -/
def readRows (sheet : Sheet) (fields : List Field) : List DataRow :=
  (sheet.rowIndices.filter fun row => firstDataRow ≤ row).filterMap fun row =>
    let values := fields.map fun f => (f.name, sheet.value row f.column)
    if values.any fun entry => !isBlankText entry.2 then some { number := row, values } else none

/-- Interprets one sheet; `known` holds the enumerations declared anywhere in the file. -/
def interpretSheet (schema : String) (known : EnumTable) (sheet : Sheet) :
    Except ShapeError Description := do
  if !isIdentifier sheet.name then refuse schema sheet (.sheetName sheet.name)
  let names := populatedColumns sheet nameRow
  checkHeader schema sheet names (populatedColumns sheet typeRow)
  let read ← names.foldlM (readColumn schema sheet known) {}
  let used := (read.fields.filterMap Field.enumeration).map Enumeration.name
  match read.fields.find? fun f => used.contains f.name with
  | some f => refuse schema sheet (.fieldNamedAsEnum f.name) nameRow f.column
  | none =>
    match read.fields with
    | [] => refuse schema sheet .missingKey nameRow keyColumn
    | key :: others =>
      pure { schema, sheet := sheet.name, key, others, rows := readRows sheet read.fields }

/-- Adds the enumerations that the enum row of a sheet declares under new names; bodies
that do not read are left for the interpretation to report. -/
def addDeclarations (enums : EnumTable) (sheet : Sheet) : EnumTable :=
  (populatedColumns sheet enumRow).foldl (fun table column =>
    let declared := trim (sheet.value typeRow column)
    if (table.lookup declared).isSome || !isIdentifier declared || isPrimitive declared then table
    else match readEnumBody declared (sheet.value enumRow column) with
      | .ok enumeration => table ++ [(declared, enumeration)]
      | .error _ => table) enums

/-- Every enumeration declared anywhere in the workbook; the first declaration wins. -/
def collectEnums (workbook : Workbook) : EnumTable := workbook.sheets.foldl addDeclarations []

/-- The first field whose own enum body differs from the declaration that the file uses. -/
def conflictingField? (enums : EnumTable) (d : Description) : Option Field :=
  d.fields.find? fun f =>
    match f.enumeration with
    | none => false
    | some e => f.enumBody != "" && enums.lookup e.name != some e

/-- Interprets a sheet as part of its file. -/
def interpretIn (schema : String) (enums : EnumTable) (sheet : Sheet) :
    Except ShapeError Description :=
  match interpretSheet schema enums sheet with
  | .error e => .error e
  | .ok d =>
    match conflictingField? enums d with
    | none => .ok d
    | some f => refuse schema sheet (.conflictingEnum f.declaredType) enumRow f.column

/-- What becomes of every sheet, in order. -/
def interpretSheets (workbook : Workbook) : List (Except ShapeError Description) :=
  workbook.sheets.map (interpretIn workbook.name (collectEnums workbook))

/-- The descriptions of the accepted sheets, in sheet order. -/
def accepted (workbook : Workbook) : List Description :=
  (interpretSheets workbook).filterMap Except.toOption

/-- The refusals of the other sheets, in sheet order. -/
def refused (workbook : Workbook) : List ShapeError :=
  (interpretSheets workbook).filterMap fun outcome =>
    match outcome with
    | .ok _ => none
    | .error e => some e

/-- The detailed log of an interpretation: one line for each sheet that reads, and one
for each that is refused in the end. -/
def interpretationLog (workbook : Workbook) : List LogLine :=
  let enums := collectEnums workbook
  workbook.sheets.flatMap fun sheet =>
    let read := match interpretSheet workbook.name enums sheet with
      | .ok d => [LogLine.mk .debug ("interpreted schema=" ++ d.schema ++ " sheet=" ++ d.sheet ++
          " fields=" ++ integerText d.fields.length ++ " rows=" ++ integerText d.rows.length)]
      | .error _ => []
    match interpretIn workbook.name enums sheet with
    | .ok _ => read
    | .error e => read ++ [LogLine.mk .debug ("schema shape error: " ++ e.text)]

end TypedSheets.Schema

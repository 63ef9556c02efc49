import TypedSheets.Asset
import TypedSheets.Schema.Description
import TypedSheets.Schema.Primitive

/-!
# Coercion of data rows

Each raw cell text becomes a value of the declared type of its field. A text field
takes the text as it is, a label of an enum field becomes the integer of its
member, and any other text is read by its primitive type and must not be blank.
The first cell that does not fit refuses the whole sheet.
-/

namespace TypedSheets

open TypedSheets.Schema TypedSheets.Text

/-- Why a cell has no value. -/
inductive CoercionCause where
  | missing (declared field : String)
  | notMember (label enumeration : String) (labels : List String)
  | unreadable (text declared field : String) (cause : ReadError)
  deriving Repr, DecidableEq

/-- The wording of a refused cell. -/
def CoercionCause.message : CoercionCause → String
  | .missing declared field => "value required for " ++ declared ++ " field '" ++ field ++ "'"
  | .notMember label enumeration labels =>
    "'" ++ label ++ "' is not a member of " ++ enumeration ++ " (expected one of " ++
      ", ".intercalate labels ++ ")"
  | .unreadable text declared field cause =>
    "cannot parse '" ++ text ++ "' as " ++ declared ++ " for field '" ++ field ++ "': " ++
      cause.message

/-- A refused cell and its place, or a field whose declared type does not exist. -/
inductive CoercionError where
  | cell (cause : CoercionCause) (place : Place)
  | unknownType (declared : String)
  deriving Repr, DecidableEq

/-- A refused cell as an issue. -/
def CoercionCause.issue (cause : CoercionCause) (place : Place) : Issue :=
  { kind := .coercion, message := cause.message, place }

/-- The value of a field in a data row. -/
def coerceValue (schema sheet : String) (f : Field) (row : DataRow) :
    Except CoercionError Value :=
  let raw := row.raw f.name
  let place : Place := { file := schema, sheet, row := row.number, column := f.column }
  if f.enumeration.isNone && isTextType f.declaredType then .ok (.text raw)
  else
    let text := trim raw
    if text = "" then .error (.cell (.missing f.declaredType f.name) place)
    else match f.enumeration with
      | some e =>
        match e.member? text with
        | some m => .ok (.int m.value)
        | none => .error (.cell (.notMember text e.name e.labels) place)
      | none =>
        match Primitive.ofName? f.declaredType with
        | none => .error (.unknownType f.declaredType)
        | some p =>
          match p.read text with
          | .ok value => .ok value
          | .error cause => .error (.cell (.unreadable text f.declaredType f.name cause) place)

/-- The values of a row under the names of the fields, in field order. -/
def coerceRow (schema sheet : String) (row : DataRow) :
    List Field → Except CoercionError Entries
  | [] => .ok []
  | f :: rest =>
    match coerceValue schema sheet f row with
    | .error e => .error e
    | .ok value => (coerceRow schema sheet row rest).map ((f.name, value) :: ·)

/-- The records of data rows, in order. -/
def coerceRows (schema sheet : String) (fields : List Field) :
    List DataRow → Except CoercionError (List Entries)
  | [] => .ok []
  | row :: rest =>
    match coerceRow schema sheet row fields with
    | .error e => .error e
    | .ok entries => (coerceRows schema sheet fields rest).map (entries :: ·)

/-- The records of a sheet, one for each data row. -/
def buildRecords (d : Description) : Except CoercionError (List Entries) :=
  coerceRows d.schema d.sheet d.fields d.rows

/-- The asset of a sheet with the given records. -/
def sheetAsset (sheet : String) (records : List Entries) : Asset :=
  { name := sheet, recordType := sheet ++ "VO", records }

end TypedSheets

import TypedSheets.Coercion
import TypedSheets.Schema.Interpretation
import TypedSheets.Writing

/-!
# Export of workbooks

Every accepted sheet whose rows coerce becomes an asset; a sheet that fails writes
nothing and stops no other sheet. The outcomes stand in the order of the sheets of
the workbook; a selected name that the workbook lacks has a failed outcome at the
end. Issues are listed as they are found: refused sheets, then sheets that do not
coerce, then missing names.
-/

namespace TypedSheets

open TypedSheets.Emission TypedSheets.Grid TypedSheets.Number TypedSheets.Schema

/-- What became of one sheet. -/
structure SheetOutcome where
  schema : String
  sheet : String
  artifacts : List Written := []
  /-- The number of exported records. -/
  records : Int := 0
  /-- The text of the failure of the sheet. -/
  error : Option String := none
  deriving Repr, DecidableEq

/-- A sheet without failure. -/
def SheetOutcome.succeeded (o : SheetOutcome) : Bool := o.error.isNone

/-- The outcome of a sheet that failed. -/
def SheetOutcome.failed (schema sheet error : String) : SheetOutcome :=
  { schema, sheet, error := some error }

/-- What became of the sheets of a workbook, and the issues with them. -/
structure WorkbookExport where
  sheets : List SheetOutcome := []
  issues : List Issue := []
  deriving Repr, DecidableEq

/-- A refused cell is an issue of its sheet; a type without meaning is not. -/
def CoercionError.failure : CoercionError → Failure
  | .cell cause place => .issue (cause.issue place)
  | .unknownType declared => .unknownType declared

def AssetError.failure : AssetError → Failure
  | .oversized cause => .oversized cause
  | .unrepresentable => .unrepresentable

/-- Writes the asset of a sheet below an asset root; gives the number of its records. -/
def exportSheet (root : Path) (d : Description) : Job (Written × Nat) := do
  let records ← Job.ofExcept CoercionError.failure (buildRecords d)
  let content ← Job.ofExcept AssetError.failure (sheetAsset d.sheet records).text
  let written ← writeArtifact ⟨assetPath root d.schema d.sheet, content⟩
  Job.log .debug ("exported schema=" ++ d.schema ++ " sheet=" ++ d.sheet ++ " records=" ++
    integerText records.length ++ " status=" ++ written.status.name)
  pure (written, records.length)

/-- A sheet outcome with the issue behind it. -/
abbrev Exported := SheetOutcome × Option Issue

/-- The outcome of a sheet that an issue stops. -/
def stoppedBy (schema sheet : String) (i : Issue) : Exported :=
  (.failed schema sheet i.text, some i)

/-- Exports accepted sheets one after another. -/
def exportSheets (root : Path) : List Description → Job (List Exported)
  | [] => pure []
  | d :: rest => do
    let first ← match ← Job.attempt (exportSheet root d) with
      | .ok (written, count) => pure (({ schema := d.schema, sheet := d.sheet,
                                         artifacts := [written], records := count } : SheetOutcome),
          none)
      | .error (.issue i) => pure (stoppedBy d.schema d.sheet i)
      | .error e => throw e
    let others ← exportSheets root rest
    pure (first :: others)

/-- Whether a sheet is selected; without a selection every sheet is. -/
def isSelected (selection : Option (List String)) (sheet : String) : Bool :=
  selection.all (·.contains sheet)

/-- The place of a sheet in the order of outcomes: the last sheet with its name, or behind
all sheets. -/
def sheetRank (names : List String) (sheet : String) : Nat :=
  match names.reverse.idxOf? sheet with
  | some behind => names.length - 1 - behind
  | none => names.length

/-- Exports the sheets of a workbook, or the selected ones. -/
def exportWorkbook (w : Workbook) (root : Path) (selection : Option (List String)) :
    Job WorkbookExport := do
  Job.logAll (interpretationLog w)
  let shapeErrors := (refused w).filter fun e => isSelected selection e.place.sheet
  let stopped := shapeErrors.map fun e => stoppedBy w.name e.place.sheet e.issue
  let exported ← exportSheets root ((accepted w).filter fun d => isSelected selection d.sheet)
  let missing := (selection.getD []).filter fun name => !w.sheetNames.contains name
  let absent := missing.map fun name => stoppedBy w.name name
    (ShapeError.issue { cause := .missingSheet, place := { file := w.name, sheet := name } })
  let all := stopped ++ exported ++ absent
  let rank (e : Exported) : Nat := sheetRank w.sheetNames e.1.sheet
  pure { sheets := (all.mergeSort fun a b => rank a ≤ rank b).map Prod.fst
         issues := all.filterMap Prod.snd }

end TypedSheets

import TypedSheets.AssetFile
import TypedSheets.Container
import TypedSheets.Export
import TypedSheets.SchemaFile

/-!
# Exporters of schema files

A generated exporter is bound to one schema file, an asset root and a container type
for each sheet it knows. It exports these sheets and reads every asset back into its
container type: an asset that does not load turns the outcome of its sheet into a
failure, and nothing else.
-/

namespace TypedSheets

open TypedSheets.Grid

structure SchemaExporter where
  source : Path
  assetRoot : Path
  schema : String
  containers : NamedList ContainerType
  deriving Repr

namespace SchemaExporter

/-- The text of the failure of an asset that its container type does not load. -/
def staleText (t : ContainerType) (e : Failure) : String :=
  "asset does not load into " ++ t.name ++ " (stale generated modules?): " ++ e.message

/-- Reads written assets back into a container type. -/
def readBack (t : ContainerType) : List Written → Job Unit
  | [] => pure ()
  | written :: rest => do
    let payload ← readAsset none written.path.text
    let _ ← Job.ofExcept id (t.fromAsset payload)
    readBack t rest

/-- Checks the outcome of one sheet. -/
def verify (x : SchemaExporter) (o : SheetOutcome) : Job SheetOutcome :=
  match o.error with
  | some text => do
    Job.log .error ("export failed: " ++ text)
    pure o
  | none =>
    match x.containers.lookup o.sheet with
    | none => throw (.unknownType o.sheet)
    | some t => do
      match ← Job.attempt (readBack t o.artifacts) with
      | .ok () => pure o
      | .error e => do
        let text := staleText t e
        Job.log .error ("export verify failed: " ++ x.schema ++ "/" ++ o.sheet ++ ": " ++ text)
        pure { o with error := some text }

/-- Checks outcomes in order. -/
def verifyAll (x : SchemaExporter) : List SheetOutcome → Job (List SheetOutcome)
  | [] => pure []
  | o :: rest => do
    let first ← x.verify o
    let others ← verifyAll x rest
    pure (first :: others)

/-- Exports the sheets that have a container type and checks their assets. -/
def export_ (x : SchemaExporter) : Job WorkbookExport := do
  match ← SchemaFile.read x.source with
  | .error text =>
    throw (.issue { kind := .unreadableFile, message := text, place := { file := x.schema } })
  | .ok workbook => do
    let result ← exportWorkbook workbook x.assetRoot (some (x.containers.map Prod.fst))
    let sheets ← x.verifyAll result.sheets
    pure { result with sheets }

/-- Runs exporters one after another; the first that fails ends the run. -/
def exportAll : List SchemaExporter → Job (List WorkbookExport)
  | [] => pure []
  | x :: rest => do
    Job.log .info ("export start: " ++ x.schema)
    let first ← x.export_
    let others ← exportAll rest
    pure (first :: others)

end SchemaExporter

end TypedSheets

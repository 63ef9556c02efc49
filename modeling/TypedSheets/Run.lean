import TypedSheets.ErrorLog
import TypedSheets.Report
import TypedSheets.SchemaFile

/-!
# Runs

A run walks the schema files of a directory in the order of their names. `generate`
writes the modules, `exportAll` the assets. A file that cannot be read, a sheet that
is refused and a cell that does not coerce are recorded and passed over; what belongs
to a file as a whole, and the registry, is made of the sheets that succeeded. A write
that fails ends its file. The error log is flushed once, at the end.
-/

namespace TypedSheets

open TypedSheets.Emission TypedSheets.Grid TypedSheets.Number TypedSheets.Schema

/-- The time of a run: for records, for the name of the error log, and how long it took. -/
structure Clock where
  timestamp : String
  stamp : String
  elapsed : Double
  deriving Repr

/-- The digits of a text. -/
def digitsOf (text : String) : String := String.ofList (text.toList.filter isAsciiDigit)

/-- The clock of a run that starts at a moment of universal time. -/
def Clock.startingAt (moment : Calendar.DateTime) (elapsed : Double) : Clock :=
  { timestamp := { moment with offset := none }.textWith "T" ++ "Z"
    stamp := digitsOf moment.date.text ++ "-" ++
      digitsOf { moment.time with nanosecond := 0 }.text
    elapsed }

namespace Run

/-- Logs an issue and gives its record. -/
def note (clock : Clock) (file sheet : String) (i : Issue) : Job ErrorRecord := do
  Job.log .error (i.kind.code ++ ": " ++ i.text)
  pure (ErrorRecord.ofIssue clock.timestamp file sheet i)

/-- A file that cannot be opened: its outcome and its record. -/
def unopened (clock : Clock) (p : Path) (sheet text : String) (i : Issue) :
    Job (FileOutcome × List ErrorRecord) := do
  let record ← note clock p.stem sheet i
  pure ({ path := p, status := .failed, error := some text }, [record])

/-- Reads a schema file and checks its name. -/
def openFile (clock : Clock) (p : Path) :
    Job (Except (FileOutcome × List ErrorRecord) Workbook) := do
  match ← SchemaFile.read p with
  | .error text =>
    Except.error <$> unopened clock p "" text
      { kind := .unreadableFile, message := text, place := { file := p.stem } }
  | .ok workbook =>
    match checkSchemaName workbook.name with
    | .error e => Except.error <$> unopened clock p fileLevel e.text e.issue
    | .ok () => pure (.ok workbook)

/-- Logs a write that failed and gives its record. -/
def noteWrite (clock : Clock) (p : Path) (schema : String) (e : Failure) : Job ErrorRecord := do
  Job.log .error ("ARTIFACT_WRITE_ERROR: " ++ p.name ++ ": " ++ e.message)
  pure (ErrorRecord.ofWrite clock.timestamp schema e.message)

/-- What the sheets of a file have come to so far. -/
structure FileWork where
  sheets : List SheetOutcome := []
  records : List ErrorRecord := []
  succeeded : List Description := []

/-- The last element with a property. -/
def lastWith? {α : Type} (test : α → Bool) (all : List α) : Option α := all.reverse.find? test

/-- Points out that modules of a refused sheet are left from an earlier run. -/
def warnIfStale (target : Destination) (schema sheet : String) : Job Unit := do
  if ← Job.ask (·.exists? (target.recordPath schema sheet)) then
    Job.log .warning ("STALE: modules of " ++ schema ++ "/" ++ sheet ++
      " from an earlier run are kept unchanged")

/-- What the interpretation of a workbook says about a sheet. Of several sheets with one name
the last speaks for all, and a refusal counts before a description. -/
def verdict? (workbook : Workbook) (sheet : String) : Option (Except ShapeError Description) :=
  match lastWith? (fun e => e.place.sheet == sheet) (refused workbook) with
  | some e => some (.error e)
  | none => (lastWith? (fun d => d.sheet == sheet) (accepted workbook)).map .ok

/-- Writes the modules of the sheets of a file one after another, and records those that are
refused. Gives the work up to the failure that ends it, if there is one. -/
def generateSheets (clock : Clock) (target : Destination) (schema : String) :
    List (String × Except ShapeError Description) → FileWork → Job (FileWork × Option Failure)
  | [], work => pure (work, none)
  | (sheet, .error e) :: rest, work => do
    let record ← note clock schema sheet e.issue
    let further := { work with
      sheets := work.sheets ++ [.failed schema sheet e.text]
      records := work.records ++ [record] }
    match ← Job.attempt (warnIfStale target schema sheet) with
    | .ok () => generateSheets clock target schema rest further
    | .error failure => pure (further, some failure)
  | (sheet, .ok d) :: rest, work => do
    match ← Job.attempt (writeArtifacts (sheetArtifacts target d)) with
    | .error failure => pure (work, some failure)
    | .ok artifacts =>
      generateSheets clock target schema rest { work with
        sheets := work.sheets ++ [{ schema, sheet, artifacts }]
        succeeded := work.succeeded ++ [d] }

/-- Writes the modules of a file as a whole, when a sheet has succeeded. -/
def generateShared (target : Destination) (p : Path) (workbook : Workbook)
    (succeeded : List Description) : Job (List Written) := do
  if succeeded.isEmpty then pure []
  else
    let declared := (collectEnums workbook).map Prod.snd
    let artifacts ← Job.ofExcept .oversized
      (fileArtifacts target workbook.name p declared succeeded)
    writeArtifacts artifacts

/-- A file whose work a failed write ends. Any other failure ends the run. -/
def aborted (clock : Clock) (p : Path) (schema text : String) (work : FileWork) (e : Failure) :
    Job (FileOutcome × List ErrorRecord) := do
  if e.isSystem then do
    let record ← noteWrite clock p schema e
    pure ({ path := p, status := .failed, sheets := work.sheets,
            error := some (text ++ " write failed: " ++ e.message) }, work.records ++ [record])
  else throw e

/-- What a schema file has come to: its outcome, the records of its issues and the sheets
that the registry takes in. -/
structure FileResult where
  outcome : FileOutcome
  records : List ErrorRecord := []
  entries : List RegistryEntry := []

/-- Writes the modules of one schema file. -/
def generateFile (clock : Clock) (target : Destination) (p : Path) : Job FileResult := do
  match ← openFile clock p with
  | .error (outcome, records) => pure { outcome, records }
  | .ok workbook => do
    Job.logAll (interpretationLog workbook)
    let verdicts := workbook.sheetNames.filterMap fun name =>
      (verdict? workbook name).map fun verdict => (name, verdict)
    let (work, stopped) ← generateSheets clock target workbook.name verdicts {}
    let shared ← match stopped with
      | some e => pure (.error e)
      | none => Job.attempt (generateShared target p workbook work.succeeded)
    match shared with
    | .error e => do
      let (outcome, records) ← aborted clock p workbook.name "artifact" work e
      pure { outcome, records }
    | .ok artifacts =>
      pure { outcome := .ofSheets p work.sheets artifacts
             records := work.records
             entries := work.succeeded.map fun d => ⟨d.schema, d.sheet⟩ }

/-- Records issues in order. -/
def noteAll (clock : Clock) (file : String) : List Issue → Job (List ErrorRecord)
  | [] => pure []
  | i :: rest => do
    let first ← note clock file "" i
    let others ← noteAll clock file rest
    pure (first :: others)

/-- Writes the assets of one schema file. -/
def exportFile (clock : Clock) (root : Path) (p : Path) : Job FileResult := do
  match ← openFile clock p with
  | .error (outcome, records) => pure { outcome, records }
  | .ok workbook => do
    match ← Job.attempt (exportWorkbook workbook root none) with
    | .error e => do
      let (outcome, records) ← aborted clock p workbook.name "asset" {} e
      pure { outcome, records }
    | .ok exported => do
      let records ← noteAll clock workbook.name exported.issues
      pure { outcome := .ofSheets p exported.sheets [], records }

/-- Works on files one after another. -/
def eachFile (work : Path → Job FileResult) : List Path → Job (List FileResult)
  | [] => pure []
  | p :: rest => do
    let first ← work p
    let others ← eachFile work rest
    pure (first :: others)

/-- Writes the error log of a run. A log that cannot be written does not fail the run. -/
def flush (clock : Clock) (directory : Path) (records : List ErrorRecord) : Job Unit := do
  let (_, outcome) ← ErrorLog.flush { directory, pending := records } clock.stamp
  match outcome with
  | .ok none => pure ()
  | .ok (some file) => Job.log .info ("error log: " ++ file.text)
  | .error e =>
    if e.isSystem then Job.log .warning ("failed to write error log: " ++ e.message) else throw e

/-- Writes the registry of all sheets that succeeded, if there are any. -/
def writeRegistry (target : Destination) (entries : List RegistryEntry) : Job (List Written) := do
  if entries.isEmpty then pure []
  else
    let registry := registryArtifact target entries
    match ← Job.attempt (writeArtifact registry) with
    | .ok written => pure [written]
    | .error e =>
      if e.isSystem then
        throw (.processing ("failed to write registry " ++ registry.path.text ++ ": " ++ e.message))
      else throw e

/-- Writes the modules of every schema file of a directory, and the registry. -/
def generate (clock : Clock) (source : Path) (target : Destination) (logs : Path) : Job Report := do
  let paths ← SchemaFile.scanSource source
  Job.log .info ("Generating from " ++ integerText paths.length ++ " schema file(s) in " ++
    source.text)
  let files ← eachFile (generateFile clock target) paths
  let shared ← writeRegistry target (files.flatMap FileResult.entries)
  flush clock logs (files.flatMap FileResult.records)
  pure { files := files.map FileResult.outcome, shared }

/-- Writes the asset of every sheet of every schema file of a directory. -/
def exportAll (clock : Clock) (source asset logs : Path) : Job Report := do
  let paths ← SchemaFile.scanSource source
  Job.log .info ("Exporting " ++ integerText paths.length ++ " schema file(s) from " ++ source.text)
  let files ← eachFile (exportFile clock (asset.child rootDirectory)) paths
  flush clock logs (files.flatMap FileResult.records)
  pure { files := files.map FileResult.outcome }

end Run

end TypedSheets

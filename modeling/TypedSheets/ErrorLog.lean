import TypedSheets.Issue
import TypedSheets.Json.Quoted
import TypedSheets.Workspace

/-!
# Error logs

Every issue of a run becomes a record of seven fields, written as one line in object
notation. Records are kept back until a flush appends them to the file of the run,
which is created with the first record that is written. A flush that fails keeps the
records back.
-/

namespace TypedSheets

open TypedSheets.Number TypedSheets.Text

structure ErrorRecord where
  timestamp : String
  file : String
  sheet : String
  row : Int
  column : Int
  kind : String
  message : String
  deriving Repr, DecidableEq

/-- What stands in the place of a sheet when a whole file is meant. -/
def fileLevel : String := "<FILE_LEVEL>"

/-- What a text falls back to when it is empty. -/
def orElse (text fallback : String) : String := if text = "" then fallback else text

namespace ErrorRecord

/-- The fields with their names, in the order of the line. -/
def fields (r : ErrorRecord) : List (String × String) :=
  [("timestamp", Json.quoted r.timestamp), ("file", Json.quoted r.file),
    ("sheet", Json.quoted r.sheet), ("row", integerText r.row), ("column", integerText r.column),
    ("error_type", Json.quoted r.kind), ("message", Json.quoted r.message)]

/-- The line of a record, without its end. -/
def line (r : ErrorRecord) : String :=
  "\x7b" ++ ", ".intercalate (r.fields.map fun entry => Json.quoted entry.1 ++ ": " ++ entry.2) ++
    "\x7d"

/-- The record of an issue. The place of the issue counts before the given names, and an
issue without message is described by its whole text. -/
def ofIssue (timestamp file sheet : String) (i : Issue) : ErrorRecord :=
  { timestamp
    file := orElse i.place.file file
    sheet := orElse (orElse i.place.sheet sheet) fileLevel
    row := i.place.row
    column := i.place.column
    kind := i.kind.code
    message := orElse i.message i.text }

/-- The record of any other failure. -/
def ofText (timestamp file sheet message : String) : ErrorRecord :=
  { timestamp, file, sheet := orElse sheet fileLevel, row := -1, column := -1,
    kind := "UNEXPECTED_ERROR", message }

/-- The record of an artifact that could not be written. -/
def ofWrite (timestamp file message : String) : ErrorRecord :=
  { timestamp, file, sheet := fileLevel, row := -1, column := -1,
    kind := "ARTIFACT_WRITE_ERROR", message }

end ErrorRecord

structure ErrorLog where
  directory : Path
  /-- The records that are not written yet. -/
  pending : List ErrorRecord := []
  /-- The file of the run, once a flush has named it. -/
  file? : Option Path := none
  deriving Repr

namespace ErrorLog

/-- The directory of a run that names none. -/
def defaultDirectory : Path := Path.ofText "./logs"

/-- With a further record. -/
def append (log : ErrorLog) (r : ErrorRecord) : ErrorLog :=
  { log with pending := log.pending ++ [r] }

/-- The file of a log, named by the time of its first flush. -/
def path (log : ErrorLog) (stamp : String) : Path :=
  log.file?.getD (log.directory.child ("errors-" ++ stamp ++ ".log"))

/-- The text of records, a line each. -/
def text (records : List ErrorRecord) : String :=
  String.join (records.map fun r => r.line ++ "\n")

/-- Appends the pending records to the file. Gives the log as it is afterwards, and the
file if anything was written, or the failure that kept the records back. -/
def flush (log : ErrorLog) (stamp : String) : Job (ErrorLog × Except Failure (Option Path)) := do
  if log.pending.isEmpty then pure (log, .ok none)
  else
    let file := log.path stamp
    let named := { log with file? := some file }
    let write : Job Unit := do
      Job.makeDirectories file.parent
      Job.change (·.append file (encodeUtf8 (text log.pending)))
    match ← Job.attempt write with
    | .ok () => pure ({ named with pending := [] }, .ok (some file))
    | .error e => pure (named, .error e)

end ErrorLog

end TypedSheets

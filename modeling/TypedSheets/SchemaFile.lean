import TypedSheets.Archive
import TypedSheets.Grid
import TypedSheets.Workspace

/-!
# Schema files

A schema file is a workbook of a spreadsheet program in the source directory. Reading
one gives the grid of every sheet, or a text that says why the file cannot be read:
such a failure never goes further than the file. The files of a directory are taken
in the order of their names; the locks that spreadsheet programs keep beside open
files are passed over.
-/

namespace TypedSheets.SchemaFile

open TypedSheets.Grid TypedSheets.Number TypedSheets.Text

/-- Why the content of a file is no workbook. -/
inductive ContentError where
  | archive (fault : Archive.Fault)
  /-- An archive that holds no workbook. -/
  | noWorkbook
  | cell (cause : OversizedInteger)
  deriving Repr, DecidableEq

/-- The kind and the wording of an unreadable content. -/
def ContentError.message : ContentError → String
  | .archive fault => fault.message
  | .noWorkbook =>
    "KeyError: \"There is no item named '[Content_Types].xml' in the archive\""
  | .cell cause => "ValueError: " ++ cause.message

/-- The grid of a decoded sheet. -/
def gridOf (s : TypedSheet) : Except OversizedInteger Sheet := do
  let rows ← s.rows.mapM fun row => row.mapM Value.gridText
  pure (Sheet.ofRows s.name rows)

/-- The sheets that a content holds. -/
def decode : FileContent → Except ContentError (List Sheet)
  | .workbook sheets => (sheets.mapM gridOf).mapError .cell
  | .bytes data =>
    match Archive.check data with
    | .ok () => .error .noWorkbook
    | .error fault => .error (.archive fault)

/-- Reads a schema file: its workbook, or the text of the reason why it cannot be read. -/
def read (p : Path) : Job (Except String Workbook) := do
  if ← Job.ask (·.exists? p) then
    let refused (reason : String) := Except.error ("failed to read " ++ p.name ++ ": " ++ reason)
    match ← Job.attempt (Job.ask (·.read p)) with
    | .error (.file (.system .isDirectory path)) =>
      pure (refused (FileFault.isDirectory.kindName ++ ": " ++
        (FileError.system .isDirectory path).message))
    | .error e => throw e
    | .ok content =>
      match decode content with
      | .error cause => pure (refused cause.message)
      | .ok sheets => pure (.ok { name := p.stem, sheets })
  else pure (.error ("schema file not found: " ++ p.text))

/-- The suffix of schema files, and what the names of lock files start with. -/
def suffix : String := ".xlsx"
def lockMark : List Char := ['~', '$']

/-- Whether a file with this name is a schema file. -/
def isName (name : String) : Bool :=
  (Path.splitName name).2 == suffix && !lockMark.isPrefixOf name.toList

/-- The schema files directly below a directory, by name. Whether an entry is a file is asked of
all entries, whatever they are called. -/
def scan (directory : Path) : Job (List Path) := do
  let names ← Job.ask (·.names directory)
  let files ← Job.ask fun t => names.filterM fun name => t.isFile? (directory.child name)
  pure (((files.filter isName).mergeSort fun a b => a ≤ b).map directory.child)

/-- The schema files of the source directory of a run, which must be a directory. -/
def scanSource (directory : Path) : Job (List Path) := do
  if !(← Job.ask (·.exists? directory)) then
    throw (.processing ("Directory not found: " ++ directory.text))
  else if !(← Job.ask (·.isDir? directory)) then
    throw (.processing ("Path is not a directory: " ++ directory.text))
  else
    match ← Job.attempt (scan directory) with
    | .ok paths => pure paths
    | .error e =>
      if e.isSystem then
        throw (.processing ("Error reading directory " ++ directory.text ++ ": " ++ e.message))
      else throw e

end TypedSheets.SchemaFile

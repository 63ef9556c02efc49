import TypedSheets.Export
import TypedSheets.Number.DecimalText

/-!
# Reports

What a run comes to: an outcome for each schema file, the counts over all of them, and
the line that sums them up. A file fails when it cannot be read or when one of its
sheets fails.
-/

namespace TypedSheets

open TypedSheets.Number TypedSheets.Text

inductive FileStatus where
  | pending
  | processing
  | success
  | failed
  deriving Repr, DecidableEq

def FileStatus.name : FileStatus → String
  | .pending => "pending"
  | .processing => "processing"
  | .success => "success"
  | .failed => "failed"

/-- What became of one schema file. -/
structure FileOutcome where
  path : Path
  status : FileStatus
  sheets : List SheetOutcome := []
  /-- The artifacts that belong to the file as a whole. -/
  artifacts : List Written := []
  error : Option String := none
  deriving Repr, DecidableEq

namespace FileOutcome

def failedSheets (f : FileOutcome) : Nat := f.sheets.countP fun s => !s.succeeded

def records (f : FileOutcome) : Int := f.sheets.foldl (fun total s => total + s.records) 0

/-- The artifacts of the file, then those of its sheets. -/
def allArtifacts (f : FileOutcome) : List Written :=
  f.artifacts ++ f.sheets.flatMap SheetOutcome.artifacts

/-- The outcome of a file whose sheets are all seen to. -/
def ofSheets (path : Path) (sheets : List SheetOutcome) (artifacts : List Written) : FileOutcome :=
  let failed := sheets.countP fun s => !s.succeeded
  { path, sheets, artifacts
    status := if failed = 0 then .success else .failed
    error := if failed = 0 then none else some (integerText failed ++ " sheet(s) failed") }

end FileOutcome

/-- The number of artifacts with a status. -/
def countStatus (status : WriteStatus) (artifacts : List Written) : Nat :=
  artifacts.countP fun a => a.status == status

/-- The counts of a run. -/
structure Tally where
  successFiles : Int
  failedFiles : Int
  failedSheets : Int
  generated : Int
  updated : Int
  skipped : Int
  records : Int
  deriving Repr, DecidableEq

namespace Tally

def totalFiles (t : Tally) : Int := t.successFiles + t.failedFiles

def hasFailures (t : Tally) : Bool := 0 < t.failedFiles || 0 < t.failedSheets

end Tally

structure Report where
  files : List FileOutcome
  /-- The artifacts that belong to no single file. -/
  shared : List Written := []
  deriving Repr, DecidableEq

namespace Report

/-- All artifacts: those of the files in order, then the shared ones. -/
def artifacts (r : Report) : List Written := r.files.flatMap FileOutcome.allArtifacts ++ r.shared

def tally (r : Report) : Tally :=
  { successFiles := r.files.countP fun f => f.status == .success
    failedFiles := r.files.countP fun f => f.status == .failed
    failedSheets := (r.files.foldl (fun total f => total + f.failedSheets) 0 : Nat)
    generated := countStatus .generated r.artifacts
    updated := countStatus .updated r.artifacts
    skipped := countStatus .skipped r.artifacts
    records := r.files.foldl (fun total f => total + f.records) 0 }

end Report

/-- A duration that is no number of seconds. -/
inductive DurationError where
  | infinite
  | notANumber
  deriving Repr, DecidableEq

def DurationError.message : DurationError → String
  | .infinite => "cannot convert float infinity to integer"
  | .notANumber => "cannot convert float NaN to integer"

/-- Without the zeros at the end, and without the point that then stands there. -/
def dropTrailingZeros (cs : List Char) : List Char := dropTrailing '.' (dropTrailing '0' cs)

/-- A duration in seconds: an integer if it is one, six places below a hundredth of a second
and three places otherwise, without zeros at the end. -/
def durationText (seconds : Double) : Except DurationError String :=
  match seconds with
  | .nan => .error .notANumber
  | .infinite _ => .error .infinite
  | .finite .. =>
    if seconds.isIntegral then .ok ((seconds.truncate?.map integerText).getD "")
    else
      let hundredth := Double.ofRatio false 1 100
      let places := if seconds.compare? hundredth == some .lt then 6 else 3
      .ok (String.ofList (dropTrailingZeros (fixedChars places seconds)))

/-- The line that sums up a run, behind its label. -/
def Tally.summary (t : Tally) (elapsed : String) : String :=
  let files := integerText t.totalFiles
  "files=" ++ files ++ "/" ++ files ++ " success=" ++ integerText t.successFiles ++
    " failed=" ++ integerText t.failedFiles ++ " sheets_failed=" ++ integerText t.failedSheets ++
    " generated=" ++ integerText t.generated ++ " updated=" ++ integerText t.updated ++
    " skipped=" ++ integerText t.skipped ++ " records=" ++ integerText t.records ++
    " elapsed_sec=" ++ elapsed

end TypedSheets

import TypedSheets.Emission.Modules
import TypedSheets.Workspace

/-!
# Writing artifacts

A target that already holds the content is left alone; any other target is written
as a whole, with the directories above it. The status tells which of the three cases
it was, and the log line of it comes before the write.
-/

namespace TypedSheets

open TypedSheets.Emission TypedSheets.Text

inductive WriteStatus where
  /-- There was no file. -/
  | generated
  /-- There was a file with other content. -/
  | updated
  /-- There was a file with the same content. -/
  | skipped
  deriving Repr, DecidableEq

def WriteStatus.name : WriteStatus → String
  | .generated => "generated"
  | .updated => "updated"
  | .skipped => "skipped"

/-- An artifact that a run has seen to, and what became of it. -/
structure Written where
  path : Path
  status : WriteStatus
  deriving Repr, DecidableEq

/-- What writing bytes to a path amounts to. -/
def writeStatus (t : FileTree) (p : Path) (data : List UInt8) : Except FileError WriteStatus := do
  if ← t.exists? p then
    let old ← t.read p
    pure (if old.holds data then .skipped else .updated)
  else pure .generated

/-- The log line of a status. -/
def WriteStatus.line (status : WriteStatus) (p : Path) : LogLine :=
  match status with
  | .generated => ⟨.info, "GENERATE: " ++ p.text⟩
  | .updated => ⟨.info, "UPDATE: " ++ p.text⟩
  | .skipped => ⟨.debug, "SKIP: " ++ p.text⟩

/-- Sees to it that a path holds the encoding of a text. -/
def writeArtifact (a : Artifact) : Job Written := do
  let data := encodeUtf8 a.content
  let status ← Job.ask (writeStatus · a.path data)
  Job.logAll [status.line a.path]
  if status ≠ .skipped then
    Job.makeDirectories a.path.parent
    Job.change (·.write a.path (.bytes data))
  pure { path := a.path, status }

/-- Writes artifacts one after another. -/
def writeArtifacts : List Artifact → Job (List Written)
  | [] => pure []
  | a :: rest => do
    let first ← writeArtifact a
    let others ← writeArtifacts rest
    pure (first :: others)

end TypedSheets

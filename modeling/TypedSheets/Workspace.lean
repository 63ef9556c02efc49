import TypedSheets.Failure
import TypedSheets.Log

/-!
# Workspaces

A workspace is what a run works on: the files, and the console that collects log lines
and printed texts in order. A `Job` changes a workspace and ends with a result or a
failure; what it did before a failure stays.
-/

namespace TypedSheets

/-- One entry of the console. -/
inductive Output where
  | line (l : LogLine)
  | printed (text : String)
  deriving Repr, DecidableEq

structure Workspace where
  files : FileTree := {}
  console : List Output := []
  deriving Repr

/-- A change of a workspace that may fail. -/
abbrev Job (α : Type) : Type := ExceptT Failure (StateM Workspace) α

namespace Workspace

/-- With a further entry on the console. -/
def emit (w : Workspace) (o : Output) : Workspace := { w with console := w.console ++ [o] }

/-- The log lines on the console. -/
def log (w : Workspace) : List LogLine :=
  w.console.filterMap fun
    | .line l => some l
    | .printed _ => none

end Workspace

namespace Job

/-- Writes a log line. -/
def log (severity : Severity) (text : String) : Job Unit :=
  modify fun w => w.emit (.line ⟨severity, text⟩)

/-- Writes log lines. -/
def logAll (lines : List LogLine) : Job Unit :=
  modify fun w => { w with console := w.console ++ lines.map .line }

/-- Prints a text. -/
def print (text : String) : Job Unit := modify fun w => w.emit (.printed text)

/-- A question about the files. -/
def ask {α : Type} (question : FileTree → Except FileError α) : Job α := do
  match question (← get).files with
  | .ok answer => pure answer
  | .error e => throw (.file e)

/-- A change of the files that does nothing when it fails. -/
def change (edit : FileTree → Except FileError FileTree) : Job Unit := do
  let files ← ask edit
  modify fun w => { w with files }

/-- Makes a directory and those above it. -/
def makeDirectories (p : Path) : Job Unit := do
  let (outcome, files) := FileTree.makeDirectories (p.parts.length + 1) p (← get).files
  modify fun w => { w with files }
  match outcome with
  | .ok () => pure ()
  | .error e => throw (.file e)

/-- The result of a job, or its failure. -/
def attempt {α : Type} (job : Job α) : Job (Except Failure α) :=
  fun w =>
    match job w with
    | (outcome, after) => (.ok outcome, after)

/-- A result that may be an error of another type. -/
def ofExcept {ε α : Type} (wrap : ε → Failure) : Except ε α → Job α
  | .ok a => pure a
  | .error e => throw (wrap e)

end Job

end TypedSheets

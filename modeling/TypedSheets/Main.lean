import Std.Time.DateTime.Timestamp
import TypedSheets.CommandLine

/-!
# The program

Reads the files below the working directory, carries out the command line on them, writes
back what has changed and prints the console. Everything in between is decided by
`CommandLine.run`. Spreadsheet archives are read as plain bytes, so they count as files
that cannot be decoded.
-/

namespace TypedSheets.Program

open TypedSheets.Calendar TypedSheets.Text

/-- The path of a location below the working directory. -/
def pathText (at_ : Location) : String := "/".intercalate ("." :: at_)

/-- The files and directories below a location. What cannot be read is left out. -/
partial def readEntries (at_ : Location) : IO (List (Location × FileEntry)) := do
  let directory := (← IO.currentDir) / pathText at_
  let found ← try directory.readDir catch _ => pure #[]
  let parts ← found.toList.mapM fun entry => do
    let here := at_ ++ [entry.fileName]
    try
      if ← entry.path.isDir then
        pure ((here, FileEntry.directory) :: (← readEntries here))
      else
        let data ← IO.FS.readBinFile entry.path
        pure [(here, FileEntry.file (.bytes data.toList))]
    catch _ => pure []
  pure parts.flatten

/-- Writes the entries that a run has made or changed. -/
def writeEntries (before after : FileTree) : IO Unit := do
  for (at_, entry) in after.entries do
    match entry, before.entries.lookup at_ with
    | .file (.bytes data), some (.file old) =>
      if !old.holds data then IO.FS.writeBinFile (pathText at_) data.toByteArray
    | .file (.bytes data), _ => IO.FS.writeBinFile (pathText at_) data.toByteArray
    | .directory, none => IO.FS.createDirAll (pathText at_)
    | _, _ => pure ()

/-- The names that an environment file refers to. -/
def references (text : String) : List String :=
  ((text.splitOn "$\x7b").drop 1).map fun piece =>
    String.ofList (piece.toList.takeWhile fun c => c != '\x7d' && c != ':')

/-- The variables of the environment that a run can ask for. -/
def readEnvironment (files : FileTree) : IO (List (String × String)) := do
  let text := match files.read (Path.ofText ".env") with
    | .ok content => (content.text.toOption).getD ""
    | .error _ => ""
  let names := CommandLine.settingsVariable :: references text
  let found ← names.mapM fun name => do
    pure ((← IO.getEnv name).map fun value => (name, value))
  pure (found.filterMap id)

/-- The seconds that have passed since a moment in milliseconds. -/
def secondsSince (start : Nat) : IO Number.Double := do
  let now ← IO.monoMsNow
  pure (Number.Double.ofRatio false (now - start) 1000)

/-- The clock of a run that starts now, after some time spent on reading. -/
def readClock (start : Nat) : IO Clock := do
  let now ← Std.Time.Timestamp.now
  let seconds := now.toSecondsSinceUnixEpoch.val.toNat
  let nanosecond := (now.toNanosecondsSinceUnixEpoch.val % 1000000000).toNat
  pure (.startingAt (.sinceEpoch seconds (nanosecond / 1000 * 1000)) (← secondsSince start))

/-- How the program is called. -/
def usage : String :=
  "usage: generate | export | inspect  [--config FILE] [--source DIR] [--code-dest DIR]" ++
    " [--asset-dest DIR] [--project-code NAME] [--debug]"

/-- Carries out the arguments and gives the exit code. -/
def perform (arguments : List String) : IO UInt32 := do
  let start ← IO.monoMsNow
  let before : FileTree := { entries := ← readEntries [] }
  let environment ← readEnvironment before
  let clock ← readClock start
  let job := CommandLine.run clock environment arguments
  let (outcome, after) := Id.run (StateT.run (ExceptT.run job) { files := before })
  if (CommandLine.parse arguments).toOption.isNone then IO.eprintln usage
  writeEntries before after.files
  IO.print (CommandLine.consoleText (CommandLine.threshold arguments) after.console)
  match outcome with
  | .ok code => pure code.toNat.toUInt32
  | .error e => do
    IO.eprintln e.message
    pure 1

end TypedSheets.Program

/-- Runs the program. -/
def main (arguments : List String) : IO UInt32 := TypedSheets.Program.perform arguments

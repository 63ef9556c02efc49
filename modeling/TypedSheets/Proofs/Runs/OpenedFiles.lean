import TypedSheets.Proofs.Runs.RenderedRuns
import TypedSheets.Proofs.Runs.Verdicts
import TypedSheets.Run

/-!
# Opening schema files

Opening a schema file only asks about the files: it gives the workbook of a file that can be read and
is validly named, and otherwise the text and the issue that say why not, whatever the time is.

The work on a file that is opened goes through its sheets one after another, and finishes with what
belongs to the file as a whole. The outcome of each sheet is looked up under its name, so a name that
sheets share stands for the last of them.
-/

namespace TypedSheets.Run

open TypedSheets.Emission TypedSheets.Grid TypedSheets.Schema TypedSheets.Text

/-- Why a file cannot be opened. -/
structure Unopened where
  /-- What the record names as the sheet. -/
  sheet : String
  text : String
  issue : Issue

/-- What opening a file of a tree comes to. -/
def opening (t : FileTree) (p : Path) : Except Failure (Except Unopened Workbook) :=
  match SchemaFile.reading t p with
  | .error e => .error e
  | .ok (.error text) =>
    .ok (.error ⟨"", text, { kind := .unreadableFile, message := text, place := { file := p.stem } }⟩)
  | .ok (.ok workbook) =>
    match checkSchemaName workbook.name with
    | .error e => .ok (.error ⟨fileLevel, e.text, e.issue⟩)
    | .ok () => .ok (.ok workbook)

/-- The outcome of a file that cannot be opened. -/
def Unopened.outcome (p : Path) (u : Unopened) : FileOutcome :=
  { path := p, status := .failed, error := some u.text }

theorem run_openFile (clock : Clock) (p : Path) (w : Workspace) :
    openFile clock p w = match opening w.files p with
      | .error e => (.error e, w)
      | .ok (.error u) =>
        (.ok (.error (u.outcome p, [.ofIssue clock.timestamp p.stem u.sheet u.issue])),
          w.emit (.line ⟨.error, u.issue.kind.code ++ ": " ++ u.issue.text⟩))
      | .ok (.ok workbook) => (.ok (.ok workbook), w) := by
  unfold openFile opening
  rw [Job.run_bind, SchemaFile.run_read]
  cases SchemaFile.reading w.files p with
  | error e => rfl
  | ok read => cases read with
    | error text => rfl
    | ok workbook =>
      dsimp only
      cases checkSchemaName workbook.name <;> rfl

/-- A file that is opened has a workbook with an identifier for a name, and conversely. -/
theorem workbookAt?_eq_some {t : FileTree} {p : Path} {workbook : Workbook} :
    workbookAt? t p = some workbook ↔ opening t p = .ok (.ok workbook) := by
  unfold workbookAt? opening
  cases SchemaFile.reading t p with
  | error e => simp
  | ok read => cases read with
    | error text => simp
    | ok own =>
      dsimp only [checkSchemaName]
      by_cases identifier : isIdentifier own.name = true
      · rw [if_pos identifier, if_pos identifier]
        simp
      · rw [if_neg identifier, if_neg identifier]
        simp

theorem workbookAt?_eq_none {t : FileTree} {p : Path} {u : Unopened}
    (opened : opening t p = .ok (.error u)) : workbookAt? t p = none := by
  cases found : workbookAt? t p with
  | none => rfl
  | some workbook =>
    rw [workbookAt?_eq_some, opened] at found
    cases found

/-- Opening depends on nothing but what is read. -/
theorem opening_congr {t u : FileTree} {p : Path}
    (same : SchemaFile.reading u p = SchemaFile.reading t p) : opening u p = opening t p := by
  rw [opening, opening, same]

/-- A workbook that was opened has an identifier for a name: the stem of its file. -/
theorem named_of_workbookAt? {t : FileTree} {p : Path} {workbook : Workbook}
    (found : workbookAt? t p = some workbook) :
    isIdentifier workbook.name = true ∧ workbook.name = p.stem := by
  unfold workbookAt? at found
  split at found
  · next own read =>
    split_ifs at found with identifier
    cases found
    exact ⟨identifier, SchemaFile.name_of_reading read⟩
  · cases found

/-- What a run looks up for the sheets of a workbook, in their order. -/
def lookups (workbook : Workbook) : List (String × Except ShapeError Description) :=
  workbook.sheetNames.filterMap fun name =>
    (verdict? workbook name).map fun verdict => (name, verdict)

/-- Whatever is looked up as accepted is accepted. -/
theorem accepted_of_lookups {workbook : Workbook} {d : Description}
    (found : d ∈ described (lookups workbook)) : d ∈ accepted workbook := by
  obtain ⟨⟨name, verdict⟩, listed, own⟩ := List.mem_filterMap.mp found
  obtain ⟨asked, -, looked⟩ := List.mem_filterMap.mp listed
  obtain ⟨_, spoken, same⟩ := Option.map_eq_some_iff.mp looked
  cases same
  cases verdict with
  | error e => cases own
  | ok other =>
    cases own
    unfold verdict? at spoken
    split at spoken
    · cases spoken
    · obtain ⟨e, last, same⟩ := Option.map_eq_some_iff.mp spoken
      cases same
      exact List.mem_reverse.mp (List.mem_of_find?_eq_some last)

/-- The end of the work on a file, when its sheets have been worked on: the modules of the file as a
whole, unless a failure has stopped the work. -/
def finishFile (clock : Clock) (target : Destination) (p : Path) (workbook : Workbook)
    (done : FileWork × Option Failure) : Job FileResult := do
  let shared ← match done.2 with
    | some e => pure (.error e)
    | none => Job.attempt (generateShared target p workbook done.1.succeeded)
  match shared with
  | .error e => do
    let (outcome, records) ← aborted clock p workbook.name "artifact" done.1 e
    pure { outcome, records }
  | .ok artifacts =>
    pure { outcome := .ofSheets p done.1.sheets artifacts
           records := done.1.records
           entries := done.1.succeeded.map fun d => ⟨d.schema, d.sheet⟩ }

/-- The work on the sheets of a workbook and on the file as a whole. -/
def workOn (clock : Clock) (target : Destination) (p : Path) (workbook : Workbook) : Job FileResult := do
  let done ← generateSheets clock target workbook.name (lookups workbook) {}
  finishFile clock target p workbook done

/-- The work on a file that is opened: its interpretation is logged, and its sheets are worked on. -/
theorem run_generateFile_of_opening {clock : Clock} {target : Destination} {p : Path} {workbook : Workbook}
    {w : Workspace} (opens : opening w.files p = .ok (.ok workbook)) :
    generateFile clock target p w =
      workOn clock target p workbook
        { w with console := w.console ++ (interpretationLog workbook).map .line } := by
  rw [generateFile, Job.run_bind, run_openFile, opens]
  rfl

end TypedSheets.Run

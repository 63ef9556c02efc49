import TypedSheets.Proofs.Runs.HeldArtifacts
import TypedSheets.Proofs.Runs.OpenedFiles
import TypedSheets.Proofs.Runs.Verdicts

/-!
# Files that are seen to the end

A file whose work no failed write ends leaves exactly the modules that are rendered from it. What is
refused on the way is recorded and writes nothing.
-/

namespace TypedSheets

/-- The work on a file was ended by a write that failed. -/
def FileOutcome.WriteFailed (f : FileOutcome) : Prop :=
  ∃ reason, f.error = some ("artifact write failed: " ++ reason)

/-- The work on a file was ended by an asset that could not be written. -/
def FileOutcome.AssetFailed (f : FileOutcome) : Prop :=
  ∃ reason, f.error = some ("asset write failed: " ++ reason)

namespace Run

open TypedSheets.Emission TypedSheets.Grid TypedSheets.Schema TypedSheets.Text FileTree

variable {clock : Clock} {target : Destination} {before after : Workspace}

theorem run_note (clock : Clock) (file sheet : String) (i : Issue) (w : Workspace) :
    note clock file sheet i w = (.ok (.ofIssue clock.timestamp file sheet i),
      w.emit (.line ⟨.error, i.kind.code ++ ": " ++ i.text⟩)) := rfl

theorem keepsFiles_note (clock : Clock) (file sheet : String) (i : Issue) :
    Job.KeepsFiles (note clock file sheet i) :=
  (Job.keepsFiles_log _ _).bind fun _ => Job.keepsFiles_pure _

theorem keepsFiles_warnIfStale (target : Destination) (schema sheet : String) :
    Job.KeepsFiles (warnIfStale target schema sheet) := by
  unfold warnIfStale
  apply (Job.isQuestion_ask _).keepsFiles.bind
  intro there
  split
  · exact Job.keepsFiles_log _ _
  · exact Job.keepsFiles_pure _

/-- Artifacts that are all seen to stand. -/
theorem leaves_of_writeArtifacts {artifacts : List Artifact} {written : List Written}
    (products : ∀ a ∈ artifacts, IsProduct a.path)
    (ran : writeArtifacts artifacts before = (.ok written, after)) :
    Leaves artifacts before.files after.files := by
  induction artifacts generalizing before written with
  | nil =>
    cases ran
    exact .refl _
  | cons a rest inductionHypothesis =>
    obtain ⟨first, middle, own, further⟩ := Job.bind_ok ran
    obtain ⟨others, last, later, ended⟩ := Job.bind_ok further
    cases ended
    have early := leaves_of_written (products a List.mem_cons_self) own
    have late := inductionHypothesis (fun b member => products b (List.mem_cons_of_mem a member)) later
    exact early.trans late

/-- Sheets that are seen to the end leave the modules of those that are accepted. -/
theorem leaves_of_generateSheets {schema : String}
    {outcomes : List (String × Except ShapeError Description)} {work done : FileWork}
    (products : ∀ d ∈ described outcomes, ∀ a ∈ sheetArtifacts target d, IsProduct a.path)
    (ran : generateSheets clock target schema outcomes work before = (.ok (done, none), after)) :
    Leaves ((described outcomes).flatMap (sheetArtifacts target)) before.files after.files ∧
      done.succeeded = work.succeeded ++ described outcomes := by
  induction outcomes generalizing work before with
  | nil =>
    cases ran
    exact ⟨.refl _, (List.append_nil _).symm⟩
  | cons outcome rest inductionHypothesis =>
    obtain ⟨sheet, verdict⟩ := outcome
    cases verdict with
    | error e =>
      obtain ⟨record, noted, notes, further⟩ := Job.bind_ok ran
      obtain ⟨stale, warned, warning, further⟩ := Job.bind_ok further
      have same := (keepsFiles_note clock schema sheet e.issue).eq notes
      have sameWarned := (keepsFiles_warnIfStale target schema sheet).attempt.eq warning
      cases stale with
      | error failure => cases further
      | ok _ =>
        obtain ⟨leaves, succeeded⟩ := inductionHypothesis products further
        rw [sameWarned, same] at leaves
        exact ⟨leaves, succeeded⟩
    | ok d =>
      obtain ⟨attempted, middle, attempt, further⟩ := Job.bind_ok ran
      rw [Job.run_attempt] at attempt
      cases wrote : writeArtifacts (sheetArtifacts target d) before with
      | mk result written =>
        rw [wrote] at attempt
        cases attempt
        cases result with
        | error failure => cases further
        | ok artifacts =>
          have first := leaves_of_writeArtifacts (products d List.mem_cons_self) wrote
          obtain ⟨leaves, succeeded⟩ := inductionHypothesis
            (fun other member => products other (List.mem_cons_of_mem d member)) further
          refine ⟨first.trans leaves, ?_⟩
          rw [succeeded, List.append_assoc]
          rfl

/-- The modules of a file as a whole. -/
theorem leaves_of_generateShared {p : Path} {workbook : Workbook} {descriptions : List Description}
    {written : List Written} (identifier : isIdentifier workbook.name = true)
    (split : IsSplit target.codeRoot)
    (ran : generateShared target p workbook descriptions before = (.ok written, after)) :
    if descriptions.isEmpty then after.files = before.files
    else ∃ shared, fileArtifacts target workbook.name p ((collectEnums workbook).map Prod.snd)
      descriptions = .ok shared ∧ Leaves shared before.files after.files := by
  unfold generateShared at ran
  split at ran
  · next empty =>
    cases ran
    rw [if_pos empty]
  · next some =>
    rw [if_neg some]
    obtain ⟨shared, middle, rendered, writes⟩ := Job.bind_ok ran
    obtain ⟨known, rfl⟩ := Job.ofExcept_ok rendered
    exact ⟨shared, known,
      leaves_of_writeArtifacts (isProduct_fileArtifacts split identifier known) writes⟩

/-- The outcome of a file whose work ended early says that a write failed. -/
theorem writeFailed_of_aborted {p : Path} {schema : String} {work : FileWork} {e : Failure}
    {outcome : FileOutcome} {records : List ErrorRecord}
    (ran : aborted clock p schema "artifact" work e before = (.ok (outcome, records), after)) :
    outcome.WriteFailed := by
  unfold aborted at ran
  split at ran
  · obtain ⟨record, _, -, ended⟩ := Job.bind_ok ran
    cases ended
    refine ⟨e.message, ?_⟩
    rw [show "artifact write failed: " = "artifact" ++ " write failed: " by decide]
  · cases ran

/-- A first sheet that is refused under a name too long to be looked up ends the work on its file, and
the sheets behind it are not seen to. -/
theorem generateFile_of_unasked {p : Path} {workbook : Workbook} {sheet : Sheet} {rest : List Sheet}
    {e : ShapeError} {fault : FileFault} {at_ : Path}
    (opened : workbookAt? before.files p = some workbook) (distinct : workbook.sheetNames.Nodup)
    (sheets : workbook.sheets = sheet :: rest)
    (refused : interpretIn workbook.name (collectEnums workbook) sheet = .error e)
    (unasked : before.files.exists? (target.recordPath workbook.name sheet.name) =
      .error (.system fault at_)) :
    ∃ result after, generateFile clock target p before = (.ok result, after) ∧
      after.files = before.files ∧ result.outcome.WriteFailed ∧ result.entries = [] := by
  have first : verdicts workbook = (sheet.name, .error e) ::
      rest.map fun s => (s.name, interpretIn workbook.name (collectEnums workbook) s) := by
    rw [verdicts, sheets, List.map_cons, refused]
  have stops (w : Workspace) (files : w.files = before.files) :
      warnIfStale target workbook.name sheet.name w = (.error (.file (.system fault at_)), w) := by
    rw [warnIfStale, Job.run_bind, Job.run_ask, files, unasked]
  obtain ⟨work, middle, ended, files⟩ : ∃ work middle, generateSheets clock target workbook.name
      (verdicts workbook) {}
      { before with console := before.console ++ (interpretationLog workbook).map Output.line } =
        (.ok (work, some (.file (.system fault at_))), middle) ∧ middle.files = before.files := by
    rw [first, generateSheets, Job.run_bind, run_note]
    dsimp only
    rw [Job.run_bind, Job.run_attempt, stops]
    · exact ⟨_, _, rfl, rfl⟩
    · rfl
  obtain ⟨outcome, records, after, aborts, same⟩ : ∃ outcome records after,
      aborted clock p workbook.name "artifact" work (.file (.system fault at_)) middle =
        (.ok (outcome, records), after) ∧ after.files = middle.files := by
    have system : (Failure.file (.system fault at_)).isSystem = true := rfl
    rw [aborted, if_pos system]
    exact ⟨_, _, _, rfl, rfl⟩
  refine ⟨{ outcome, records }, after, ?_, same.trans files, writeFailed_of_aborted aborts, rfl⟩
  unfold generateFile
  rw [Job.run_bind, run_openFile, workbookAt?_eq_some.mp opened]
  dsimp only
  rw [Job.run_bind, Job.run_logAll]
  dsimp only
  rw [verdicts_eq distinct, Job.run_bind, ended]
  dsimp only
  rw [Job.run_bind, Job.run_pure]
  dsimp only
  rw [Job.run_bind, aborts]
  rfl

/-- What is rendered from a file: nothing when it cannot be opened. -/
def renderAt (target : Destination) (p : Path) : Option Workbook →
    Except Number.OversizedInteger (List Artifact)
  | none => .ok []
  | some w => renderFile target p w

/-- The ways in which the work on a schema file comes to an end. -/
inductive EndsWith (clock : Clock) (target : Destination) (p : Path) (before after : Workspace) :
    FileResult → Prop
  /-- The file cannot be opened. -/
  | unopened (u : Unopened) (opens : opening before.files p = .ok (.error u))
      (same : after.files = before.files) :
      EndsWith clock target p before after
        { outcome := u.outcome p, records := [.ofIssue clock.timestamp p.stem u.sheet u.issue] }
  /-- A failure stops the work on its sheets. -/
  | stopped (w : Workbook) (logged middle : Workspace) (work : FileWork) (e : Failure)
      (outcome : FileOutcome) (records : List ErrorRecord) (opens : opening before.files p = .ok (.ok w))
      (same : logged.files = before.files)
      (sheets : generateSheets clock target w.name (verdicts w) {} logged = (.ok (work, some e), middle))
      (aborts : aborted clock p w.name "artifact" work e middle = (.ok (outcome, records), after)) :
      EndsWith clock target p before after { outcome, records }
  /-- The modules of the file as a whole cannot be written. -/
  | givenUp (w : Workbook) (logged middle last : Workspace) (work : FileWork) (e : Failure)
      (outcome : FileOutcome) (records : List ErrorRecord) (opens : opening before.files p = .ok (.ok w))
      (same : logged.files = before.files)
      (sheets : generateSheets clock target w.name (verdicts w) {} logged = (.ok (work, none), middle))
      (shared : generateShared target p w work.succeeded middle = (.error e, last))
      (aborts : aborted clock p w.name "artifact" work e last = (.ok (outcome, records), after)) :
      EndsWith clock target p before after { outcome, records }
  /-- Everything is written. -/
  | finished (w : Workbook) (logged middle : Workspace) (work : FileWork) (artifacts : List Written)
      (opens : opening before.files p = .ok (.ok w)) (same : logged.files = before.files)
      (sheets : generateSheets clock target w.name (verdicts w) {} logged = (.ok (work, none), middle))
      (shared : generateShared target p w work.succeeded middle = (.ok artifacts, after)) :
      EndsWith clock target p before after
        { outcome := .ofSheets p work.sheets artifacts
          records := work.records
          entries := work.succeeded.map fun d => ⟨d.schema, d.sheet⟩ }

/-- The work on a schema file ends in one of these ways. -/
theorem endsWith_of_generateFile {p : Path} {result : FileResult}
    (distinct : ∀ w, workbookAt? before.files p = some w → w.sheetNames.Nodup)
    (ran : generateFile clock target p before = (.ok result, after)) :
    EndsWith clock target p before after result := by
  rw [generateFile, Job.run_bind, run_openFile] at ran
  cases opens : opening before.files p with
  | error e =>
    rw [opens] at ran
    cases ran
  | ok opened =>
    rw [opens] at ran
    cases opened with
    | error u =>
      cases ran
      exact .unopened u opens rfl
    | ok w =>
      obtain ⟨_, logged, logs, ran⟩ := Job.bind_ok ran
      have same : logged.files = before.files := by
        rw [Job.run_logAll] at logs
        cases logs
        rfl
      dsimp only at ran
      rw [verdicts_eq (distinct w (workbookAt?_eq_some.mpr opens))] at ran
      obtain ⟨⟨work, stopped⟩, middle, sheets, ran⟩ := Job.bind_ok ran
      cases stopped with
      | some e =>
        obtain ⟨_, _, thrown, ran⟩ := Job.bind_ok ran
        cases thrown
        obtain ⟨⟨outcome, records⟩, _, aborts, ran⟩ := Job.bind_ok ran
        cases ran
        exact .stopped w logged middle work e outcome records opens same sheets aborts
      | none =>
        obtain ⟨_, _, attempted, ran⟩ := Job.bind_ok ran
        rw [Job.run_attempt] at attempted
        cases shared : generateShared target p w work.succeeded middle with
        | mk result last =>
          rw [shared] at attempted
          cases attempted
          cases result with
          | error e =>
            obtain ⟨⟨outcome, records⟩, _, aborts, ran⟩ := Job.bind_ok ran
            cases ran
            exact .givenUp w logged middle last work e outcome records opens same sheets shared aborts
          | ok artifacts =>
            cases ran
            exact .finished w logged middle work artifacts opens same sheets shared

/-- A file that no failed write ends leaves what is rendered from it. -/
theorem leaves_of_generateFile {p : Path} {result : FileResult} (split : IsSplit target.codeRoot)
    (distinct : ∀ w, workbookAt? before.files p = some w → w.sheetNames.Nodup)
    (ran : generateFile clock target p before = (.ok result, after))
    (finished : ¬result.outcome.WriteFailed) :
    ∃ artifacts, renderAt target p (workbookAt? before.files p) = .ok artifacts ∧
      Leaves artifacts before.files after.files ∧
      result.entries = ((workbookAt? before.files p).map registryEntries).getD [] := by
  cases endsWith_of_generateFile distinct ran with
  | unopened u opens same =>
    rw [workbookAt?_eq_none opens, same]
    exact ⟨[], rfl, .refl _, rfl⟩
  | stopped w logged middle work e outcome records opens same sheets aborts =>
    exact absurd (writeFailed_of_aborted aborts) finished
  | givenUp w logged middle last work e outcome records opens same sheets shared aborts =>
    exact absurd (writeFailed_of_aborted aborts) finished
  | finished w logged middle work artifacts opens same sheets shared =>
    have known := workbookAt?_eq_some.mpr opens
    have identifier := (named_of_workbookAt? known).1
    rw [known]
    have products : ∀ d ∈ described (verdicts w), ∀ a ∈ sheetArtifacts target d, IsProduct a.path := by
      rw [described_verdicts]
      intro d member
      exact isProduct_sheetArtifacts split identifier member
    obtain ⟨leaves, succeeded⟩ := leaves_of_generateSheets products sheets
    rw [described_verdicts, same] at leaves
    rw [described_verdicts] at succeeded
    have accepts : work.succeeded = accepted w := succeeded
    rw [accepts] at shared ⊢
    have rest := leaves_of_generateShared identifier split shared
    by_cases empty : (accepted w).isEmpty = true
    · rw [if_pos empty] at rest
      rw [List.isEmpty_iff.mp empty, List.flatMap_nil] at leaves
      refine ⟨[], if_pos empty, ?_, rfl⟩
      rw [rest]
      exact leaves
    · rw [if_neg empty] at rest
      obtain ⟨artifacts, rendered, later⟩ := rest
      refine ⟨_, ?_, leaves.trans later, rfl⟩
      rw [renderAt, renderFile, if_neg empty, rendered]
      rfl

/-- Files that no failed write ends leave what is rendered from them. -/
theorem leaves_of_eachFile {t : FileTree} {paths : List Path} {results : List FileResult}
    (split : IsSplit target.codeRoot)
    (same : ∀ p ∈ paths, ∀ u, Grows t u → workbookAt? u p = workbookAt? t p)
    (distinct : ∀ p ∈ paths, ∀ w, workbookAt? t p = some w → w.sheetNames.Nodup)
    (grows : Grows t before.files)
    (ran : eachFile (generateFile clock target) paths before = (.ok results, after))
    (finished : ∀ r ∈ results, ¬r.outcome.WriteFailed) :
    ∃ files, ((workbooks t paths).mapM fun source => renderFile target source.1 source.2) = .ok files ∧
      Leaves files.flatten before.files after.files ∧
      results.flatMap FileResult.entries =
        (workbooks t paths).flatMap fun source => registryEntries source.2 := by
  induction paths generalizing before results with
  | nil =>
    cases ran
    exact ⟨[], rfl, .refl _, rfl⟩
  | cons p rest inductionHypothesis =>
    obtain ⟨first, middle, own, further⟩ := Job.bind_ok ran
    obtain ⟨others, last, later, ended⟩ := Job.bind_ok further
    cases ended
    have here := same p List.mem_cons_self before.files grows
    obtain ⟨artifacts, rendered, early, entries⟩ := leaves_of_generateFile split
      (by rw [here]; exact distinct p List.mem_cons_self) own (finished first List.mem_cons_self)
    obtain ⟨files, renderedLater, late, entriesLater⟩ := inductionHypothesis
      (fun q member => same q (List.mem_cons_of_mem p member))
      (fun q member => distinct q (List.mem_cons_of_mem p member)) (grows.trans early.grows) later
      (fun r member => finished r (List.mem_cons_of_mem first member))
    rw [here] at rendered entries
    rw [List.flatMap_cons, entries, entriesLater]
    cases found : workbookAt? t p with
    | none =>
      rw [found] at rendered
      cases rendered
      have skipped : workbooks t (p :: rest) = workbooks t rest :=
        List.filterMap_cons_none (by rw [found]; rfl)
      rw [skipped]
      exact ⟨files, renderedLater, early.trans late, rfl⟩
    | some w =>
      rw [found] at rendered
      have listed : workbooks t (p :: rest) = (p, w) :: workbooks t rest :=
        List.filterMap_cons_some (by rw [found]; rfl)
      rw [listed]
      exact ⟨artifacts :: files, mapM_cons_eq_ok.mpr ⟨artifacts, files, rendered, renderedLater, rfl⟩,
        early.trans late, rfl⟩

end Run

end TypedSheets

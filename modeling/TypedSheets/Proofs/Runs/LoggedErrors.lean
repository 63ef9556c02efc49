import TypedSheets.Proofs.Runs.WholeRuns
import TypedSheets.Proofs.Text.TextLines

/-!
# What a run leaves in its error log

A run that ends with a report has appended the records of its files to the log, a line each: one for every
file that cannot be opened, and one for every sheet that fails, as long as the work on its file is not
given up. A file that is given up records the failure that ended it, but not the sheets behind it; and
when the registry cannot be written nothing is logged at all.
-/

namespace TypedSheets

open TypedSheets.Emission TypedSheets.Grid TypedSheets.Schema TypedSheets.Text FileTree

namespace FileTree

/-- The bytes of the file at a location. -/
def bytesAt (t : FileTree) (at_ : Location) : List UInt8 :=
  match t.fileAt? at_ with
  | some (.bytes data) => data
  | _ => []

/-- Some tree that comes of this one has a file at the path. -/
def IsWritable (t : FileTree) (p : Path) : Prop :=
  ∃ u at_, Grows t u ∧ u.locate p = .ok at_ ∧ u.fileAt? at_ ≠ none

theorem IsWritable.not_neverFile {t : FileTree} {p : Path} (writable : IsWritable t p) :
    ¬NeverFile t p := by
  rintro never
  obtain ⟨u, at_, grows, located, there⟩ := writable
  exact there (never u grows at_ located)

/-- A file can be written again. -/
theorem isWritable_of_isFile {t u : FileTree} {p : Path} (grows : Grows t u)
    (there : t.isFile? p = .ok true) : IsWritable u p := by
  obtain ⟨-, at_, located, found⟩ := isFile?_eq_true.mp (grows.isFile there)
  exact ⟨u, at_, .refl u, located, found⟩

/-- Appending puts bytes behind those that were there. -/
theorem bytesAt_append {t u : FileTree} {p : Path} {data : List UInt8}
    (appended : t.append p data = .ok u) :
    ∃ at_, t.locate p = .ok at_ ∧ KeepsDirectories t u ∧
      u.fileAt? at_ = some (.bytes (t.bytesAt at_ ++ data)) := by
  obtain ⟨noNull, at_, located, kept, found, -⟩ := write_ok appended
  refine ⟨at_, located, kept, ?_⟩
  rw [found, bytesAt]
  cases there : t.fileAt? at_ with
  | some content =>
    rw [read_eq noNull located there]
    cases content <;> rfl
  | none =>
    cases red : t.read p with
    | error e => rfl
    | ok content =>
      obtain ⟨-, place, here, held⟩ := read_ok red
      rw [located] at here
      cases here
      rw [there] at held
      cases held

end FileTree

/-- Every record is one line. -/
theorem withinLine_line (r : ErrorRecord) : WithinLine r.line := by
  have entry {name text : String} (within : WithinLine text) :
      WithinLine (Json.quoted name ++ ": " ++ text) := by
    rw [withinLine_append, withinLine_append]
    exact ⟨⟨withinLine_quoted name, by decide⟩, within⟩
  rw [ErrorRecord.line, withinLine_append, withinLine_append]
  refine ⟨⟨by decide, withinLine_intercalate (by decide) ?_⟩, by decide⟩
  intro text member
  obtain ⟨field, listed, rfl⟩ := List.mem_map.mp member
  simp only [ErrorRecord.fields, List.mem_cons, List.not_mem_nil, or_false] at listed
  rcases listed with rfl | rfl | rfl | rfl | rfl | rfl | rfl
  · exact entry (withinLine_quoted _)
  · exact entry (withinLine_quoted _)
  · exact entry (withinLine_quoted _)
  · exact entry (withinLine_integerText _)
  · exact entry (withinLine_integerText _)
  · exact entry (withinLine_quoted _)
  · exact entry (withinLine_quoted _)

/-- Records were appended to the log, a line each. -/
structure Logged (log : Path) (before after : FileTree) (records : List ErrorRecord) : Prop where
  appended : ∀ at_, after.locate log = .ok at_ →
    after.bytesAt at_ = before.bytesAt at_ ++ encodeUtf8 (ErrorLog.text records)
  there : records ≠ [] → ∃ at_, after.locate log = .ok at_ ∧ after.fileAt? at_ ≠ none
  lines : textLines (ErrorLog.text records) = records.map ErrorRecord.line ++ [""]

/-- The lines of a log are its records. -/
theorem textLines_records (records : List ErrorRecord) :
    textLines (ErrorLog.text records) = records.map ErrorRecord.line ++ [""] := by
  have same : ErrorLog.text records =
      String.join ((records.map ErrorRecord.line).map fun line => line ++ "\n") := by
    rw [ErrorLog.text, List.map_map]
    rfl
  rw [same]
  apply textLines_join
  intro line member
  obtain ⟨r, -, rfl⟩ := List.mem_map.mp member
  exact withinLine_line r

/-- A log that is as it was holds no new record. -/
theorem logged_nothing {log : Path} {before after : FileTree}
    (same : ∀ at_, after.locate log = .ok at_ → after.fileAt? at_ = before.fileAt? at_) :
    Logged log before after [] := by
  refine ⟨?_, fun some => absurd rfl some, textLines_records []⟩
  intro at_ located
  rw [bytesAt, bytesAt, same at_ located]
  exact (List.append_nil _).symm

namespace Run

section Flush

variable {clock : Clock} {logs : Path} {records : List ErrorRecord} {before after : Workspace}

/-- Bytes that could not be appended to a file never can be. -/
theorem neverFile_of_appendAll {file : Path} {data : List UInt8} (product : IsProduct file)
    {e : Failure} (ran : appendAll file data before = (.error e, after)) (system : e.isSystem = true) :
    NeverFile after.files file := by
  have noNull := (appendAll_error product ran).mp system
  have noNullAbove : hasNull file.parent = false := by rw [product.hasNull_parent, noNull]
  rcases appendAll_cases ran with ⟨cause, -, made⟩ | ⟨above, made, ⟨cause, -, failed, left⟩ | ⟨ended, -⟩⟩
  · exact neverFile_of_parent product.parts_ne_nil
      (neverDirectory_of_makeDirectories product.split.parent noNullAbove (Nat.lt_succ_self _) made).1
  · rw [left]
    exact (neverFile_of_write noNull (leadsToDirectory_of_makeDirectories noNullAbove made) failed).1
  · cases ended

/-- Where directories were made, files have the bytes that they had. -/
theorem appendAll_ok {file : Path} {data : List UInt8}
    (ran : appendAll file data before = (.ok (), after)) :
    ∃ at_, after.files.locate file = .ok at_ ∧
      after.files.fileAt? at_ = some (.bytes (before.files.bytesAt at_ ++ data)) := by
  have same := (makeDirectories_frame (file.parent.parts.length + 1) file.parent before.files).2
  rcases appendAll_cases ran with ⟨cause, failed, -⟩ | ⟨above, made, ⟨cause, failed, -, -⟩ | ⟨-, appended⟩⟩
  · cases failed
  · cases failed
  · rw [made] at same
    obtain ⟨at_, located, kept, found⟩ := bytesAt_append appended
    refine ⟨at_, locate_kept kept _ _ located, ?_⟩
    rw [found, bytesAt, bytesAt, same at_]

/-- A flush into a log that can be written leaves all the records there. -/
theorem logged_of_flush (product : IsProduct (logFile clock logs))
    (writable : IsWritable after.files (logFile clock logs))
    (ran : flush clock logs records before = (.ok (), after)) :
    Logged (logFile clock logs) before.files after.files records := by
  rw [run_flush] at ran
  cases empty : records.isEmpty with
  | true =>
    rw [empty, if_pos rfl] at ran
    cases ran
    rw [List.isEmpty_iff.mp empty]
    exact logged_nothing fun _ _ => rfl
  | false =>
    rw [empty, if_neg (by decide)] at ran
    split at ran
    · next middle appended =>
      cases ran
      obtain ⟨place, located, found⟩ := appendAll_ok appended
      refine ⟨?_, ?_, textLines_records records⟩
      · intro at_ here
        obtain rfl : place = at_ := Except.ok.inj (located.symm.trans here)
        have bytes : middle.files.bytesAt place =
            before.files.bytesAt place ++ encodeUtf8 (ErrorLog.text records) := by
          rw [bytesAt, found]
        exact bytes
      · intro _
        refine ⟨place, located, ?_⟩
        have there : middle.files.fileAt? place ≠ none := by
          rw [found]
          exact Option.some_ne_none _
        exact there
    · next e middle failed =>
      split at ran
      · next system =>
        cases ran
        exact absurd (neverFile_of_appendAll product failed system) writable.not_neverFile
      · cases ran

end Flush

section Failures

variable {clock : Clock} {target : Destination} {root : Path} {before after : Workspace}

theorem neverProcessing_read (p : Path) : Job.NeverProcessing (SchemaFile.read p) := by
  unfold SchemaFile.read
  refine (Job.failsInFiles_ask _).neverProcessing.bind fun there => ?_
  split
  · refine (Job.failsInFiles_ask _).neverProcessing.attempt_bind (fun content => ?_) fun e other => ?_
    · intro w e after ran
      cases decoded : SchemaFile.decode content with
      | error cause =>
        simp only [decoded] at ran
        cases ran
      | ok sheets =>
        simp only [decoded] at ran
        cases ran
    · dsimp only
      split
      · exact (Job.failsInFiles_pure _).neverProcessing
      · next failed =>
        cases failed
        exact Job.neverProcessing_throw other
      · next impossible => cases impossible
  · exact (Job.failsInFiles_pure _).neverProcessing

theorem neverProcessing_openFile (clock : Clock) (p : Path) :
    Job.NeverProcessing (openFile clock p) := by
  unfold openFile
  refine (neverProcessing_read p).bind fun read => ?_
  cases read with
  | error text =>
    intro w e after ran
    cases ran
  | ok workbook =>
    dsimp only
    split
    · intro w e after ran
      cases ran
    · exact (Job.failsInFiles_pure _).neverProcessing

theorem failsInFiles_warnIfStale (target : Destination) (schema sheet : String) :
    Job.FailsInFiles (warnIfStale target schema sheet) := by
  unfold warnIfStale
  refine (Job.failsInFiles_ask _).bind fun there => ?_
  split
  · intro w e after ran
    cases ran
  · exact Job.failsInFiles_pure _

theorem writeArtifacts_failsInFiles (artifacts : List Artifact) :
    Job.FailsInFiles (writeArtifacts artifacts) := by
  induction artifacts with
  | nil => exact Job.failsInFiles_pure _
  | cons a rest inductionHypothesis =>
    refine (writeArtifact_failsInFiles a).bind fun first => ?_
    exact inductionHypothesis.bind fun others => Job.failsInFiles_pure _

/-- Seeing to sheets never fails itself, and what stops it is a failure of the files. -/
theorem generateSheets_stopped {schema : String}
    {outcomes : List (String × Except ShapeError Description)} {work : FileWork}
    {result : Except Failure (FileWork × Option Failure)}
    (ran : generateSheets clock target schema outcomes work before = (result, after)) :
    ∃ done stopped, result = .ok (done, stopped) ∧ ∀ e ∈ stopped, ∃ cause, e = .file cause := by
  induction outcomes generalizing work before with
  | nil =>
    cases ran
    exact ⟨work, none, rfl, fun e member => absurd member (Option.not_mem_none e)⟩
  | cons outcome rest inductionHypothesis =>
    obtain ⟨sheet, verdict⟩ := outcome
    cases verdict with
    | error e =>
      rw [generateSheets, Job.run_bind, run_note] at ran
      dsimp only at ran
      rw [Job.run_bind, Job.run_attempt] at ran
      cases warned : warnIfStale target schema sheet
          (before.emit (.line ⟨.error, e.issue.kind.code ++ ": " ++ e.issue.text⟩)) with
      | mk answer middle =>
        rw [warned] at ran
        cases answer with
        | ok _ => exact inductionHypothesis ran
        | error failure =>
          cases ran
          refine ⟨_, _, rfl, ?_⟩
          rintro _ ⟨⟩
          exact failsInFiles_warnIfStale target schema sheet _ _ _ warned
    | ok d =>
      rw [generateSheets, Job.run_bind, Job.run_attempt] at ran
      cases wrote : writeArtifacts (sheetArtifacts target d) before with
      | mk answer middle =>
        rw [wrote] at ran
        cases answer with
        | ok artifacts => exact inductionHypothesis ran
        | error failure =>
          cases ran
          refine ⟨_, _, rfl, ?_⟩
          rintro _ ⟨⟩
          exact writeArtifacts_failsInFiles _ _ _ _ wrote

theorem neverProcessing_generateShared (target : Destination) (p : Path) (w : Workbook)
    (succeeded : List Description) : Job.NeverProcessing (generateShared target p w succeeded) := by
  unfold generateShared
  split
  · exact (Job.failsInFiles_pure _).neverProcessing
  · refine (Job.neverProcessing_ofExcept (fun e text => by simp) _).bind fun artifacts => ?_
    exact (writeArtifacts_failsInFiles artifacts).neverProcessing

theorem neverProcessing_aborted {p : Path} {schema text : String} {work : FileWork} {e : Failure}
    (other : ∀ text, e ≠ .processing text) :
    Job.NeverProcessing (aborted clock p schema text work e) := by
  unfold aborted
  split
  · intro w f after ran
    cases ran
  · exact Job.neverProcessing_throw other

/-- The work on a schema file ends a run in no such way, -/
theorem neverProcessing_generateFile (clock : Clock) (target : Destination) (p : Path) :
    Job.NeverProcessing (generateFile clock target p) := by
  have stops (w : Workbook) (work : FileWork) (e : Failure) (other : ∀ text, e ≠ .processing text) :
      Job.NeverProcessing (do
        let ended ← aborted clock p w.name "artifact" work e
        pure { outcome := ended.1, records := ended.2 : FileResult }) :=
    (neverProcessing_aborted other).bind fun _ => (Job.failsInFiles_pure _).neverProcessing
  unfold generateFile
  refine (neverProcessing_openFile clock p).bind fun opened => ?_
  cases opened with
  | error _ => exact (Job.failsInFiles_pure _).neverProcessing
  | ok workbook =>
    refine (Job.failsInFiles_logAll _).neverProcessing.bind fun _ => ?_
    intro w e after ran
    rcases Job.bind_error ran with failed | ⟨⟨work, stopped⟩, middle, sheets, failed⟩
    · obtain ⟨_, _, impossible, -⟩ := generateSheets_stopped failed
      cases impossible
    · obtain ⟨_, _, same, files⟩ := generateSheets_stopped sheets
      cases same
      cases stopped with
      | some cause =>
        obtain ⟨fault, rfl⟩ := files cause rfl
        exact stops workbook work _ (by simp) middle e after failed
      | none =>
        refine (neverProcessing_generateShared target p workbook work.succeeded).attempt_bind ?_ ?_
          middle e after failed
        · intro artifacts
          exact (Job.failsInFiles_pure _).neverProcessing
        · intro cause other
          exact stops workbook work cause other

theorem neverProcessing_exportSheet (root : Path) (d : Description) :
    Job.NeverProcessing (exportSheet root d) := by
  refine (Job.neverProcessing_ofExcept (fun e text => ?_) _).bind fun records => ?_
  · cases e <;> simp [CoercionError.failure]
  · refine (Job.neverProcessing_ofExcept (fun e text => ?_) _).bind fun content => ?_
    · cases e <;> simp [AssetError.failure]
    · refine (writeArtifact_failsInFiles _).neverProcessing.bind fun written => ?_
      intro w e after ran
      cases ran

theorem neverProcessing_exportSheets (root : Path) (ds : List Description) :
    Job.NeverProcessing (exportSheets root ds) := by
  induction ds with
  | nil => exact (Job.failsInFiles_pure _).neverProcessing
  | cons d rest inductionHypothesis =>
    have further (first : Exported) : Job.NeverProcessing (do
        let others ← exportSheets root rest
        pure (first :: others)) :=
      inductionHypothesis.bind fun _ => (Job.failsInFiles_pure _).neverProcessing
    refine (neverProcessing_exportSheet root d).attempt_bind (fun done => further _) fun e other => ?_
    cases e with
    | issue i => exact further _
    | _ => exact (Job.neverProcessing_throw other).bind further

/-- nor does its export, -/
theorem neverProcessing_exportFile (clock : Clock) (root p : Path) :
    Job.NeverProcessing (exportFile clock root p) := by
  unfold exportFile
  refine (neverProcessing_openFile clock p).bind fun opened => ?_
  cases opened with
  | error _ => exact (Job.failsInFiles_pure _).neverProcessing
  | ok workbook =>
    have exports : Job.NeverProcessing (exportWorkbook workbook root none) := by
      refine (Job.failsInFiles_logAll _).neverProcessing.bind fun _ => ?_
      exact (neverProcessing_exportSheets root _).bind fun _ =>
        (Job.failsInFiles_pure _).neverProcessing
    refine exports.attempt_bind (fun exported => ?_) fun e other => ?_
    · intro w e after ran
      rcases Job.bind_error ran with failed | ⟨_, _, _, ended⟩
      · obtain ⟨_, _, noted⟩ := run_noteAll clock workbook.name exported.issues w
        rw [noted] at failed
        cases failed
      · cases ended
    · exact (neverProcessing_aborted other).bind fun _ => (Job.failsInFiles_pure _).neverProcessing

/-- nor does the work on several. -/
theorem neverProcessing_eachFile {work : Path → Job FileResult}
    (each : ∀ p, Job.NeverProcessing (work p)) (paths : List Path) :
    Job.NeverProcessing (eachFile work paths) := by
  induction paths with
  | nil => exact (Job.failsInFiles_pure _).neverProcessing
  | cons p rest inductionHypothesis =>
    refine (each p).bind fun first => ?_
    exact inductionHypothesis.bind fun others => (Job.failsInFiles_pure _).neverProcessing

theorem appendAll_failsInFiles (file : Path) (data : List UInt8) :
    Job.FailsInFiles (appendAll file data) :=
  (Job.failsInFiles_makeDirectories file.parent).bind fun _ => Job.failsInFiles_change _

/-- Nor does the flush of the log. -/
theorem neverProcessing_flush (clock : Clock) (logs : Path) (records : List ErrorRecord) :
    Job.NeverProcessing (flush clock logs records) := by
  intro w e after ran
  rw [run_flush] at ran
  split at ran
  · cases ran
  · split at ran
    · cases ran
    · next failed =>
      split at ran
      · cases ran
      · cases ran
        exact (appendAll_failsInFiles _ _).neverProcessing _ _ _ failed

end Failures

section Started

variable {moment : Calendar.DateTime} {elapsed : Number.Double} {source code asset logs : String}
  {project : Option String} {before : Workspace} {paths : List Path}

/-- The log is left alone until it is written. -/
theorem log_untouched {log : Path} {t u v : FileTree} {written : List Written}
    (touches : Touches written t u) (grows : Grows u v) (apart : ∀ w ∈ written, Apart w.path log)
    (at_ : Location) (located : v.locate log = .ok at_) : u.fileAt? at_ = t.fileAt? at_ := by
  apply touches.others
  intro w member there
  exact apart w member v at_ at_ (locate_kept grows.directories w.path at_ there) located rfl

/-- Records that are flushed after some writing are logged, as what was written lies apart from the log. -/
theorem logged_of_touches {clock : Clock} {directory : Path} {t : FileTree} {worked after : Workspace}
    {written : List Written} {records : List ErrorRecord} (product : IsProduct (logFile clock directory))
    (touches : Touches written t worked.files)
    (apart : ∀ w ∈ written, Apart w.path (logFile clock directory))
    (writable : IsWritable after.files (logFile clock directory))
    (flushing : flush clock directory records worked = (.ok (), after)) :
    Logged (logFile clock directory) t after.files records := by
  have logged := logged_of_flush product writable flushing
  have grows := (flush_frame product flushing).1
  refine ⟨?_, logged.there, logged.lines⟩
  intro at_ located
  rw [logged.appended at_ located, bytesAt, bytesAt,
    log_untouched touches grows apart at_ located]

/-- What a run that generates modules comes to: the records of all files are left in a log that can be
written. -/
theorem seen_of_generate (wellFormed : WellFormed before.files)
    (distinct : SheetsDiffer before.files (.ofText source))
    (scanned : SchemaFile.scanning before.files (.ofText source) = .ok paths)
    {after : Workspace} {report : Report}
    (ran : generate (.startingAt moment elapsed) (.ofText source)
      { code := .ofText code, asset := .ofText asset, project } (.ofText logs) before =
        (.ok report, after)) :
    ∃ (seen : List (FileResult × List Written)) (shared : List Written),
      List.Forall₂ (Becomes before.files (Generates (.startingAt moment elapsed)
        { code := .ofText code, asset := .ofText asset, project })) paths seen ∧
      report = ⟨seen.map fun own => own.1.outcome, shared⟩ ∧
      (shared.map Written.path = if (seen.flatMap fun own => own.1.entries).isEmpty then []
        else [GeneratedModule.registry.path { code := .ofText code, asset := .ofText asset, project }]) ∧
      (IsWritable after.files (logFile (.startingAt moment elapsed) (.ofText logs)) →
        Logged (logFile (.startingAt moment elapsed) (.ofText logs)) before.files after.files
          (seen.flatMap fun own => own.1.records)) := by
  rw [generate_eq] at ran
  obtain ⟨⟨files, shared⟩, _, whole, ended⟩ := Job.bind_ok ran
  cases ended
  obtain ⟨found, logged, worked, scan, kept, works, flushing⟩ := wholeRun_ok whole
  rw [scanned] at scan
  cases scan
  have found := found_of_scanning wellFormed distinct scanned
  have split : IsSplit (Destination.codeRoot { code := .ofText code, asset := .ofText asset, project }) :=
    isSplit_root code
  obtain ⟨seen, rfl, becomes, touches, among, registry⟩ := generates_of_generateAll found split kept works
  rw [List.flatMap_map] at flushing registry
  refine ⟨seen, shared, becomes, ?_, registry, fun writable => ?_⟩
  · rw [List.map_map]
    rfl
  · apply logged_of_touches (isProduct_startedLog moment elapsed logs) touches _ writable flushing
    intro w member
    exact modulePlaces_apart found (slash_not_mem_stamp moment elapsed) (.ofText logs) _
      (among.subset (List.mem_map_of_mem member))

/-- A run that cannot write the registry logs nothing. -/
theorem logged_of_processing (wellFormed : WellFormed before.files)
    (distinct : SheetsDiffer before.files (.ofText source))
    (scanned : SchemaFile.scanning before.files (.ofText source) = .ok paths)
    {after : Workspace} {text : String}
    (ran : generate (.startingAt moment elapsed) (.ofText source)
      { code := .ofText code, asset := .ofText asset, project } (.ofText logs) before =
        (.error (.processing text), after)) :
    ∃ seen, List.Forall₂ (Becomes before.files (Generates (.startingAt moment elapsed)
        { code := .ofText code, asset := .ofText asset, project })) paths seen ∧
      Logged (logFile (.startingAt moment elapsed) (.ofText logs)) before.files after.files [] := by
  have split : IsSplit (Destination.codeRoot { code := .ofText code, asset := .ofText asset, project }) :=
    isSplit_root code
  rw [generate_eq] at ran
  rcases Job.bind_error ran with failed | ⟨_, _, _, ended⟩
  · obtain ⟨logged, kept, failed | ⟨b, worked, failed⟩⟩ := wholeRun_error scanned failed
    · rcases Job.bind_error failed with failed | ⟨files, between, each, rest⟩
      · exact absurd rfl (neverProcessing_eachFile (neverProcessing_generateFile _ _) paths _ _ _ failed text)
      · have found := found_of_scanning wellFormed distinct scanned
        obtain ⟨seen, rfl, becomes, touches⟩ := generates_of_eachFile found split kept each
        rcases Job.bind_error rest with failed | ⟨_, _, _, ended⟩
        · obtain ⟨written, last, -, own⟩ := touches_of_writeRegistry split failed
          have among : ((seen.flatMap chronicle ++ written).map Written.path).Sublist
              (modulePlaces { code := .ofText code, asset := .ofText asset, project } before.files paths) := by
            rw [List.map_append, modulePlaces]
            refine (sublist_of_becomes becomes fun p seen => places_of_generates).append (own.trans ?_)
            split_ifs
            · exact List.nil_sublist _
            · exact .refl _
          refine ⟨seen, becomes, logged_nothing ?_⟩
          apply log_untouched (touches.trans last) (.refl _)
          intro w member
          exact modulePlaces_apart found (slash_not_mem_stamp moment elapsed) (.ofText logs) _
            (among.subset (List.mem_map_of_mem member))
        · cases ended
    · exact absurd rfl (neverProcessing_flush _ _ _ _ _ _ failed text)
  · cases ended

/-- What a run that exports comes to. -/
theorem seen_of_exportAll (wellFormed : WellFormed before.files)
    (distinct : SheetsDiffer before.files (.ofText source))
    (scanned : SchemaFile.scanning before.files (.ofText source) = .ok paths)
    {after : Workspace} {report : Report}
    (ran : exportAll (.startingAt moment elapsed) (.ofText source) (.ofText asset) (.ofText logs) before =
      (.ok report, after)) :
    ∃ seen : List (FileResult × List Written),
      List.Forall₂ (Becomes before.files (ExportsTo (.startingAt moment elapsed)
        ((Path.ofText asset).child rootDirectory))) paths seen ∧
      report = ⟨seen.map fun own => own.1.outcome, []⟩ ∧
      (IsWritable after.files (logFile (.startingAt moment elapsed) (.ofText logs)) →
        Logged (logFile (.startingAt moment elapsed) (.ofText logs)) before.files after.files
          (seen.flatMap fun own => own.1.records)) := by
  rw [exportAll_eq] at ran
  obtain ⟨files, _, whole, ended⟩ := Job.bind_ok ran
  cases ended
  obtain ⟨found, logged, worked, scan, kept, works, flushing⟩ := wholeRun_ok whole
  rw [scanned] at scan
  cases scan
  have found := found_of_scanning wellFormed distinct scanned
  obtain ⟨seen, rfl, becomes, touches⟩ := exportsTo_of_eachFile found (isSplit_root asset) kept works
  have among := sublist_of_becomes becomes fun p seen => places_of_exportsTo
  rw [List.flatMap_map] at flushing
  refine ⟨seen, becomes, ?_, fun writable => ?_⟩
  · rw [List.map_map]
    rfl
  · apply logged_of_touches (isProduct_startedLog moment elapsed logs) touches _ writable flushing
    intro w member
    exact assetPlaces_apart found (slash_not_mem_stamp moment elapsed) (.ofText logs) _
      (among.subset (List.mem_map_of_mem member))

/-- An export that has scanned its source directory never says that it cannot go on. -/
theorem neverProcessing_exportAll {clock : Clock} {directory root log : Path}
    (scanned : SchemaFile.scanning before.files directory = .ok paths) {text : String} {after : Workspace} :
    exportAll clock directory root log before ≠ (.error (.processing text), after) := by
  intro ran
  rw [exportAll_eq] at ran
  rcases Job.bind_error ran with failed | ⟨_, _, _, ended⟩
  · obtain ⟨logged, kept, failed | ⟨b, worked, failed⟩⟩ := wholeRun_error scanned failed
    · exact neverProcessing_eachFile (neverProcessing_exportFile _ _) paths _ _ _ failed text rfl
    · exact neverProcessing_flush _ _ _ _ _ _ failed text rfl
  · cases ended

/-- What a run leaves in its log: the records of all its files when it ends with a report, and none at all
when it says that it cannot go on, which only a registry that cannot be written makes it do. -/
theorem errors_logged (wellFormed : WellFormed before.files)
    (distinct : SheetsDiffer before.files (.ofText source))
    (scanned : SchemaFile.scanning before.files (.ofText source) = .ok paths) :
    (∀ report after, generate (.startingAt moment elapsed) (.ofText source)
        { code := .ofText code, asset := .ofText asset, project } (.ofText logs) before =
          (.ok report, after) →
      IsWritable after.files (logFile (.startingAt moment elapsed) (.ofText logs)) →
      ∃ seen, List.Forall₂ (Becomes before.files (Generates (.startingAt moment elapsed)
          { code := .ofText code, asset := .ofText asset, project })) paths seen ∧
        report.files = seen.map (fun own => own.1.outcome) ∧
        Logged (logFile (.startingAt moment elapsed) (.ofText logs)) before.files after.files
          (seen.flatMap fun own => own.1.records)) ∧
    (∀ text after, generate (.startingAt moment elapsed) (.ofText source)
        { code := .ofText code, asset := .ofText asset, project } (.ofText logs) before =
          (.error (.processing text), after) →
      ∃ seen, List.Forall₂ (Becomes before.files (Generates (.startingAt moment elapsed)
          { code := .ofText code, asset := .ofText asset, project })) paths seen ∧
        Logged (logFile (.startingAt moment elapsed) (.ofText logs)) before.files after.files []) ∧
    (∀ report after, exportAll (.startingAt moment elapsed) (.ofText source) (.ofText asset)
        (.ofText logs) before = (.ok report, after) →
      IsWritable after.files (logFile (.startingAt moment elapsed) (.ofText logs)) →
      ∃ seen, List.Forall₂ (Becomes before.files (ExportsTo (.startingAt moment elapsed)
          ((Path.ofText asset).child rootDirectory))) paths seen ∧
        report.files = seen.map (fun own => own.1.outcome) ∧
        Logged (logFile (.startingAt moment elapsed) (.ofText logs)) before.files after.files
          (seen.flatMap fun own => own.1.records)) ∧
    ∀ text after, exportAll (.startingAt moment elapsed) (.ofText source) (.ofText asset)
      (.ofText logs) before ≠ (.error (.processing text), after) := by
  refine ⟨?_, ?_, ?_, ?_⟩
  · intro report after ran writable
    obtain ⟨seen, shared, becomes, rfl, -, logged⟩ := seen_of_generate wellFormed distinct scanned ran
    exact ⟨seen, becomes, rfl, logged writable⟩
  · intro text after ran
    exact logged_of_processing wellFormed distinct scanned ran
  · intro report after ran writable
    obtain ⟨seen, becomes, rfl, logged⟩ := seen_of_exportAll wellFormed distinct scanned ran
    exact ⟨seen, becomes, rfl, logged writable⟩
  · intro text after
    exact neverProcessing_exportAll scanned

end Started

/-- A tree with a schema file that is no archive, and with the log of a run that starts at dawn. -/
def brokenTree : FileTree where
  entries := [(["data"], .directory), (["data", "Broken.xlsx"], .file (.bytes [])), (["logs"], .directory),
    (["logs", "errors-20240101-060000.log"], .file (.bytes []))]

def brokenFile : Path := (Path.ofText "data").child "Broken.xlsx"

theorem wellFormed_brokenTree : WellFormed brokenTree := ⟨by decide, by decide +kernel⟩

theorem schemaNames_broken :
    SchemaFile.schemaNames brokenTree (Path.ofText "data") ["data"] = ["Broken.xlsx"] := by
  rw [SchemaFile.schemaNames, List.mergeSort_of_pairwise]
  · rfl
  · decide

theorem scanning_broken : SchemaFile.scanning brokenTree (Path.ofText "data") = .ok [brokenFile] := by
  rw [SchemaFile.scanning_eq_ok]
  refine ⟨by decide, ["data"], rfl, rfl, ?_, ?_⟩
  · have names : SchemaFile.childNames ["data"] brokenTree.locations = ["Broken.xlsx"] := by decide
    rw [SchemaFile.Listable, names]
    intro name member
    rw [List.mem_singleton.mp member]
    exact ⟨true, rfl⟩
  · rw [schemaNames_broken]
    rfl

theorem opening_broken : ∃ u, opening brokenTree brokenFile = .ok (.error u) := ⟨_, rfl⟩

theorem sheetsDiffer_brokenTree : SheetsDiffer brokenTree (.ofText "data") := by
  intro name schema noSlash isFile w read
  have listed : name ∈ SchemaFile.schemaNames brokenTree (Path.ofText "data") ["data"] :=
    (SchemaFile.mem_schemaNames wellFormed_brokenTree rfl rfl).mpr ⟨schema, noSlash, isFile⟩
  rw [schemaNames_broken] at listed
  rw [List.mem_singleton.mp listed] at read
  cases read

/-- The log of a run at dawn can be written, and written again. -/
theorem flush_broken (records : List ErrorRecord) {w : Workspace} (same : w.files = brokenTree) :
    ∃ last, flush (.startingAt dawn .nan) (.ofText "logs") records w = (.ok (), last) ∧
      IsWritable last.files (logFile (.startingAt dawn .nan) (.ofText "logs")) := by
  have product := isProduct_startedLog dawn .nan "logs"
  have there : brokenTree.isFile? (logFile (.startingAt dawn .nan) (.ofText "logs")) = .ok true := by
    decide +kernel
  have noNull : hasNull (logFile (.startingAt dawn .nan) (.ofText "logs")) = false :=
    (isFile?_eq_true.mp there).1
  have flushes : ∃ last, flush _ _ records w = (.ok (), last) := (flush_ok_iff product w).mpr (.inr noNull)
  obtain ⟨last, flushing⟩ := flushes
  have grows := (flush_frame product flushing).1
  rw [same] at grows
  exact ⟨last, flushing, isWritable_of_isFile grows there⟩

/-- Generating when the only schema file cannot be opened. -/
theorem generate_broken : ∃ report after,
    generate (.startingAt dawn .nan) (.ofText "data") armoryTarget (.ofText "logs")
      { files := brokenTree } = (.ok report, after) ∧
    IsWritable after.files (logFile (.startingAt dawn .nan) (.ofText "logs")) := by
  obtain ⟨u, opens⟩ := opening_broken
  obtain ⟨logged, kept, logging⟩ : ∃ logged, logged.files = brokenTree ∧ Job.log .info
      ("Generating from " ++ Number.integerText [brokenFile].length ++ " schema file(s) in " ++
        (Path.ofText "data").text) { files := brokenTree } = (.ok (), logged) := ⟨_, rfl, rfl⟩
  obtain ⟨result, noted, file, same, none⟩ : ∃ result noted,
      generateFile (.startingAt dawn .nan) armoryTarget brokenFile logged = (.ok result, noted) ∧
      noted.files = brokenTree ∧ result.entries = [] := by
    rw [generateFile, Job.run_bind, run_openFile, kept, opens]
    exact ⟨_, _, rfl, kept, rfl⟩
  obtain ⟨last, flushing, writable⟩ := flush_broken ([result].flatMap FileResult.records) same
  refine ⟨⟨[result.outcome], []⟩, last, ?_, writable⟩
  rw [generate, Job.run_bind, SchemaFile.run_scanSource, scanning_broken]
  dsimp only
  rw [Job.run_bind, logging]
  dsimp only
  rw [Job.run_bind, eachFile, Job.run_bind, file]
  dsimp only
  rw [eachFile, Job.run_bind, Job.run_pure]
  dsimp only
  rw [Job.run_pure]
  dsimp only
  rw [List.flatMap_singleton, none, writeRegistry, if_pos (by rfl), Job.run_bind, Job.run_pure]
  dsimp only
  rw [Job.run_bind, flushing]
  rfl

/-- Exporting it. -/
theorem exportAll_broken : ∃ report after,
    exportAll (.startingAt dawn .nan) (.ofText "data") (.ofText "assets") (.ofText "logs")
      { files := brokenTree } = (.ok report, after) ∧
    IsWritable after.files (logFile (.startingAt dawn .nan) (.ofText "logs")) := by
  obtain ⟨u, opens⟩ := opening_broken
  obtain ⟨logged, kept, logging⟩ : ∃ logged, logged.files = brokenTree ∧ Job.log .info
      ("Exporting " ++ Number.integerText [brokenFile].length ++ " schema file(s) from " ++
        (Path.ofText "data").text) { files := brokenTree } = (.ok (), logged) := ⟨_, rfl, rfl⟩
  obtain ⟨result, noted, file, same⟩ : ∃ result noted,
      exportFile (.startingAt dawn .nan) ((Path.ofText "assets").child rootDirectory) brokenFile logged =
        (.ok result, noted) ∧ noted.files = brokenTree := by
    rw [exportFile, Job.run_bind, run_openFile, kept, opens]
    exact ⟨_, _, rfl, kept⟩
  obtain ⟨last, flushing, writable⟩ := flush_broken ([result].flatMap FileResult.records) same
  refine ⟨⟨[result.outcome], []⟩, last, ?_, writable⟩
  rw [exportAll, Job.run_bind, SchemaFile.run_scanSource, scanning_broken]
  dsimp only
  rw [Job.run_bind, logging]
  dsimp only
  rw [Job.run_bind, eachFile, Job.run_bind, file]
  dsimp only
  rw [eachFile, Job.run_bind, Job.run_pure]
  dsimp only
  rw [Job.run_pure]
  dsimp only
  rw [Job.run_bind, flushing]
  rfl

/-- The file that cannot be opened is recorded in both. -/
theorem errors_logged_broken :
    WellFormed brokenTree ∧ SheetsDiffer brokenTree (.ofText "data") ∧
    SchemaFile.scanning brokenTree (.ofText "data") = .ok [brokenFile] ∧
    (∃ report after, generate (.startingAt dawn .nan) (.ofText "data") armoryTarget (.ofText "logs")
        { files := brokenTree } = (.ok report, after) ∧
      IsWritable after.files (logFile (.startingAt dawn .nan) (.ofText "logs")) ∧
      ∃ r, Logged (logFile (.startingAt dawn .nan) (.ofText "logs")) brokenTree after.files [r]) ∧
    ∃ report after, exportAll (.startingAt dawn .nan) (.ofText "data") (.ofText "assets")
        (.ofText "logs") { files := brokenTree } = (.ok report, after) ∧
      IsWritable after.files (logFile (.startingAt dawn .nan) (.ofText "logs")) ∧
      ∃ r, Logged (logFile (.startingAt dawn .nan) (.ofText "logs")) brokenTree after.files [r] := by
  obtain ⟨modules, -, assets, -⟩ := @errors_logged dawn .nan "data" "gen" "assets" "logs" none
    { files := brokenTree } [brokenFile] wellFormed_brokenTree sheetsDiffer_brokenTree scanning_broken
  obtain ⟨u, unopened⟩ := opening_broken
  refine ⟨wellFormed_brokenTree, sheetsDiffer_brokenTree, scanning_broken, ?_, ?_⟩
  · obtain ⟨report, after, ran, writable⟩ := generate_broken
    obtain ⟨seen, becomes, -, logged⟩ := modules report after ran writable
    cases becomes with
    | @cons _ own _ _ first rest =>
      cases rest
      obtain ⟨result, lost⟩ := own
      obtain ⟨opened, opens, own⟩ := first
      rw [unopened] at opens
      cases opens
      cases own
      exact ⟨report, after, ran, writable, _, logged⟩
  · obtain ⟨report, after, ran, writable⟩ := exportAll_broken
    obtain ⟨seen, becomes, -, logged⟩ := assets report after ran writable
    cases becomes with
    | @cons _ own _ _ first rest =>
      cases rest
      obtain ⟨result, lost⟩ := own
      obtain ⟨opened, opens, own⟩ := first
      rw [unopened] at opens
      cases opens
      cases own
      exact ⟨report, after, ran, writable, _, logged⟩

end Run

end TypedSheets

import TypedSheets.Proofs.Runs.Interruptions
import TypedSheets.Proofs.Runs.SecondRuns

/-!
# How runs end

A run over schema files ends with a report that has an outcome for each of them, whatever the sheets, the
cells and the names are. Otherwise it is interrupted by an integer without decimal text or by a null
character in its settings, or, when modules are generated, by a registry that the system refuses.
-/

namespace TypedSheets.Run

open TypedSheets.Emission TypedSheets.Grid TypedSheets.Schema TypedSheets.Text FileTree

/-- A file that is there can be opened, or it is said why not. -/
theorem exists_opening {t : FileTree} {p : Path} (there : t.isFile? p = .ok true) :
    ∃ opened, opening t p = .ok opened := by
  obtain ⟨noNull, at_, located, found⟩ := isFile?_eq_true.mp there
  obtain ⟨content, file⟩ := Option.ne_none_iff_exists'.mp found
  have some : t.exists? p = .ok true := by
    rw [exists?, holds, if_neg (by simp [noNull]), status, located]
    simp only [fileAt?_eq_some.mp file]
  have held : t.read p = .ok content := read_eq noNull located file
  obtain ⟨read, known⟩ : ∃ read, SchemaFile.reading t p = .ok read := by
    unfold SchemaFile.reading SchemaFile.read
    rw [Job.answer_bind (Job.isQuestion_ask _), Job.answer_ask, some]
    dsimp only [Except.mapError]
    rw [if_pos rfl, Job.answer_bind (Job.isQuestion_ask _).attempt, Job.answer_attempt, Job.answer_ask, held]
    dsimp only [Except.mapError]
    cases SchemaFile.decode content with
    | ok sheets => exact ⟨_, rfl⟩
    | error cause => exact ⟨_, rfl⟩
  rw [opening, known]
  cases read with
  | error text => exact ⟨_, rfl⟩
  | ok w =>
    dsimp only
    cases checkSchemaName w.name with
    | ok _ => exact ⟨_, rfl⟩
    | error e => exact ⟨_, rfl⟩

section Files

variable {reported : Path → Except Unopened Workbook → FileOutcome → Prop} {oversized : Workbook → Prop}
  {places : List Path} {t : FileTree} {clock : Clock} {target : Destination} {before after : Workspace}

/-- Files that are worked on one after another: as what is written leaves schema files alone, each comes
to what it would by itself. -/
theorem filesEnd_of_eachFile {work : Path → Job FileResult} {paths : List Path}
    (same : ∀ p ∈ paths, ∀ u, Grows t u → SchemaFile.reading u p = SchemaFile.reading t p)
    (opens : ∀ p ∈ paths, ∃ opened, opening t p = .ok opened)
    (each : ∀ (p : Path) (opened : Except Unopened Workbook) (before after : Workspace)
      (outcome : Except Failure FileResult), opening before.files p = .ok opened →
      work p before = (outcome, after) → Grows before.files after.files ∧
        FilesEnd reported oversized places before.files [p] (outcome.map fun r => [r.outcome]))
    (grows : Grows t before.files) {outcome : Except Failure (List FileResult)}
    (ran : eachFile work paths before = (outcome, after)) :
    FilesEnd reported oversized places t paths (outcome.map (List.map FileResult.outcome)) := by
  induction paths generalizing before outcome with
  | nil =>
    cases ran
    exact .reported [] .nil
  | cons p rest inductionHypothesis =>
    have alike := opening_congr (same p List.mem_cons_self before.files grows)
    obtain ⟨opened, known⟩ := opens p List.mem_cons_self
    rw [eachFile, Job.run_bind] at ran
    cases own : work p before with
    | mk result middle =>
      obtain ⟨further, ends⟩ := each p opened before middle result (alike.trans known) own
      have first := ends.congr alike
      rw [own] at ran
      cases result with
      | error e =>
        cases ran
        exact first.interrupted
      | ok r =>
        obtain ⟨others, later, rfl⟩ := Job.bind_pure_eq ran
        have behind := inductionHypothesis
          (fun q member => same q (List.mem_cons_of_mem p member))
          (fun q member => opens q (List.mem_cons_of_mem p member)) (grows.trans further) later
        have all := first.cons behind
        cases others <;> exact all

/-- A registry that is not written ends the run: the system refuses it, or there is a null character on
the code root. -/
theorem writeRegistry_error {entries : List RegistryEntry} (split : IsSplit target.codeRoot) {e : Failure}
    (ran : writeRegistry target entries before = (.error e, after)) :
    (∃ cause : Failure, cause.isSystem = true ∧ e = .processing ("failed to write registry " ++
      target.registryPath.text ++ ": " ++ cause.message)) ∨
    hasNull target.code = true ∧ ∃ making, e = .file (.embeddedNull making) := by
  have null : hasNull (registryArtifact target entries).path = hasNull target.code := by
    rw [registryArtifact, registryPath_eq]
    exact GeneratedModule.hasNull_path target (by rintro _ ⟨⟩) (by rintro _ ⟨⟩)
  unfold writeRegistry at ran
  split at ran
  · cases ran
  · dsimp only at ran
    rw [Job.run_bind, Job.run_attempt] at ran
    cases wrote : writeArtifact (registryArtifact target entries) before with
    | mk result middle =>
      rw [wrote] at ran
      cases result with
      | ok written => cases ran
      | error cause =>
        have blames := blames_of_unwritten (isProduct_registryArtifact split entries) null wrote
        dsimp only at ran
        split at ran
        · next system =>
          cases ran
          exact .inl ⟨cause, system, rfl⟩
        · next other =>
          cases ran
          exact .inr (blames.resolve_left other)

/-- A log that ends the run has a null character on its path. -/
theorem flush_error {logs : Path} {records : List ErrorRecord} (product : IsProduct (logFile clock logs))
    {e : Failure} (ran : flush clock logs records before = (.error e, after)) :
    hasNull (logFile clock logs) = true ∧ ∃ making, e = .file (.embeddedNull making) := by
  rw [run_flush] at ran
  split at ran
  · cases ran
  · split at ran
    · cases ran
    · next appending =>
      split at ran
      · cases ran
      · next other =>
        cases ran
        have cause := appendAll_error product appending
        obtain ⟨fault, rfl⟩ := appendAll_failsInFiles _ _ _ _ _ appending
        refine ⟨Bool.not_eq_false _ ▸ fun free => other (cause.mpr free), ?_⟩
        cases fault with
        | system fault path => exact absurd rfl other
        | embeddedNull making => exact ⟨making, rfl⟩

end Files

section Started

variable {moment : Calendar.DateTime} {elapsed : Number.Double} {source code asset logs : String}
  {project : Option String} {before : Workspace} {paths : List Path}

/-- The schema files of a scan can be opened, or it is said why not. -/
theorem exists_opening_of_scanning {t : FileTree} {directory : Path} (wellFormed : WellFormed t)
    (scanned : SchemaFile.scanning t directory = .ok paths) :
    ∀ p ∈ paths, ∃ opened, opening t p = .ok opened := by
  obtain ⟨names, rfl, lists, -⟩ := listsSchemaFiles_of_scanning wellFormed scanned
  intro p member
  obtain ⟨name, listed, rfl⟩ := List.mem_map.mp member
  exact exists_opening ((lists.complete name).mp listed).2.2

/-- A run ends as its work does, unless there is a null character on the path of its log. -/
theorem wholeRun_ends {β : Type} {source : Path} {greeting : List Path → String} {work : List Path → Job β}
    {records : β → List ErrorRecord} {after : Workspace} {outcome : Except Failure β}
    (scanned : SchemaFile.scanning before.files source = .ok paths)
    (ran : wholeRun (.startingAt moment elapsed) source (.ofText logs) greeting work records before =
      (outcome, after)) :
    (∃ logged worked, logged.files = before.files ∧ work paths logged = (outcome, worked)) ∨
      hasNull (.ofText logs) = true ∧ ∃ making, outcome = .error (.file (.embeddedNull making)) := by
  cases outcome with
  | ok b =>
    obtain ⟨found, logged, worked, scan, kept, works, -⟩ := wholeRun_ok ran
    rw [scanned] at scan
    cases scan
    exact .inl ⟨logged, worked, kept, works⟩
  | error e =>
    obtain ⟨logged, kept, failed | ⟨b, worked, flushing⟩⟩ := wholeRun_error scanned ran
    · exact .inl ⟨logged, after, kept, failed⟩
    · obtain ⟨has, making, rfl⟩ := flush_error (isProduct_startedLog moment elapsed logs) flushing
      rw [hasNull_startedLog] at has
      exact .inr ⟨has, making, rfl⟩

/-- A run that generates modules reports each of its schema files, unless it is interrupted by an integer
or a null character, or by its registry. -/
theorem generate_ends (wellFormed : WellFormed before.files)
    (scanned : SchemaFile.scanning before.files (.ofText source) = .ok paths) :
    let target : Destination := { code := .ofText code, asset := .ofText asset, project }
    let outcome := (generate (.startingAt moment elapsed) (.ofText source) target (.ofText logs) before).1
    FilesEnd (ModulesReported target) HasUnwritableEnums [.ofText code, .ofText logs] before.files paths
      (outcome.map Report.files) ∨
    ∃ cause : Failure, cause.isSystem = true ∧ outcome = .error (.processing
      ("failed to write registry " ++ target.registryPath.text ++ ": " ++ cause.message)) := by
  intro target outcome
  obtain ⟨_, _, _, same⟩ := listsSchemaFiles_of_scanning wellFormed scanned
  have split : IsSplit target.codeRoot := isSplit_root code
  cases ran : generate (.startingAt moment elapsed) (.ofText source) target (.ofText logs) before with
  | mk result after =>
    have known : outcome = result := congrArg Prod.fst ran
    rw [known]
    rw [generate_eq] at ran
    obtain ⟨worked, whole, rfl⟩ := Job.bind_pure_eq ran
    rcases wholeRun_ends scanned whole with ⟨logged, last, kept, works⟩ | ⟨has, making, rfl⟩
    · rw [generateAll, Job.run_bind] at works
      cases each : eachFile (generateFile (.startingAt moment elapsed) target) paths logged with
      | mk results middle =>
        have ends : FilesEnd (ModulesReported target) HasUnwritableEnums [.ofText code, .ofText logs]
            before.files paths (results.map (List.map FileResult.outcome)) :=
          filesEnd_of_eachFile same (exists_opening_of_scanning wellFormed scanned)
            (fun p opened _ _ _ opens own => filesEnd_of_generateFile split List.mem_cons_self opens own)
            (by rw [kept]; exact .refl _) each
        rw [each] at works
        cases results with
        | error e =>
          cases works
          exact .inl ends
        | ok results =>
          obtain ⟨registered, registering, rfl⟩ := Job.bind_pure_eq works
          cases registered with
          | ok shared => exact .inl ends
          | error e =>
            rcases writeRegistry_error split registering with ⟨cause, system, rfl⟩ | ⟨has, making, rfl⟩
            · exact .inr ⟨cause, system, rfl⟩
            · exact .inl (.null _ List.mem_cons_self has making)
    · exact .inl (.null _ (List.mem_cons_of_mem _ List.mem_cons_self) has making)

/-- So does a run that exports, which writes no registry. -/
theorem exportAll_ends (wellFormed : WellFormed before.files)
    (scanned : SchemaFile.scanning before.files (.ofText source) = .ok paths) :
    let root : Path := (Path.ofText asset).child rootDirectory
    FilesEnd (AssetsReported root) HasUnwritableRecords [root, .ofText logs] before.files paths
      ((exportAll (.startingAt moment elapsed) (.ofText source) (.ofText asset) (.ofText logs) before).1.map
        Report.files) := by
  intro root
  obtain ⟨_, _, _, same⟩ := listsSchemaFiles_of_scanning wellFormed scanned
  cases ran : exportAll (.startingAt moment elapsed) (.ofText source) (.ofText asset) (.ofText logs)
    before with
  | mk result after =>
    rw [exportAll_eq] at ran
    obtain ⟨worked, whole, rfl⟩ := Job.bind_pure_eq ran
    rcases wholeRun_ends scanned whole with ⟨logged, last, kept, works⟩ | ⟨has, making, rfl⟩
    · have ends : FilesEnd (AssetsReported root) HasUnwritableRecords [root, .ofText logs] before.files
          paths (worked.map (List.map FileResult.outcome)) :=
        filesEnd_of_eachFile same (exists_opening_of_scanning wellFormed scanned)
          (fun p opened _ _ _ opens own =>
            filesEnd_of_exportFile (isSplit_root asset) List.mem_cons_self opens own)
          (by rw [kept]; exact .refl _) works
      cases worked <;> exact ends
    · exact .null _ (List.mem_cons_of_mem _ List.mem_cons_self) has making

/-- How the runs end: whatever is in a schema file, the run reports it and goes on to the next, with an
outcome for each of its sheets, unless a member of one of its enumerations has no decimal text. Apart from
that, a null character in the settings ends a run, and a registry that cannot be written. -/
theorem runs_end (wellFormed : WellFormed before.files)
    (scanned : SchemaFile.scanning before.files (.ofText source) = .ok paths) :
    let target : Destination := { code := .ofText code, asset := .ofText asset, project }
    let root : Path := (Path.ofText asset).child rootDirectory
    let generated := (generate (.startingAt moment elapsed) (.ofText source) target (.ofText logs) before).1
    let exported :=
      (exportAll (.startingAt moment elapsed) (.ofText source) (.ofText asset) (.ofText logs) before).1
    (FilesEnd (ModulesReported target) HasUnwritableEnums [.ofText code, .ofText logs] before.files paths
        (generated.map Report.files) ∨
      ∃ cause : Failure, cause.isSystem = true ∧ generated = .error (.processing
        ("failed to write registry " ++ target.registryPath.text ++ ": " ++ cause.message))) ∧
    FilesEnd (AssetsReported root) HasUnwritableRecords [root, .ofText logs] before.files paths
      (exported.map Report.files) ∧
    ∀ w, HasUnwritableEnums w ∨ HasUnwritableRecords w → EnumsOversized w := by
  refine ⟨generate_ends wellFormed scanned, exportAll_ends wellFormed scanned, ?_⟩
  rintro w (⟨-, long⟩ | ⟨d, described, long⟩)
  · exact long
  · exact enumsOversized_of_records described long

end Started

/-- Both runs over the workbook with a sheet of weapons report its file. -/
theorem runs_end_armory :
    WellFormed armoryTree ∧ SchemaFile.scanning armoryTree (.ofText "data") = .ok [armoryFile] ∧
    (∃ report opened f, (generate (.startingAt dawn .nan) (.ofText "data") armoryTarget (.ofText "logs")
      { files := armoryTree }).1 = .ok report ∧ report.files = [f] ∧
      opening armoryTree armoryFile = .ok opened ∧ ModulesReported armoryTarget armoryFile opened f) ∧
    ∃ report opened f, (exportAll (.startingAt dawn .nan) (.ofText "data") (.ofText "assets")
      (.ofText "logs") { files := armoryTree }).1 = .ok report ∧ report.files = [f] ∧
      opening armoryTree armoryFile = .ok opened ∧
      AssetsReported ((Path.ofText "assets").child rootDirectory) armoryFile opened f := by
  obtain ⟨modules, assets, -⟩ := @runs_end dawn .nan "data" "gen" "assets" "logs" none
    { files := armoryTree } [armoryFile] wellFormed_armoryTree scanning_armory
  refine ⟨wellFormed_armoryTree, scanning_armory, ?_, ?_⟩
  · obtain ⟨report, after, ran, -⟩ := generate_armory dawn .nan
    have ran := congrArg Prod.fst ran
    rw [armoryTarget] at ran
    rcases modules with ends | ⟨cause, -, failed⟩
    · rw [ran] at ends
      obtain ⟨f, opened, files, opens, own⟩ := ends.reported_of_single
      exact ⟨report, opened, f, ran, files, opens, own⟩
    · cases ran.symm.trans failed
  · obtain ⟨report, after, ran, -⟩ := exportAll_armory dawn .nan
    have ran := congrArg Prod.fst ran
    rw [ran] at assets
    obtain ⟨f, opened, files, opens, own⟩ := assets.reported_of_single
    exact ⟨report, opened, f, ran, files, opens, own⟩

end TypedSheets.Run

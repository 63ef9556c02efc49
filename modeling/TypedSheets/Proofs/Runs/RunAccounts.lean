import TypedSheets.CommandLine
import TypedSheets.Proofs.Runs.FileAccounts
import TypedSheets.Proofs.Runs.LoggedErrors

/-!
# The accounts of a run

The counts of a report, the records of the log and the exit code are made independently of each other.
As long as the work on no file is given up they agree with what the schema files hold.
-/

namespace TypedSheets.Run

open TypedSheets.Emission TypedSheets.Grid TypedSheets.Schema TypedSheets.Text FileTree

/-- The accounts of a run: what is counted over its files, and the records of each of them. -/
structure Accounts (y : Yield) (t : FileTree) (paths : List Path) (report : Report)
    (groups : List (List ErrorRecord)) : Prop where
  files : List.Forall₂ (fun p f => f.path = p ∧
    f.status = if y.fileFails (workbookAt? t p) then .failed else .success) paths report.files
  total : report.tally.successFiles + report.tally.failedFiles = paths.length
  failedFiles : report.tally.failedFiles = (paths.countP fun p => y.fileFails (workbookAt? t p) : Nat)
  failedSheets : report.tally.failedSheets =
    ((paths.map fun p => (y.failing (workbookAt? t p)).length).sum : Nat)
  records : report.tally.records =
    ((paths.filterMap (workbookAt? t)).map fun w => (y.records w : Int)).sum
  logged : List.Forall₂ (fun p group =>
    (group.map fun record => (record.file, record.sheet)).Perm (y.culprits p (workbookAt? t p))) paths groups
  hasFailures : report.tally.hasFailures = true ↔ groups.flatten ≠ []

section Totals

variable {y : Yield} {t : FileTree} {paths : List Path} {results : List FileResult}
  {shared : List Written}

/-- What the files that can be opened contribute. -/
theorem sum_opened {α : Type} [AddMonoid α] (n : Workbook → α) (paths : List Path) :
    (paths.map fun p => ((workbookAt? t p).map n).getD 0).sum =
      ((paths.filterMap (workbookAt? t)).map n).sum := by
  induction paths with
  | nil => rfl
  | cons p rest inductionHypothesis =>
    rw [List.map_cons, List.sum_cons, inductionHypothesis]
    cases opened : workbookAt? t p with
    | none =>
      rw [List.filterMap_cons_none opened]
      exact zero_add _
    | some w =>
      rw [List.filterMap_cons_some opened, List.map_cons, List.sum_cons]
      rfl

theorem flatMap_opened {α : Type} (parts : Workbook → List α) (paths : List Path) :
    (paths.flatMap fun p => ((workbookAt? t p).map parts).getD []) =
      (paths.filterMap (workbookAt? t)).flatMap parts := by
  induction paths with
  | nil => rfl
  | cons p rest inductionHypothesis =>
    rw [List.flatMap_cons, inductionHypothesis]
    cases opened : workbookAt? t p with
    | none =>
      rw [List.filterMap_cons_none opened]
      rfl
    | some w =>
      rw [List.filterMap_cons_some opened, List.flatMap_cons]
      rfl

/-- Every artifact has one of the three statuses. -/
theorem countStatus_total (written : List Written) :
    countStatus .generated written + countStatus .updated written + countStatus .skipped written =
      written.length := by
  induction written with
  | nil => rfl
  | cons w rest inductionHypothesis =>
    simp only [countStatus, List.countP_cons, List.length_cons] at inductionHypothesis ⊢
    cases w.status <;> simp <;> omega

/-- Nothing is recorded exactly when no file fails. -/
theorem flatten_eq_nil_iff {groups : List (List ErrorRecord)}
    (logged : List.Forall₂ (fun p group =>
      (group.map fun record => (record.file, record.sheet)).Perm (y.culprits p (workbookAt? t p)))
      paths groups) :
    groups.flatten = [] ↔ (paths.countP fun p => y.fileFails (workbookAt? t p)) = 0 := by
  induction logged with
  | nil => exact iff_of_true rfl rfl
  | @cons p group _ _ own _ inductionHypothesis =>
    have first : group = [] ↔ y.fileFails (workbookAt? t p) = false := by
      rw [← Bool.not_eq_true, ← y.culprits_ne_nil p, not_not, ← List.map_eq_nil_iff]
      constructor
      · intro none
        rw [none] at own
        exact own.nil_eq.symm
      · intro none
        rw [none] at own
        exact own.eq_nil
    rw [List.flatten_cons, List.append_eq_nil_iff, inductionHypothesis, first, List.countP_cons]
    cases y.fileFails (workbookAt? t p) <;> simp

/-- A sheet that fails is one of a file that fails. -/
theorem countP_fileFails_pos (some : 0 < (paths.map fun p => (y.failing (workbookAt? t p)).length).sum) :
    0 < paths.countP fun p => y.fileFails (workbookAt? t p) := by
  obtain ⟨n, member, positive⟩ := List.sum_pos_iff_exists_pos_nat.mp some
  obtain ⟨p, among, rfl⟩ := List.mem_map.mp member
  apply List.countP_pos_iff.mpr
  refine ⟨p, among, ?_⟩
  cases opened : workbookAt? t p with
  | none => rfl
  | some w =>
    rw [opened, Yield.failing, List.length_filter_pos_iff] at positive
    obtain ⟨s, inside, fails⟩ := positive
    exact List.any_eq_true.mpr ⟨s, inside, fails⟩

/-- The settled files that fail, and those that do not, are as many as are known to. -/
theorem countP_status_of_settles
    (each : List.Forall₂ (fun p r => y.Settles p (workbookAt? t p) r) paths results) :
    (results.map FileResult.outcome).countP (fun f => f.status == .failed) =
        paths.countP (fun p => y.fileFails (workbookAt? t p)) ∧
      (results.map FileResult.outcome).countP (fun f => f.status == .success) =
        paths.countP fun p => ¬y.fileFails (workbookAt? t p) := by
  have statuses : (results.map FileResult.outcome).map FileOutcome.status =
      paths.map fun p => if y.fileFails (workbookAt? t p) then .failed else .success := by
    rw [List.map_map]
    exact map_of_forall₂ each fun p r own => own.status
  have counts (status : FileStatus) : (results.map FileResult.outcome).countP (fun f => f.status == status) =
      paths.countP fun p => (if y.fileFails (workbookAt? t p) then .failed else .success) == status := by
    have both := congrArg (List.countP (· == status)) statuses
    rw [List.countP_map, List.countP_map, List.countP_map] at both
    rw [List.countP_map]
    exact both
  rw [counts, counts]
  constructor
  · apply List.countP_congr
    intro p _
    cases y.fileFails (workbookAt? t p) <;> decide
  · apply List.countP_congr
    intro p _
    cases y.fileFails (workbookAt? t p) <;> decide

/-- The sheets of settled files that fail are as many as are known to. -/
theorem failedSheets_of_settles
    (each : List.Forall₂ (fun p r => y.Settles p (workbookAt? t p) r) paths results) :
    (results.map FileResult.outcome).foldl (fun total f => total + f.failedSheets) 0 =
      (paths.map fun p => (y.failing (workbookAt? t p)).length).sum := by
  have sheets : results.map (fun r => r.outcome.failedSheets) =
      paths.map fun p => (y.failing (workbookAt? t p)).length :=
    map_of_forall₂ each fun p r own => own.failedSheets
  rw [← sheets, List.sum_eq_foldl, List.foldl_map, List.foldl_map]

/-- The settled files have the records of their workbooks. -/
theorem records_of_settles
    (each : List.Forall₂ (fun p r => y.Settles p (workbookAt? t p) r) paths results) :
    (results.map FileResult.outcome).foldl (fun total f => total + f.records) (0 : Int) =
      ((paths.filterMap (workbookAt? t)).map fun w => (y.records w : Int)).sum := by
  have records : results.map (fun r => r.outcome.records) =
      paths.map fun p => ((workbookAt? t p).map fun w => (y.records w : Int)).getD 0 :=
    map_of_forall₂ each fun p r own => own.records
  rw [← sum_opened, ← records, List.sum_eq_foldl, List.foldl_map, List.foldl_map]

/-- A run over settled files has failures exactly when one of them fails. -/
theorem hasFailures_of_settles
    (each : List.Forall₂ (fun p r => y.Settles p (workbookAt? t p) r) paths results) :
    (Report.tally ⟨results.map FileResult.outcome, shared⟩).hasFailures = true ↔
      (paths.countP fun p => y.fileFails (workbookAt? t p)) ≠ 0 := by
  have counts : (Report.tally ⟨results.map FileResult.outcome, shared⟩).hasFailures =
      (decide (0 < paths.countP fun p => y.fileFails (workbookAt? t p)) ||
        decide (0 < (paths.map fun p => (y.failing (workbookAt? t p)).length).sum)) := by
    rw [← (countP_status_of_settles each).1, ← failedSheets_of_settles each]
    simp [Tally.hasFailures, Report.tally]
  rw [counts, Bool.or_eq_true, decide_eq_true_eq, decide_eq_true_eq]
  constructor
  · rintro (files | sheets)
    · exact files.ne'
    · exact (countP_fileFails_pos sheets).ne'
  · intro some
    exact .inl (Nat.pos_of_ne_zero some)

/-- Files that are settled have the accounts of their run. -/
theorem accounts_of_settles
    (each : List.Forall₂ (fun p r => y.Settles p (workbookAt? t p) r) paths results) :
    Accounts y t paths ⟨results.map FileResult.outcome, shared⟩ (results.map FileResult.records) := by
  obtain ⟨failed, succeeded⟩ := countP_status_of_settles each
  have logged : List.Forall₂ (fun p group =>
      (group.map fun record => (record.file, record.sheet)).Perm (y.culprits p (workbookAt? t p))) paths
      (results.map FileResult.records) := by
    rw [List.forall₂_map_right_iff]
    exact each.imp fun p r own => own.logged
  refine ⟨?_, ?_, congrArg Nat.cast failed, congrArg Nat.cast (failedSheets_of_settles each),
    records_of_settles each, logged, ?_⟩
  · rw [List.forall₂_map_right_iff]
    exact each.imp fun p r own => ⟨own.path, own.status⟩
  · rw [List.length_eq_countP_add_countP (fun p => y.fileFails (workbookAt? t p)), ← failed, ← succeeded]
    exact (Int.add_comm _ _).trans (Nat.cast_add _ _).symm
  · rw [Ne, flatten_eq_nil_iff logged]
    exact hasFailures_of_settles each

/-- So do their artifacts add up, with those that belong to no single file. -/
theorem artifacts_of_settles
    (each : List.Forall₂ (fun p r => y.Settles p (workbookAt? t p) r) paths results) {report : Report}
    (same : report = ⟨results.map FileResult.outcome, shared⟩) :
    report.tally.generated + report.tally.updated + report.tally.skipped =
      (((paths.filterMap (workbookAt? t)).map y.artifacts).sum + shared.length : Nat) := by
  have artifacts : results.map (fun r => r.outcome.allArtifacts.length) =
      paths.map fun p => ((workbookAt? t p).map y.artifacts).getD 0 :=
    map_of_forall₂ each fun p r own => own.artifacts
  have length : report.artifacts.length =
      ((paths.filterMap (workbookAt? t)).map y.artifacts).sum + shared.length := by
    rw [same, Report.artifacts, List.length_append, List.flatMap_map, List.length_flatMap, artifacts,
      sum_opened]
  have total := countStatus_total report.artifacts
  rw [← length, ← total]
  simp [Report.tally]

end Totals

section Modules

/-- What some workbooks give: three modules for each accepted sheet, and two for each workbook with one. -/
theorem sum_modules (ws : List Workbook) :
    (ws.map modulesYield.artifacts).sum =
      3 * (ws.map fun w => (accepted w).length).sum + 2 * ws.countP fun w => !(accepted w).isEmpty := by
  induction ws with
  | nil => rfl
  | cons w rest inductionHypothesis =>
    have own : modulesYield.artifacts w =
        3 * (accepted w).length + 2 * if (accepted w).isEmpty then 0 else 1 := rfl
    rw [List.map_cons, List.sum_cons, inductionHypothesis, List.map_cons, List.sum_cons, List.countP_cons, own]
    cases (accepted w).isEmpty with
    | true =>
      simp only [if_true, Bool.not_true, Bool.false_eq_true, if_false]
      omega
    | false =>
      simp only [if_true, Bool.not_false, Bool.false_eq_true, if_false]
      omega

/-- The registry takes in sheets when some workbook has an accepted one. -/
theorem isEmpty_entries (ws : List Workbook) :
    (ws.flatMap registryEntries).isEmpty = !ws.any fun w => !(accepted w).isEmpty := by
  induction ws with
  | nil => rfl
  | cons w rest inductionHypothesis =>
    rw [List.flatMap_cons, List.any_cons, Bool.not_or, ← inductionHypothesis, registryEntries]
    cases accepted w <;> rfl

end Modules

section Codes

open CommandLine

variable {clock : Clock} {s : Settings} {r : Request} {before after : Workspace} {report : Report}

/-- The exit code of a command whose run ends with a report tells whether anything was recorded. -/
theorem code_of_report {run : Job Report} (ran : run before = (.ok report, after)) {y : Yield}
    {t : FileTree} {paths : List Path} {groups : List (List ErrorRecord)}
    (accounts : Accounts y t paths report groups) :
    (guarded (run >>= conclude clock) before).1 =
      .ok (if groups.flatten = [] then exitSuccess else exitPartial) := by
  have code : (guarded (run >>= conclude clock) before).1 =
      .ok (if report.tally.hasFailures then exitPartial else exitSuccess) := by
    rw [guarded, Job.run_bind, Job.run_attempt, Job.run_bind, ran]
    rfl
  rw [code]
  by_cases none : groups.flatten = []
  · rw [if_pos none, if_neg (fun failed => accounts.hasFailures.mp failed none)]
  · rw [if_neg none, if_pos (accounts.hasFailures.mpr none)]

theorem perform_generate (command : r.command = .generate) :
    perform clock r s =
      generate clock (.ofText s.source) s.destination (.ofText s.logs) >>= conclude clock := by
  rw [perform, command]

theorem perform_export (command : r.command = .export_) :
    perform clock r s =
      exportAll clock (.ofText s.source) (.ofText s.asset) (.ofText s.logs) >>= conclude clock := by
  rw [perform, command]

end Codes

section Started

variable {moment : Calendar.DateTime} {elapsed : Number.Double} {s : Settings} {before : Workspace}
  {paths : List Path}

/-- The accounts of a run that generates modules. -/
theorem accounts_of_generate {t : FileTree} {clock : Clock} {target : Destination}
    {seen : List (FileResult × List Written)} {shared : List Written}
    (becomes : List.Forall₂ (Becomes t (Generates clock target)) paths seen)
    (registry : shared.map Written.path = if (seen.flatMap fun own => own.1.entries).isEmpty then []
      else [GeneratedModule.registry.path target])
    (finished : ∀ own ∈ seen, ¬own.1.outcome.WriteFailed) {report : Report}
    (same : report = ⟨seen.map fun own => own.1.outcome, shared⟩) :
    Accounts modulesYield t paths report (seen.map fun own => own.1.records) ∧
      report.tally.generated + report.tally.updated + report.tally.skipped =
        (3 * ((paths.filterMap (workbookAt? t)).map fun w => (accepted w).length).sum +
          2 * ((paths.filterMap (workbookAt? t)).countP fun w => !(accepted w).isEmpty) +
          if (paths.filterMap (workbookAt? t)).any fun w => !(accepted w).isEmpty then 1 else 0 : Nat) := by
  have each : List.Forall₂ (fun p r => modulesYield.Settles p (workbookAt? t p) r) paths
      (seen.map Prod.fst) := by
    rw [List.forall₂_map_right_iff]
    exact forall₂_imp_of_mem becomes fun p own member becomes =>
      settles_of_generates becomes (finished own member)
  have entries : (seen.flatMap fun own => own.1.entries) =
      (paths.filterMap (workbookAt? t)).flatMap registryEntries := by
    have own := forall₂_imp_of_mem becomes fun p own member becomes =>
      entries_of_generates becomes (finished own member)
    rw [← flatMap_opened]
    exact congrArg List.flatten (map_of_forall₂ own fun _ _ same => same)
  have outcomes : seen.map (fun own => own.1.outcome) = (seen.map Prod.fst).map FileResult.outcome :=
    List.map_map.symm
  rw [outcomes] at same
  refine ⟨?_, ?_⟩
  · have accounts : Accounts modulesYield t paths ⟨(seen.map Prod.fst).map FileResult.outcome, shared⟩ _ :=
      accounts_of_settles each
    rw [← same, List.map_map] at accounts
    exact accounts
  · rw [artifacts_of_settles each same, sum_modules]
    have length := congrArg List.length registry
    rw [List.length_map, entries, isEmpty_entries] at length
    rw [length]
    cases (paths.filterMap (workbookAt? t)).any fun w => !(accepted w).isEmpty <;> rfl

/-- The accounts of a run agree with what its schema files hold, as long as the work on no file is given
up: its counts, the records of its log, and the exit code. -/
theorem run_accounts (wellFormed : WellFormed before.files)
    (distinct : SheetsDiffer before.files (.ofText s.source))
    (scanned : SchemaFile.scanning before.files (.ofText s.source) = .ok paths) :
    (∀ report after, generate (.startingAt moment elapsed) (.ofText s.source) s.destination
        (.ofText s.logs) before = (.ok report, after) →
      (∀ f ∈ report.files, ¬f.WriteFailed) →
      ∃ groups, Accounts modulesYield before.files paths report groups ∧
        report.tally.records = 0 ∧
        report.tally.generated + report.tally.updated + report.tally.skipped =
          (3 * ((paths.filterMap (workbookAt? before.files)).map fun w => (accepted w).length).sum +
            2 * ((paths.filterMap (workbookAt? before.files)).countP fun w => !(accepted w).isEmpty) +
            if (paths.filterMap (workbookAt? before.files)).any fun w => !(accepted w).isEmpty then 1
              else 0 : Nat) ∧
        (IsWritable after.files (logFile (.startingAt moment elapsed) (.ofText s.logs)) →
          Logged (logFile (.startingAt moment elapsed) (.ofText s.logs)) before.files after.files
            groups.flatten) ∧
        ∀ r : CommandLine.Request, r.command = .generate →
          (CommandLine.guarded (CommandLine.perform (.startingAt moment elapsed) r s) before).1 =
            .ok (if groups.flatten = [] then CommandLine.exitSuccess else CommandLine.exitPartial)) ∧
    (∀ report after, exportAll (.startingAt moment elapsed) (.ofText s.source) (.ofText s.asset)
        (.ofText s.logs) before = (.ok report, after) →
      (∀ f ∈ report.files, ¬f.AssetFailed) →
      ∃ groups, Accounts assetsYield before.files paths report groups ∧
        report.tally.generated + report.tally.updated + report.tally.skipped =
          (((paths.filterMap (workbookAt? before.files)).map fun w => (exportable w).length).sum : Nat) ∧
        (IsWritable after.files (logFile (.startingAt moment elapsed) (.ofText s.logs)) →
          Logged (logFile (.startingAt moment elapsed) (.ofText s.logs)) before.files after.files
            groups.flatten) ∧
        ∀ r : CommandLine.Request, r.command = .export_ →
          (CommandLine.guarded (CommandLine.perform (.startingAt moment elapsed) r s) before).1 =
            .ok (if groups.flatten = [] then CommandLine.exitSuccess else CommandLine.exitPartial)) := by
  constructor
  · intro report after ran finished
    obtain ⟨seen, shared, becomes, same, registry, logged⟩ := seen_of_generate wellFormed distinct scanned ran
    have settled : ∀ own ∈ seen, ¬own.1.outcome.WriteFailed := by
      intro own member
      apply finished
      rw [same]
      exact List.mem_map_of_mem member
    obtain ⟨accounts, artifacts⟩ := accounts_of_generate becomes registry settled same
    refine ⟨_, accounts, ?_, artifacts, ?_, ?_⟩
    · rw [accounts.records]
      exact List.sum_eq_zero fun n member => by
        obtain ⟨w, -, rfl⟩ := List.mem_map.mp member
        rfl
    · rw [← List.flatMap_def]
      exact logged
    · intro r command
      rw [perform_generate command]
      exact code_of_report ran accounts
  · intro report after ran finished
    obtain ⟨seen, becomes, same, logged⟩ := seen_of_exportAll wellFormed distinct scanned ran
    have each : List.Forall₂ (fun p r => assetsYield.Settles p (workbookAt? before.files p) r) paths
        (seen.map Prod.fst) := by
      rw [List.forall₂_map_right_iff]
      apply forall₂_imp_of_mem becomes
      intro p own member becomes
      apply settles_of_exportsTo becomes
      apply finished
      rw [same]
      exact List.mem_map_of_mem member
    have outcomes : seen.map (fun own => own.1.outcome) = (seen.map Prod.fst).map FileResult.outcome :=
      List.map_map.symm
    rw [outcomes] at same
    have accounts : Accounts assetsYield before.files paths
        ⟨(seen.map Prod.fst).map FileResult.outcome, []⟩ _ := accounts_of_settles each
    rw [← same] at accounts
    refine ⟨_, accounts, artifacts_of_settles each same, ?_, ?_⟩
    · rw [List.map_map, ← List.flatMap_def]
      exact logged
    · intro r command
      rw [perform_export command]
      exact code_of_report ran accounts

end Started

/-- The settings of a run on the workbook with a sheet of weapons. -/
def armorySettings : Settings := { source := "data", code := "gen", asset := "assets", logs := "logs" }

theorem isRefused_armory : armory.sheets.map (isRefused armory) = [false, true] := by
  have names : armory.name = "Armory" ∧ armory.sheets = [weaponSheet, kindSheet] := ⟨rfl, rfl⟩
  rw [names.2, List.map_cons, List.map_cons, isRefused, isRefused, collectEnums_armory, names.1,
    interpretIn_weaponSheet]
  rfl

theorem workbookAt?_armory : workbookAt? armoryTree armoryFile = some armory := by
  rw [workbookAt?, reading_armory]
  rfl

theorem opened_armory : [armoryFile].filterMap (workbookAt? armoryTree) = [armory] := by
  rw [List.filterMap_cons_some workbookAt?_armory]
  rfl

/-- One sheet of the workbook is refused, so its file fails. -/
theorem failed_armory : modulesYield.fileFails (workbookAt? armoryTree armoryFile) = true ∧
    (modulesYield.failing (workbookAt? armoryTree armoryFile)).length = 1 := by
  rw [workbookAt?_armory, Yield.fileFails, Yield.failing, ← List.countP_eq_length_filter]
  have any := congrArg (List.any · id) isRefused_armory
  have count := congrArg (List.countP id) isRefused_armory
  rw [List.any_map] at any
  rw [List.countP_map] at count
  exact ⟨any, count⟩

theorem exportable_armory : exportable armory = [weaponDescription] := by
  rw [exportable, accepted_armory]
  rfl

/-- One sheet of the workbook is accepted and the other one refused: six modules, one asset with one record,
one record in the log, and the exit code for something that failed. -/
theorem run_accounts_armory :
    WellFormed armoryTree ∧ SheetsDiffer armoryTree (.ofText "data") ∧
    SchemaFile.scanning armoryTree (.ofText "data") = .ok [armoryFile] ∧
    (∃ report after groups,
      generate (.startingAt dawn .nan) (.ofText "data") armorySettings.destination (.ofText "logs")
        { files := armoryTree } = (.ok report, after) ∧
      (∀ f ∈ report.files, ¬f.WriteFailed) ∧
      Accounts modulesYield armoryTree [armoryFile] report groups ∧
      report.tally.generated + report.tally.updated + report.tally.skipped = 6 ∧
      report.tally.failedFiles = 1 ∧ report.tally.failedSheets = 1 ∧ groups.flatten ≠ []) ∧
    ∃ report after groups,
      exportAll (.startingAt dawn .nan) (.ofText "data") (.ofText "assets") (.ofText "logs")
        { files := armoryTree } = (.ok report, after) ∧
      (∀ f ∈ report.files, ¬f.AssetFailed) ∧
      Accounts assetsYield armoryTree [armoryFile] report groups ∧
      report.tally.generated + report.tally.updated + report.tally.skipped = 1 ∧
      report.tally.records = 1 := by
  obtain ⟨modules, assets⟩ := @run_accounts dawn .nan armorySettings { files := armoryTree } [armoryFile]
    wellFormed_armoryTree sheetsDiffer_armoryTree scanning_armory
  refine ⟨wellFormed_armoryTree, sheetsDiffer_armoryTree, scanning_armory, ?_, ?_⟩
  · obtain ⟨report, after, ran, finished⟩ := generate_armory dawn .nan
    obtain ⟨groups, accounts, -, artifacts, -⟩ := modules report after ran finished
    have one : [armoryFile].countP (fun p => modulesYield.fileFails (workbookAt? armoryTree p)) = 1 := by
      rw [List.countP_singleton, if_pos failed_armory.1]
    refine ⟨report, after, groups, ran, finished, accounts, ?_, ?_, ?_, ?_⟩
    · rw [artifacts, opened_armory, List.map_singleton, List.countP_singleton, List.any_cons, accepted_armory]
      rfl
    · rw [accounts.failedFiles, one]
      rfl
    · rw [accounts.failedSheets, List.map_singleton, failed_armory.2]
      rfl
    · rw [Ne, flatten_eq_nil_iff accounts.logged, one]
      exact one_ne_zero
  · obtain ⟨report, after, ran, finished⟩ := exportAll_armory dawn .nan
    obtain ⟨groups, accounts, artifacts, -⟩ := assets report after ran finished
    refine ⟨report, after, groups, ran, finished, accounts, ?_, ?_⟩
    · rw [artifacts, opened_armory, List.map_singleton, exportable_armory]
      rfl
    · rw [accounts.records, opened_armory, List.map_singleton, assetsYield]
      dsimp only
      rw [exportable_armory]
      rfl

end TypedSheets.Run

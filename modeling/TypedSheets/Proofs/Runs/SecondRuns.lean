import TypedSheets.Proofs.Files.AssetRoundTrip
import TypedSheets.Proofs.RelatedLists
import TypedSheets.Proofs.Runs.GeneratedTrees
import TypedSheets.Proofs.Runs.RepeatedExports

/-!
# Runs that are repeated

A run that is repeated in the tree that it left scans the same files and passes over everything it has
written; what failed fails again. It changes no file but its own log, whatever failed the first time.
-/

namespace TypedSheets

open TypedSheets.Emission TypedSheets.Grid TypedSheets.Number TypedSheets.Schema TypedSheets.Text FileTree

/-- What comes of a run that is repeated in the tree that it left. -/
structure Repeated (log : Path) (first again : Report) (before after : FileTree) : Prop where
  files : List.Forall₂ SameFile first.files again.files
  /-- The same artifacts in the same order, all passed over. -/
  artifacts : again.artifacts = first.artifacts.map Written.skipped
  sheets : again.files.flatMap FileOutcome.sheets =
    (first.files.flatMap FileOutcome.sheets).map SheetOutcome.skipped
  successFiles : again.tally.successFiles = first.tally.successFiles
  failedFiles : again.tally.failedFiles = first.tally.failedFiles
  failedSheets : again.tally.failedSheets = first.tally.failedSheets
  records : again.tally.records = first.tally.records
  unchanged : ∀ at_, after.locate log ≠ .ok at_ → after.fileAt? at_ = before.fileAt? at_

section Reports

variable {first again : FileOutcome} {files others : List FileOutcome}

theorem SameFile.allArtifacts (same : SameFile first again) :
    again.allArtifacts = first.allArtifacts.map Written.skipped := by
  rw [FileOutcome.allArtifacts, FileOutcome.allArtifacts, same.artifacts, same.sheets, List.map_append,
    List.flatMap_map, List.map_flatMap]
  rfl

theorem SameFile.failedSheets (same : SameFile first again) : again.failedSheets = first.failedSheets := by
  rw [FileOutcome.failedSheets, same.sheets, countP_skipped]
  rfl

theorem SameFile.records (same : SameFile first again) : again.records = first.records := by
  rw [FileOutcome.records, same.sheets, List.foldl_map]
  rfl

/-- A run whose files are seen to again is repeated. -/
theorem repeated_of_sameFiles {shared : List Written} {log : Path} {before after : FileTree}
    (same : List.Forall₂ SameFile files others)
    (unchanged : ∀ at_, after.locate log ≠ .ok at_ → after.fileAt? at_ = before.fileAt? at_) :
    Repeated log ⟨files, shared⟩ ⟨others, shared.map Written.skipped⟩ before after := by
  have statuses : others.map FileOutcome.status = files.map FileOutcome.status :=
    map_of_forall₂ same fun _ _ own => own.status
  have count (status : FileStatus) : others.countP (fun f => f.status == status) =
      files.countP fun f => f.status == status := by
    have counts := congrArg (List.countP (· == status)) statuses
    rw [List.countP_map, List.countP_map] at counts
    exact counts
  have sheets : others.map FileOutcome.failedSheets = files.map FileOutcome.failedSheets :=
    map_of_forall₂ same fun _ _ own => own.failedSheets
  have records : others.map FileOutcome.records = files.map FileOutcome.records :=
    map_of_forall₂ same fun _ _ own => own.records
  have artifacts : others.map FileOutcome.allArtifacts =
      files.map fun f => f.allArtifacts.map Written.skipped :=
    map_of_forall₂ same fun _ _ own => own.allArtifacts
  have outcomes : others.map FileOutcome.sheets =
      files.map fun f => f.sheets.map SheetOutcome.skipped :=
    map_of_forall₂ same fun _ _ own => own.sheets
  refine ⟨same, ?_, ?_, ?_, ?_, ?_, ?_, unchanged⟩
  · rw [Report.artifacts, Report.artifacts, List.map_append, List.map_flatMap, List.flatMap, artifacts]
    rfl
  · rw [List.map_flatMap, List.flatMap, outcomes]
    rfl
  · exact congrArg Nat.cast (count .success)
  · exact congrArg Nat.cast (count .failed)
  · have totals := congrArg (List.foldl (· + ·) 0) sheets
    rw [List.foldl_map, List.foldl_map] at totals
    exact congrArg Nat.cast totals
  · have totals := congrArg (List.foldl (· + ·) 0) records
    rw [List.foldl_map, List.foldl_map] at totals
    exact totals

end Reports

namespace Run

/-- A run: it scans a directory, works on the files and writes its log. -/
def wholeRun {β : Type} (clock : Clock) (source logs : Path) (greeting : List Path → String)
    (work : List Path → Job β) (records : β → List ErrorRecord) : Job β := do
  let paths ← SchemaFile.scanSource source
  Job.log .info (greeting paths)
  let b ← work paths
  flush clock logs (records b)
  pure b

/-- The part of a run that writes modules. -/
def generateAll (clock : Clock) (target : Destination) (paths : List Path) :
    Job (List FileResult × List Written) := do
  let files ← eachFile (generateFile clock target) paths
  let shared ← writeRegistry target (files.flatMap FileResult.entries)
  pure (files, shared)

theorem generate_eq (clock : Clock) (source : Path) (target : Destination) (logs : Path) :
    generate clock source target logs = (do
      let (files, shared) ← wholeRun clock source logs
        (fun paths => "Generating from " ++ integerText paths.length ++ " schema file(s) in " ++
          source.text) (generateAll clock target) fun b => b.1.flatMap FileResult.records
      pure { files := files.map FileResult.outcome, shared }) := by
  simp only [generate, wholeRun, generateAll, bind_assoc, pure_bind]

theorem exportAll_eq (clock : Clock) (source asset logs : Path) :
    exportAll clock source asset logs = (do
      let files ← wholeRun clock source logs
        (fun paths => "Exporting " ++ integerText paths.length ++ " schema file(s) from " ++
          source.text) (eachFile (exportFile clock (asset.child rootDirectory)))
        (List.flatMap FileResult.records)
      pure { files := files.map FileResult.outcome }) := by
  simp only [exportAll, wholeRun, bind_assoc, pure_bind]

/-- A run is repeated when its work is, at paths apart from its log. -/
theorem wholeRun_again {β : Type} {clock another : Clock} {source logs : Path}
    {greeting : List Path → String} {work again : List Path → Job β} {records : β → List ErrorRecord}
    {agree : β → β → Prop} {places : List Path} {paths : List Path} {before after w : Workspace} {b : β}
    (wellFormed : WellFormed before.files) (room : SchemaFile.HasRoom source)
    (scanned : SchemaFile.scanning before.files source = .ok paths)
    (repeats : Repeats before.files places (work paths) (again paths) agree)
    (apart : ∀ p ∈ places, Apart p (logFile clock logs))
    (lengths : ∀ a b, agree a b → (records b).length = (records a).length)
    (product : IsProduct (logFile clock logs)) (productAgain : IsProduct (logFile another logs))
    (null : hasNull (logFile another logs) = hasNull (logFile clock logs))
    (ran : wholeRun clock source logs greeting work records before = (.ok b, after))
    (resumed : w.files = after.files) :
    ∃ c last, wholeRun another source logs greeting again records w = (.ok c, last) ∧ agree b c ∧
      ∀ at_, last.files.locate (logFile another logs) ≠ .ok at_ →
        last.files.fileAt? at_ = after.files.fileAt? at_ := by
  obtain ⟨found, _, scan, ran⟩ := Job.bind_ok ran
  rw [SchemaFile.run_scanSource, scanned] at scan
  cases scan
  obtain ⟨_, logged, logging, ran⟩ := Job.bind_ok ran
  have kept : logged.files = before.files := (Job.keepsFiles_log _ _).eq logging
  obtain ⟨_, worked, works, ran⟩ := Job.bind_ok ran
  obtain ⟨_, _, flushing, ended⟩ := Job.bind_ok ran
  cases ended
  have begins : Grows before.files logged.files := by
    rw [kept]
    exact .refl _
  obtain ⟨changes, repetition⟩ := repeats logged _ worked begins works
  obtain ⟨grows, same⟩ := flush_frame product flushing
  have scannedAgain : SchemaFile.scanning w.files source = .ok paths := by
    rw [resumed]
    exact SchemaFile.scanning_grows wellFormed ((begins.trans changes.grows).trans grows) room scanned
  have keptLater : KeptAt places worked.files after.files := by
    intro p member at_ located
    apply same
    intro onLog
    have here := locate_kept grows.directories p at_ located
    exact apart p member after.files at_ at_ here onLog rfl
  rw [← resumed] at grows keptLater
  obtain ⟨_, between, worksAgain, nothing, alike⟩ :=
    repetition (w.emit (.line ⟨.info, greeting paths⟩)) grows keptLater
  cases alike with
  | @ok _ c agreed =>
    have flushes := (flush_ok_iff product worked).mp ⟨after, flushing⟩
    obtain ⟨last, flushingAgain⟩ : ∃ last, flush another logs (records c) between = (.ok (), last) := by
      apply (flush_ok_iff productAgain between).mpr
      rw [null, ← List.length_eq_zero_iff, lengths b c agreed, List.length_eq_zero_iff]
      exact flushes
    obtain ⟨-, sameAgain⟩ := flush_frame productAgain flushingAgain
    refine ⟨c, last, ?_, agreed, ?_⟩
    · rw [wholeRun, Job.run_bind, SchemaFile.run_scanSource, scannedAgain]
      dsimp only
      rw [Job.run_bind, Job.run_log]
      dsimp only
      rw [Job.run_bind, worksAgain]
      dsimp only
      rw [Job.run_bind, flushingAgain]
      rfl
    · intro at_ elsewhere
      rw [sameAgain at_ elsewhere, nothing.others at_ fun _ member => absurd member List.not_mem_nil,
        ← resumed]
      rfl

/-- Refused sheets of the workbooks in a source directory have names short enough for a record. -/
def RefusedFit (t : FileTree) (directory : Path) (target : Destination) : Prop :=
  ∀ name, SchemaFile.isName name = true → '/' ∉ name.toList →
    t.isFile? (directory.child name) = .ok true →
    ∀ w, SchemaFile.reading t (directory.child name) = .ok (.ok w) → ∀ sheet ∈ w.sheets, ∀ e,
      interpretIn w.name (collectEnums w) sheet = .error e → Fits (target.recordPath w.name sheet.name)

/-- What the workbooks of some files give, file by file. -/
theorem flatMap_workbooks {t : FileTree} {places : Option Workbook → List Path}
    (nothing : places none = []) (paths : List Path) :
    (paths.flatMap fun p => places (workbookAt? t p)) =
      ((workbooks t paths).map Prod.snd).flatMap fun w => places (some w) := by
  induction paths with
  | nil => rfl
  | cons p rest inductionHypothesis =>
    rw [List.flatMap_cons, inductionHypothesis]
    cases found : workbookAt? t p with
    | none =>
      have skipped : workbooks t (p :: rest) = workbooks t rest :=
        List.filterMap_cons_none (by rw [found]; rfl)
      rw [skipped, nothing, List.nil_append]
    | some w =>
      have listed : workbooks t (p :: rest) = (p, w) :: workbooks t rest :=
        List.filterMap_cons_some (by rw [found]; rfl)
      rw [listed, List.map_cons, List.flatMap_cons]

/-- What a run knows of the files it has found. -/
structure Found (t : FileTree) (source : Path) (paths : List Path) : Prop where
  same : ∀ p ∈ paths, ∀ u, Grows t u → SchemaFile.reading u p = SchemaFile.reading t p
  distinct : ∀ p ∈ paths, ∀ w, workbookAt? t p = some w → w.sheetNames.Nodup
  names : (((workbooks t paths).map Prod.snd).map Workbook.name).Nodup
  schema : ∀ p ∈ paths, ∃ name, p = source.child name ∧ SchemaFile.isName name = true ∧
    '/' ∉ name.toList ∧ t.isFile? (source.child name) = .ok true

theorem found_of_scanning {t : FileTree} {source : Path} {paths : List Path} (wellFormed : WellFormed t)
    (differ : SheetsDiffer t source) (scanned : SchemaFile.scanning t source = .ok paths) :
    Found t source paths := by
  obtain ⟨names, rfl, lists, same⟩ := listsSchemaFiles_of_scanning wellFormed scanned
  have schema : ∀ p ∈ names.map source.child, ∃ name, p = source.child name ∧
      SchemaFile.isName name = true ∧ '/' ∉ name.toList ∧ t.isFile? (source.child name) = .ok true := by
    intro p member
    obtain ⟨name, listed, rfl⟩ := List.mem_map.mp member
    exact ⟨name, rfl, (lists.complete name).mp listed⟩
  refine ⟨same, ?_, nodup_workbooks lists, schema⟩
  intro p member w opened
  obtain ⟨name, rfl, isName, noSlash, isFile⟩ := schema p member
  exact differ name isName noSlash isFile w (reading_of_workbookAt? opened)

theorem Found.workbook {t : FileTree} {source : Path} {paths : List Path} (found : Found t source paths)
    {w : Workbook} (member : w ∈ (workbooks t paths).map Prod.snd) :
    isIdentifier w.name = true ∧ w.sheetNames.Nodup := by
  obtain ⟨listed, among, rfl⟩ := List.mem_map.mp member
  obtain ⟨own, opened⟩ := mem_workbooks among
  exact ⟨(named_of_workbookAt? opened).1, found.distinct _ own _ opened⟩

/-- A run that ends with a result has scanned its source directory. -/
theorem scanned_of_wholeRun {β : Type} {clock : Clock} {source logs : Path}
    {greeting : List Path → String} {work : List Path → Job β} {records : β → List ErrorRecord}
    {before after : Workspace} {b : β}
    (ran : wholeRun clock source logs greeting work records before = (.ok b, after)) :
    ∃ paths, SchemaFile.scanning before.files source = .ok paths := by
  obtain ⟨paths, _, scan, -⟩ := Job.bind_ok ran
  rw [SchemaFile.run_scanSource] at scan
  exact ⟨paths, (Prod.mk.inj scan).1⟩

section Whole

variable {t : FileTree} {source root : Path} {paths : List Path} {clock another : Clock}
  {target : Destination}

/-- Where the modules of some files and the registry lie. -/
def modulePlaces (target : Destination) (t : FileTree) (paths : List Path) : List Path :=
  (paths.flatMap fun p => modulesAt target (workbookAt? t p)) ++ [GeneratedModule.registry.path target]

theorem modulePlaces_eq (target : Destination) (t : FileTree) (paths : List Path) :
    modulePlaces target t paths =
      (runModules ((workbooks t paths).map Prod.snd)).map (GeneratedModule.path target) := by
  rw [modulePlaces, flatMap_workbooks rfl, runModules, List.map_append, List.map_flatMap]
  rfl

/-- The part of a run that writes modules. -/
theorem repeats_generateAll (found : Found t source paths) (split : IsSplit target.codeRoot)
    (fits : RefusedFit t source target) :
    Repeats t (modulePlaces target t paths) (generateAll clock target paths)
      (generateAll another target paths)
      fun first again => List.Forall₂ SameResult first.1 again.1 ∧
        again.2 = first.2.map Written.skipped := by
  have apart : (modulePlaces target t paths).Pairwise Apart := by
    rw [modulePlaces_eq]
    exact apart_runModules target found.names (fun w member => (found.workbook member).2)
      fun w member => (found.workbook member).1
  obtain ⟨early, -, across⟩ := List.pairwise_append.mp apart
  have files : Repeats t (paths.flatMap fun p => modulesAt target (workbookAt? t p))
      (eachFile (generateFile clock target) paths) (eachFile (generateFile another target) paths)
      (List.Forall₂ SameResult) := by
    apply repeats_eachFile early
    intro p member
    apply repeats_generateFile split (found.same p member) (found.distinct p member)
    intro w opened sheet among e refused
    obtain ⟨name, rfl, isName, noSlash, isFile⟩ := found.schema p member
    exact fits name isName noSlash isFile w (reading_of_workbookAt? opened) sheet among e refused
  apply files.bind _ across
  intro results resultsAgain same
  have entries : resultsAgain.flatMap FileResult.entries = results.flatMap FileResult.entries :=
    congrArg List.flatten (map_of_forall₂ same fun _ _ own => own.entries)
  rw [entries]
  apply (repeats_writeRegistry split).bind_last
  rintro shared _ rfl
  exact .pure ⟨same, rfl⟩

theorem modulePlaces_apart (found : Found t source paths) (noSlash : '/' ∉ clock.stamp.toList)
    (logs : Path) : ∀ p ∈ modulePlaces target t paths, Apart p (logFile clock logs) := by
  rw [modulePlaces_eq]
  intro p member
  obtain ⟨m, listed, rfl⟩ := List.mem_map.mp member
  have named := (named_runModules (fun w among => (found.workbook among).1) listed).1
  exact module_apart_log named noSlash logs

theorem assetPlaces_apart (found : Found t source paths) (noSlash : '/' ∉ clock.stamp.toList)
    (logs : Path) : ∀ p ∈ paths.flatMap fun p => assetsAt root (workbookAt? t p),
      Apart p (logFile clock logs) := by
  rw [flatMap_workbooks rfl]
  intro p member
  obtain ⟨w, among, listed⟩ := List.mem_flatMap.mp member
  obtain ⟨d, described, rfl⟩ := List.mem_map.mp listed
  obtain ⟨-, schema, sheet⟩ := named_of_accepted_of_name (found.workbook among).1 described
  obtain ⟨path, components⟩ := assetPath_below root schema sheet
  have last : (assetPath root d.schema d.sheet).parts.getLast? = some (d.sheet ++ "." ++ "asset") := by
    rw [path, Path.below, assetFile, List.getLast?_append, List.getLast?_cons_cons, List.getLast?_singleton,
      Option.some_or]
  have down := (components _ (List.mem_cons_of_mem _ List.mem_cons_self)).down
  exact logFile_apart noSlash last down (by decide : "asset".toList.getLast? = some 't') (by decide)

/-- The part of a run that writes assets. -/
theorem repeats_exportFiles (found : Found t source paths) (split : IsSplit root) :
    Repeats t (paths.flatMap fun p => assetsAt root (workbookAt? t p))
      (eachFile (exportFile clock root) paths) (eachFile (exportFile another root) paths)
      (List.Forall₂ SameResult) := by
  apply repeats_eachFile
  · rw [flatMap_workbooks rfl]
    exact apart_assets root found.names (fun w member => (found.workbook member).2)
      fun w member => (found.workbook member).1
  · intro p member
    exact repeats_exportFile split (found.same p member) (found.distinct p member)

end Whole

/-- Files that are seen to again have as many records, and their outcomes are seen to again. -/
theorem length_records {results others : List FileResult} (same : List.Forall₂ SameResult results others) :
    (others.flatMap FileResult.records).length = (results.flatMap FileResult.records).length := by
  rw [List.length_flatMap, List.length_flatMap]
  exact congrArg List.sum (map_of_forall₂ same fun _ _ own => own.records)

theorem sameFiles_of_results {results others : List FileResult}
    (same : List.Forall₂ SameResult results others) :
    List.Forall₂ SameFile (results.map FileResult.outcome) (others.map FileResult.outcome) := by
  rw [List.forall₂_map_left_iff, List.forall₂_map_right_iff]
  exact same.imp fun _ _ own => own.outcome

/-- A run that is repeated in the tree that it left passes over what it has written, fails where it
failed, and changes no file but its log. -/
theorem runs_repeat {moment again : Calendar.DateTime} {elapsed taken : Number.Double}
    {source code asset logs : String} {project : Option String} {before after w : Workspace}
    {report : Report} (wellFormed : WellFormed before.files)
    (distinct : SheetsDiffer before.files (.ofText source))
    (room : SchemaFile.HasRoom (.ofText source)) (resumed : w.files = after.files) :
    (RefusedFit before.files (.ofText source)
        { code := .ofText code, asset := .ofText asset, project } →
      generate (.startingAt moment elapsed) (.ofText source)
        { code := .ofText code, asset := .ofText asset, project } (.ofText logs) before =
          (.ok report, after) →
      ∃ second last, generate (.startingAt again taken) (.ofText source)
        { code := .ofText code, asset := .ofText asset, project } (.ofText logs) w =
          (.ok second, last) ∧
        Repeated (logFile (.startingAt again taken) (.ofText logs)) report second after.files
          last.files) ∧
    (exportAll (.startingAt moment elapsed) (.ofText source) (.ofText asset) (.ofText logs) before =
        (.ok report, after) →
      ∃ second last, exportAll (.startingAt again taken) (.ofText source) (.ofText asset)
          (.ofText logs) w = (.ok second, last) ∧
        Repeated (logFile (.startingAt again taken) (.ofText logs)) report second after.files
          last.files) := by
  have noSlash (moment : Calendar.DateTime) (elapsed : Number.Double) :
      '/' ∉ (Clock.startingAt moment elapsed).stamp.toList :=
    not_mem_stamp moment elapsed (by decide) (by decide)
  have noNull (moment : Calendar.DateTime) (elapsed : Number.Double) :
      '\x00' ∉ (Clock.startingAt moment elapsed).stamp.toList :=
    not_mem_stamp moment elapsed (by decide) (by decide)
  have product (moment : Calendar.DateTime) (elapsed : Number.Double) :
      IsProduct (logFile (.startingAt moment elapsed) (.ofText logs)) :=
    isProduct_logFile (isSplit_ofText logs) (noSlash moment elapsed) (noNull moment elapsed)
  have null : hasNull (logFile (.startingAt again taken) (.ofText logs)) =
      hasNull (logFile (.startingAt moment elapsed) (.ofText logs)) := by
    rw [hasNull_logFile (noSlash again taken) (noNull again taken),
      hasNull_logFile (noSlash moment elapsed) (noNull moment elapsed)]
  constructor
  · intro fits ran
    rw [generate_eq] at ran ⊢
    obtain ⟨⟨files, shared⟩, _, whole, ended⟩ := Job.bind_ok ran
    cases ended
    obtain ⟨paths, scanned⟩ := scanned_of_wholeRun whole
    have found := found_of_scanning wellFormed distinct scanned
    have split : IsSplit (Destination.codeRoot
      { code := .ofText code, asset := .ofText asset, project }) := isSplit_root code
    obtain ⟨⟨others, _⟩, last, wholeAgain, ⟨same, rfl⟩, unchanged⟩ := wholeRun_again wellFormed room scanned
      (repeats_generateAll found split fits)
      (modulePlaces_apart found (noSlash moment elapsed) (.ofText logs))
      (fun _ _ agreed => length_records agreed.1) (product moment elapsed) (product again taken) null whole
      resumed
    refine ⟨_, last, ?_, repeated_of_sameFiles (sameFiles_of_results same) unchanged⟩
    rw [Job.run_bind, wholeAgain]
    rfl
  · intro ran
    rw [exportAll_eq] at ran ⊢
    obtain ⟨files, _, whole, ended⟩ := Job.bind_ok ran
    cases ended
    obtain ⟨paths, scanned⟩ := scanned_of_wholeRun whole
    have found := found_of_scanning wellFormed distinct scanned
    obtain ⟨others, last, wholeAgain, same, unchanged⟩ := wholeRun_again wellFormed room scanned
      (repeats_exportFiles found (isSplit_root asset))
      (assetPlaces_apart found (noSlash moment elapsed) (.ofText logs))
      (fun _ _ agreed => length_records agreed) (product moment elapsed) (product again taken) null whole
      resumed
    have repeated : Repeated (logFile (.startingAt again taken) (.ofText logs))
        ⟨files.map FileResult.outcome, []⟩ ⟨others.map FileResult.outcome, []⟩ after.files last.files :=
      repeated_of_sameFiles (sameFiles_of_results same) unchanged
    refine ⟨_, last, ?_, repeated⟩
    rw [Job.run_bind, wholeAgain]
    rfl

theorem refusedFit_armoryTree : RefusedFit armoryTree (.ofText "data") armoryTarget := by
  have fits : ∀ sheet ∈ armory.sheets, Fits (armoryTarget.recordPath armory.name sheet.name) := by
    decide +kernel
  intro name schema noSlash isFile w read sheet among _ _
  rw [eq_armory schema noSlash isFile read] at among ⊢
  exact fits sheet among

/-- The asset of the accepted sheet can be written over. -/
theorem exportSheet_armory {w : Workspace} (there : w.files.isFile?
      (assetPath ((Path.ofText "assets").child rootDirectory) "Armory" "Weapon") = .ok true) :
    ∃ done after, exportSheet ((Path.ofText "assets").child rootDirectory) weaponDescription w =
      (.ok done, after) := by
  have built : buildRecords weaponDescription = .ok [[("id", .int 7), ("kind", .int 1)]] := rfl
  have isSheet : IsSheet "Weapon" ["id", "kind"] [[("id", .int 7), ("kind", .int 1)]] := by
    have short {n : Int} (few : n.natAbs < 10) : n.natAbs < 10 ^ digitLimit :=
      Nat.lt_of_lt_of_le few (Nat.le_self_pow (by decide) 10)
    refine ⟨by decide, by decide, by decide, ?_⟩
    intro entries present
    obtain rfl := List.mem_singleton.mp present
    refine ⟨rfl, ?_⟩
    intro entry member
    simp only [List.mem_cons, List.not_mem_nil, or_false] at member
    rcases member with rfl | rfl
    · exact .int 7 (short (by decide))
    · exact .int 1 (short (by decide))
  obtain ⟨text, content, -⟩ := readAsset_sheetAsset isSheet
  have own : (sheetAsset weaponDescription.sheet [[("id", .int 7), ("kind", .int 1)]]).text = .ok text :=
    content
  have product : IsProduct (assetPath ((Path.ofText "assets").child rootDirectory)
      weaponDescription.schema weaponDescription.sheet) :=
    isProduct_assetPath (isSplit_root "assets") (by decide) (by decide)
  obtain ⟨written, after, wrote⟩ : ∃ written after, writeArtifact
      ⟨assetPath ((Path.ofText "assets").child rootDirectory) weaponDescription.schema
        weaponDescription.sheet, text⟩ w = (.ok written, after) := writeArtifact_of_isFile product there
  rw [exportSheet, built, Job.run_bind, Job.run_ofExcept]
  dsimp only
  rw [Job.run_bind, Job.run_ofExcept, own]
  dsimp only [Except.mapError]
  rw [Job.run_bind, wrote]
  exact ⟨_, _, rfl⟩

/-- Issues can always be recorded. -/
theorem run_noteAll (clock : Clock) (file : String) (issues : List Issue) (w : Workspace) :
    ∃ records after, noteAll clock file issues w = (.ok records, after) := by
  induction issues generalizing w with
  | nil => exact ⟨[], w, rfl⟩
  | cons i rest inductionHypothesis =>
    obtain ⟨records, after, ran⟩ := inductionHypothesis (w.emit (.line ⟨.error, i.kind.code ++ ": " ++ i.text⟩))
    rw [noteAll, Job.run_bind, run_note]
    dsimp only
    rw [Job.run_bind, ran]
    exact ⟨_, _, rfl⟩

theorem exportWorkbook_armory {w : Workspace} (there : w.files.isFile?
      (assetPath ((Path.ofText "assets").child rootDirectory) "Armory" "Weapon") = .ok true)
    (selection : Option (List String)) (selected : isSelected selection "Weapon" = true) :
    ∃ exported after, exportWorkbook armory ((Path.ofText "assets").child rootDirectory) selection w =
      (.ok exported, after) := by
  obtain ⟨done, after, wrote⟩ := @exportSheet_armory
    { w with console := w.console ++ (interpretationLog armory).map .line } there
  have chosen : [weaponDescription].filter (fun d => isSelected selection d.sheet) = [weaponDescription] :=
    List.filter_cons_of_pos selected
  rw [exportWorkbook, accepted_armory, chosen]
  simp only [Job.run_bind, Job.run_logAll, exportSheets, Job.run_attempt, wrote, Job.run_pure]
  exact ⟨_, _, rfl⟩

/-- Exporting the workbook. -/
theorem exportAll_armory (moment : Calendar.DateTime) (elapsed : Number.Double) :
    ∃ report after, exportAll (.startingAt moment elapsed) (.ofText "data") (.ofText "assets")
      (.ofText "logs") { files := armoryTree } = (.ok report, after) ∧
        ∀ f ∈ report.files, ¬f.AssetFailed := by
  have free : hasNull (logFile (.startingAt moment elapsed) (.ofText "logs")) = false := by
    rw [hasNull_startedLog]
    decide
  have opened : opening armoryTree armoryFile = .ok (.ok armory) := by
    rw [← workbookAt?_eq_some, workbookAt?, reading_armory]
    rfl
  obtain ⟨logged, kept, logging⟩ : ∃ logged, logged.files = armoryTree ∧ Job.log .info
      ("Exporting " ++ integerText [armoryFile].length ++ " schema file(s) from " ++
        (Path.ofText "data").text) { files := armoryTree } = (.ok (), logged) := ⟨_, rfl, rfl⟩
  obtain ⟨exported, middle, ran⟩ := exportWorkbook_armory (by rw [kept]; decide +kernel) none rfl
  obtain ⟨records, noted, noting⟩ :=
    run_noteAll (.startingAt moment elapsed) armory.name exported.issues middle
  have file : exportFile (.startingAt moment elapsed) ((Path.ofText "assets").child rootDirectory)
      armoryFile logged = (.ok ⟨.ofSheets armoryFile exported.sheets [], records, []⟩, noted) := by
    rw [exportFile, Job.run_bind, run_openFile, kept, opened]
    dsimp only
    rw [Job.run_bind, Job.run_attempt, ran]
    dsimp only
    rw [Job.run_bind, noting]
    rfl
  obtain ⟨flushed, flushing⟩ : ∃ last, flush (.startingAt moment elapsed) (.ofText "logs")
      ([⟨.ofSheets armoryFile exported.sheets [], records, []⟩].flatMap FileResult.records) noted =
        (.ok (), last) :=
    (flush_ok_iff (isProduct_startedLog moment elapsed "logs") noted).mpr (.inr free)
  refine ⟨⟨[.ofSheets armoryFile exported.sheets []], []⟩, flushed, ?_, ?_⟩
  swap
  · intro f member
    rw [List.mem_singleton.mp member]
    exact not_assetFailed_ofSheets armoryFile exported.sheets []
  rw [exportAll, Job.run_bind, SchemaFile.run_scanSource, scanning_armory]
  dsimp only
  rw [Job.run_bind, logging]
  dsimp only
  rw [Job.run_bind, eachFile, Job.run_bind, file]
  dsimp only
  rw [eachFile, Job.run_bind, Job.run_pure]
  dsimp only
  rw [Job.run_pure]
  dsimp only
  rw [Job.run_bind, flushing]
  rfl

/-- Running twice on the workbook. -/
theorem runs_repeat_armory :
    WellFormed armoryTree ∧ SheetsDiffer armoryTree (.ofText "data") ∧
    SchemaFile.HasRoom (.ofText "data") ∧ RefusedFit armoryTree (.ofText "data") armoryTarget ∧
    (∃ first second middle after last, middle.files = after.files ∧
      generate (.startingAt dawn .nan) (.ofText "data") armoryTarget (.ofText "logs")
        { files := armoryTree } = (.ok first, after) ∧
      generate (.startingAt dawn .nan) (.ofText "data") armoryTarget (.ofText "logs") middle =
        (.ok second, last) ∧
      Repeated (logFile (.startingAt dawn .nan) (.ofText "logs")) first second after.files last.files) ∧
    ∃ first second middle after last, middle.files = after.files ∧
      exportAll (.startingAt dawn .nan) (.ofText "data") (.ofText "assets") (.ofText "logs")
        { files := armoryTree } = (.ok first, after) ∧
      exportAll (.startingAt dawn .nan) (.ofText "data") (.ofText "assets") (.ofText "logs") middle =
        (.ok second, last) ∧
      Repeated (logFile (.startingAt dawn .nan) (.ofText "logs")) first second after.files last.files := by
  have room : SchemaFile.HasRoom (.ofText "data") := by decide
  refine ⟨wellFormed_armoryTree, sheetsDiffer_armoryTree, room, refusedFit_armoryTree, ?_, ?_⟩
  · obtain ⟨first, after, ran, -⟩ := generate_armory dawn .nan
    obtain ⟨repeats, -⟩ := @runs_repeat dawn dawn .nan .nan "data" "gen" "assets" "logs" none
      { files := armoryTree } after after first wellFormed_armoryTree sheetsDiffer_armoryTree room rfl
    obtain ⟨second, last, ranAgain, repeated⟩ := repeats refusedFit_armoryTree ran
    exact ⟨first, second, after, after, last, rfl, ran, ranAgain, repeated⟩
  · obtain ⟨first, after, ran, -⟩ := exportAll_armory dawn .nan
    obtain ⟨-, repeats⟩ := @runs_repeat dawn dawn .nan .nan "data" "gen" "assets" "logs" none
      { files := armoryTree } after after first wellFormed_armoryTree sheetsDiffer_armoryTree room rfl
    obtain ⟨second, last, ranAgain, repeated⟩ := repeats ran
    exact ⟨first, second, after, after, last, rfl, ran, ranAgain, repeated⟩

end Run

end TypedSheets

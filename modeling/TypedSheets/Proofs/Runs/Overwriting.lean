import TypedSheets.Proofs.Number.DigitRuns
import TypedSheets.Proofs.Runs.ErrorLogs
import TypedSheets.Proofs.Runs.FinishedFiles

/-!
# Writing over what is there

Where every module of a workbook is a file already nothing can go wrong with writing them, whatever
the files hold, and where the names of refused sheets are not too long it can be told whether modules
of theirs are left. So a run that renders its modules anew ends well, and no failed write ends the work
on a file.
-/

namespace TypedSheets.Run

open TypedSheets.Emission TypedSheets.Grid TypedSheets.Number TypedSheets.Schema TypedSheets.Text FileTree

variable {clock : Clock} {target : Destination} {w : Workspace}

/-- Files that are there can all be written over. -/
theorem writeArtifacts_of_isFile {artifacts : List Artifact}
    (products : ∀ a ∈ artifacts, IsProduct a.path)
    (there : ∀ a ∈ artifacts, w.files.isFile? a.path = .ok true) :
    ∃ written after, writeArtifacts artifacts w = (.ok written, after) := by
  induction artifacts generalizing w with
  | nil => exact ⟨[], w, rfl⟩
  | cons a rest inductionHypothesis =>
    have product := products a List.mem_cons_self
    obtain ⟨first, middle, own⟩ := writeArtifact_of_isFile product (there a List.mem_cons_self)
    have grows := writeArtifact_grows product own
    obtain ⟨others, last, later⟩ := inductionHypothesis
      (fun b member => products b (List.mem_cons_of_mem a member))
      (fun b member => grows.isFile (there b (List.mem_cons_of_mem a member)))
    refine ⟨first :: others, last, ?_⟩
    rw [writeArtifacts, Job.run_bind, own]
    dsimp only
    rw [Job.run_bind, later]
    rfl

/-- Whether modules of a refused sheet are left can be told when the path of its record fits. -/
theorem run_warnIfStale {schema sheet : String} (fits : Fits (target.recordPath schema sheet))
    (w : Workspace) : ∃ console, warnIfStale target schema sheet w = (.ok (), { w with console }) := by
  obtain ⟨yes, there⟩ := holds_of_fits fits w.files fun _ => true
  unfold warnIfStale
  rw [Job.run_bind, Job.run_ask, exists?, there]
  cases yes with
  | true => exact ⟨_, rfl⟩
  | false => exact ⟨w.console, rfl⟩

/-- Sheets whose modules are there are all seen to. -/
theorem generateSheets_of_isFile {schema : String}
    {outcomes : List (String × Except ShapeError Description)} {work : FileWork}
    (products : ∀ d ∈ described outcomes, ∀ a ∈ sheetArtifacts target d, IsProduct a.path)
    (there : ∀ d ∈ described outcomes, ∀ a ∈ sheetArtifacts target d,
      w.files.isFile? a.path = .ok true)
    (fits : ∀ sheet e, (sheet, .error e) ∈ outcomes → Fits (target.recordPath schema sheet)) :
    ∃ done after, generateSheets clock target schema outcomes work w = (.ok (done, none), after) := by
  induction outcomes generalizing work w with
  | nil => exact ⟨work, w, rfl⟩
  | cons outcome rest inductionHypothesis =>
    obtain ⟨sheet, verdict⟩ := outcome
    have fitsLater (other : String) (e : ShapeError) (member : (other, .error e) ∈ rest) :
        Fits (target.recordPath schema other) := fits other e (List.mem_cons_of_mem _ member)
    cases verdict with
    | error e =>
      obtain ⟨console, warned⟩ := run_warnIfStale (fits sheet e List.mem_cons_self)
        (w.emit (.line ⟨.error, e.issue.kind.code ++ ": " ++ e.issue.text⟩))
      unfold generateSheets
      rw [Job.run_bind, run_note]
      dsimp only
      rw [Job.run_bind, Job.run_attempt, warned]
      exact inductionHypothesis products there fitsLater
    | ok d =>
      obtain ⟨artifacts, middle, wrote⟩ := writeArtifacts_of_isFile
        (products d List.mem_cons_self) (there d List.mem_cons_self)
      have grows := (leaves_of_writeArtifacts (products d List.mem_cons_self) wrote).grows
      unfold generateSheets
      rw [Job.run_bind, Job.run_attempt, wrote]
      apply inductionHypothesis _ _ fitsLater
      · intro other member
        exact products other (List.mem_cons_of_mem d member)
      · intro other member a among
        exact grows.isFile (there other (List.mem_cons_of_mem d member) a among)

/-- The error of a file whose sheets are seen to starts with their number, so it is none of a write. -/
theorem error_ofSheets {p : Path} {sheets : List SheetOutcome} {artifacts : List Written} {text : String}
    (error : (FileOutcome.ofSheets p sheets artifacts).error = some text) : text.toList.head? ≠ some 'a' := by
  unfold FileOutcome.ofSheets at error
  dsimp only at error
  split at error
  · cases error
  · cases error
    generalize sheets.countP (fun s => !s.succeeded) = failed
    rw [integerText, integerChars, if_neg (by omega), Int.natAbs_natCast]
    simp only [String.toList_append, String.toList_ofList]
    cases digits : naturalChars failed with
    | nil => exact absurd digits (naturalChars_ne_nil failed)
    | cons first rest =>
      have digit := isAsciiDigit_of_mem_naturalChars failed first (by rw [digits]; exact List.mem_cons_self)
      simp only [List.cons_append, List.head?_cons, Ne, Option.some.injEq]
      rintro rfl
      revert digit
      decide

/-- The outcome of a file whose sheets are all seen to does not speak of a failed write. -/
theorem not_writeFailed_ofSheets (p : Path) (sheets : List SheetOutcome) (artifacts : List Written) :
    ¬(FileOutcome.ofSheets p sheets artifacts).WriteFailed := by
  rintro ⟨reason, error⟩
  apply error_ofSheets error
  rw [String.toList_append]
  rfl

theorem not_assetFailed_ofSheets (p : Path) (sheets : List SheetOutcome) (artifacts : List Written) :
    ¬(FileOutcome.ofSheets p sheets artifacts).AssetFailed := by
  rintro ⟨reason, error⟩
  apply error_ofSheets error
  rw [String.toList_append]
  rfl

/-- The modules of a file as a whole are seen to when they are there. -/
theorem generateShared_of_isFile {p : Path} {workbook : Workbook} {descriptions : List Description}
    {shared : List Artifact} (split : IsSplit target.codeRoot)
    (identifier : isIdentifier workbook.name = true)
    (rendered : fileArtifacts target workbook.name p ((collectEnums workbook).map Prod.snd) descriptions =
      .ok shared)
    (there : ∀ a ∈ shared, w.files.isFile? a.path = .ok true) :
    ∃ written after, generateShared target p workbook descriptions w = (.ok written, after) := by
  unfold generateShared
  split_ifs
  · exact ⟨[], w, rfl⟩
  · obtain ⟨written, after, wrote⟩ :=
      writeArtifacts_of_isFile (isProduct_fileArtifacts split identifier rendered) there
    refine ⟨written, after, ?_⟩
    dsimp only
    rw [Job.run_bind, Job.run_ofExcept, rendered]
    exact wrote

/-- What is rendered from a workbook with an accepted sheet. -/
theorem renderFile_eq_ok {p : Path} {workbook : Workbook} {artifacts : List Artifact}
    (some : (accepted workbook).isEmpty = false) (rendered : renderFile target p workbook = .ok artifacts) :
    ∃ shared, fileArtifacts target workbook.name p ((collectEnums workbook).map Prod.snd)
      (accepted workbook) = .ok shared ∧
      artifacts = (accepted workbook).flatMap (sheetArtifacts target) ++ shared := by
  rw [renderFile, if_neg (by rw [some]; decide)] at rendered
  obtain ⟨shared, known, last⟩ := bind_eq_ok rendered
  cases last
  exact ⟨shared, known, rfl⟩

/-- The modules of an accepted sheet are among what is rendered. -/
theorem sheetArtifacts_of_renderFile {p : Path} {workbook : Workbook} {artifacts : List Artifact}
    (rendered : renderFile target p workbook = .ok artifacts) {d : Description}
    (member : d ∈ accepted workbook) {a : Artifact} (among : a ∈ sheetArtifacts target d) :
    a ∈ artifacts := by
  cases empty : (accepted workbook).isEmpty with
  | true =>
    rw [List.isEmpty_iff.mp empty] at member
    cases member
  | false =>
    obtain ⟨shared, -, rfl⟩ := renderFile_eq_ok empty rendered
    exact List.mem_append_left shared (List.mem_flatMap.mpr ⟨d, member, among⟩)

/-- The modules of a rendered file as a whole are seen to when everything rendered is there. -/
theorem generateShared_of_rendered {p : Path} {workbook : Workbook} {artifacts : List Artifact}
    (split : IsSplit target.codeRoot) (identifier : isIdentifier workbook.name = true)
    (rendered : renderFile target p workbook = .ok artifacts)
    (there : ∀ a ∈ artifacts, w.files.isFile? a.path = .ok true) :
    ∃ written after, generateShared target p workbook (accepted workbook) w = (.ok written, after) := by
  cases empty : (accepted workbook).isEmpty with
  | true =>
    rw [generateShared, if_pos empty]
    exact ⟨[], w, rfl⟩
  | false =>
    obtain ⟨shared, known, rfl⟩ := renderFile_eq_ok empty rendered
    exact generateShared_of_isFile split identifier known fun a member =>
      there a (List.mem_append_right _ member)

/-- A file whose modules are there is seen to the end. -/
theorem generateFile_of_isFile {p : Path} {workbook : Workbook} {artifacts : List Artifact}
    (split : IsSplit target.codeRoot) (opened : workbookAt? w.files p = some workbook)
    (distinct : workbook.sheetNames.Nodup) (rendered : renderFile target p workbook = .ok artifacts)
    (there : ∀ a ∈ artifacts, w.files.isFile? a.path = .ok true)
    (fits : ∀ sheet ∈ workbook.sheets, ∀ e,
      interpretIn workbook.name (collectEnums workbook) sheet = .error e →
        Fits (target.recordPath workbook.name sheet.name)) :
    ∃ result after, generateFile clock target p w = (.ok result, after) ∧ ¬result.outcome.WriteFailed := by
  have identifier := (named_of_workbookAt? opened).1
  have opens : openFile clock p w = (.ok (.ok workbook), w) := by
    rw [run_openFile, workbookAt?_eq_some.mp opened]
  have products : ∀ d ∈ described (verdicts workbook), ∀ a ∈ sheetArtifacts target d,
      IsProduct a.path := by
    rw [described_verdicts]
    intro d member
    exact isProduct_sheetArtifacts split identifier member
  have present : ∀ d ∈ described (verdicts workbook), ∀ a ∈ sheetArtifacts target d,
      w.files.isFile? a.path = .ok true := by
    rw [described_verdicts]
    intro d member a among
    exact there a (sheetArtifacts_of_renderFile rendered member among)
  have short (sheet : String) (e : ShapeError) (member : (sheet, .error e) ∈ verdicts workbook) :
      Fits (target.recordPath workbook.name sheet) := by
    obtain ⟨own, among, same⟩ := List.mem_map.mp member
    obtain ⟨rfl, refused⟩ := Prod.mk.inj same
    exact fits own among e refused
  obtain ⟨done, middle, sheets⟩ : ∃ done after, generateSheets clock target workbook.name
      (verdicts workbook) {} { w with console := w.console ++ (interpretationLog workbook).map .line } =
        (.ok (done, none), after) := generateSheets_of_isFile products present short
  obtain ⟨leaves, succeeded⟩ := leaves_of_generateSheets products sheets
  rw [described_verdicts] at succeeded
  have nothing : ({} : FileWork).succeeded = [] := rfl
  obtain ⟨written, last, shared⟩ :
      ∃ written after, generateShared target p workbook done.succeeded middle = (.ok written, after) := by
    rw [succeeded, nothing, List.nil_append]
    exact generateShared_of_rendered split identifier rendered fun a member =>
      leaves.grows.isFile (there a member)
  refine ⟨⟨.ofSheets p done.sheets written, done.records,
    done.succeeded.map fun d => ⟨d.schema, d.sheet⟩⟩, last, ?_,
    not_writeFailed_ofSheets p done.sheets written⟩
  unfold generateFile
  rw [Job.run_bind, opens]
  dsimp only
  rw [Job.run_bind, Job.run_logAll]
  dsimp only
  rw [verdicts_eq distinct, Job.run_bind, sheets]
  dsimp only
  rw [Job.run_bind, Job.run_attempt, shared]
  rfl

/-- Files whose modules are there are all seen to the end. -/
theorem eachFile_of_isFile {t : FileTree} {paths : List Path} {files : List (List Artifact)}
    (split : IsSplit target.codeRoot)
    (same : ∀ p ∈ paths, ∀ u, Grows t u → workbookAt? u p = workbookAt? t p)
    (opened : ∀ p ∈ paths, ∃ workbook, workbookAt? t p = some workbook)
    (distinct : ∀ source ∈ workbooks t paths, source.2.sheetNames.Nodup)
    (rendered : ((workbooks t paths).mapM fun source => renderFile target source.1 source.2) = .ok files)
    (there : ∀ a ∈ files.flatten, t.isFile? a.path = .ok true)
    (fits : ∀ source ∈ workbooks t paths, ∀ sheet ∈ source.2.sheets, ∀ e,
      interpretIn source.2.name (collectEnums source.2) sheet = .error e →
        Fits (target.recordPath source.2.name sheet.name))
    (grows : Grows t w.files) :
    ∃ results after, eachFile (generateFile clock target) paths w = (.ok results, after) ∧
      ∀ r ∈ results, ¬r.outcome.WriteFailed := by
  induction paths generalizing w files with
  | nil =>
    refine ⟨[], w, rfl, ?_⟩
    intro r member
    cases member
  | cons p rest inductionHypothesis =>
    obtain ⟨workbook, own⟩ := opened p List.mem_cons_self
    have listed : workbooks t (p :: rest) = (p, workbook) :: workbooks t rest :=
      List.filterMap_cons_some (by rw [own]; rfl)
    rw [listed] at distinct rendered fits
    obtain ⟨artifacts, others, first, later, rfl⟩ := mapM_cons_eq_ok.mp rendered
    rw [List.flatten_cons] at there
    have here : workbookAt? w.files p = some workbook := by
      rw [same p List.mem_cons_self w.files grows, own]
    obtain ⟨result, middle, ran, finished⟩ : ∃ result after,
        generateFile clock target p w = (.ok result, after) ∧ ¬result.outcome.WriteFailed := by
      apply generateFile_of_isFile split here (distinct _ List.mem_cons_self) first
      · intro a member
        exact grows.isFile (there a (List.mem_append_left _ member))
      · exact fits _ List.mem_cons_self
    have further : Grows w.files middle.files := by
      obtain ⟨_, -, leaves, -⟩ := leaves_of_generateFile split
        (by rw [here]; rintro _ ⟨⟩; exact distinct _ List.mem_cons_self) ran finished
      exact leaves.grows
    obtain ⟨results, last, ranLater, finishedLater⟩ := inductionHypothesis
      (fun q member => same q (List.mem_cons_of_mem p member))
      (fun q member => opened q (List.mem_cons_of_mem p member))
      (fun source member => distinct source (List.mem_cons_of_mem _ member)) later
      (fun a member => there a (List.mem_append_right _ member))
      (fun source member => fits source (List.mem_cons_of_mem _ member)) (grows.trans further)
    refine ⟨result :: results, last, ?_, ?_⟩
    · rw [eachFile, Job.run_bind, ran]
      dsimp only
      rw [Job.run_bind, ranLater]
      rfl
    · intro r member
      rcases List.mem_cons.mp member with rfl | among
      · exact finished
      · exact finishedLater r among

/-- The registry is seen to when it is there. -/
theorem writeRegistry_of_isFile {entries : List RegistryEntry} (split : IsSplit target.codeRoot)
    (there : ∀ a ∈ renderRegistry target entries, w.files.isFile? a.path = .ok true) :
    ∃ written after, writeRegistry target entries w = (.ok written, after) := by
  unfold writeRegistry
  unfold renderRegistry at there
  split_ifs at there ⊢
  · exact ⟨[], w, rfl⟩
  · obtain ⟨written, after, wrote⟩ := writeArtifact_of_isFile
      (isProduct_registryArtifact split entries) (there _ List.mem_cons_self)
    refine ⟨[written], after, ?_⟩
    dsimp only
    rw [Job.run_bind, Job.run_attempt, wrote]
    rfl

/-- So generating over modules that are all there ends well. -/
theorem generate_of_isFile {source logs : Path} {paths : List Path} {all : List Artifact}
    (split : IsSplit target.codeRoot) (product : IsProduct (logFile clock logs))
    (noNull : hasNull (logFile clock logs) = false)
    (scanned : SchemaFile.scanning w.files source = .ok paths)
    (same : ∀ p ∈ paths, ∀ u, Grows w.files u → workbookAt? u p = workbookAt? w.files p)
    (opened : ∀ p ∈ paths, ∃ workbook, workbookAt? w.files p = some workbook)
    (distinct : ∀ source ∈ workbooks w.files paths, source.2.sheetNames.Nodup)
    (rendered : renderRun target (workbooks w.files paths) = .ok all)
    (there : ∀ a ∈ all, w.files.isFile? a.path = .ok true)
    (fits : ∀ source ∈ workbooks w.files paths, ∀ sheet ∈ source.2.sheets, ∀ e,
      interpretIn source.2.name (collectEnums source.2) sheet = .error e →
        Fits (target.recordPath source.2.name sheet.name)) :
    ∃ report after, generate clock source target logs w = (.ok report, after) ∧
      ∀ f ∈ report.files, ¬f.WriteFailed := by
  obtain ⟨files, each, last⟩ := bind_eq_ok rendered
  cases last
  obtain ⟨logged, kept, logging⟩ : ∃ logged, logged.files = w.files ∧ Job.log .info
      ("Generating from " ++ integerText paths.length ++ " schema file(s) in " ++ source.text) w =
        (.ok (), logged) := ⟨_, rfl, rfl⟩
  have grows : Grows w.files logged.files := by
    rw [kept]
    exact .refl w.files
  obtain ⟨results, middle, ran, finished⟩ : ∃ results after,
      eachFile (generateFile clock target) paths logged = (.ok results, after) ∧
        ∀ r ∈ results, ¬r.outcome.WriteFailed :=
    eachFile_of_isFile split same opened distinct each
      (fun a member => there a (List.mem_append_left _ member)) fits grows
  have sheets (p : Path) (member : p ∈ paths) (workbook : Workbook)
      (found : workbookAt? w.files p = some workbook) : workbook.sheetNames.Nodup :=
    distinct (p, workbook) (List.mem_filterMap.mpr ⟨p, member, by rw [found]; rfl⟩)
  obtain ⟨_, -, leaves, entries⟩ := leaves_of_eachFile split same sheets grows ran finished
  obtain ⟨shared, registered, registry⟩ : ∃ shared after,
      writeRegistry target (results.flatMap FileResult.entries) middle = (.ok shared, after) := by
    apply writeRegistry_of_isFile split
    rw [entries]
    intro a member
    exact (grows.trans leaves.grows).isFile (there a (List.mem_append_right _ member))
  obtain ⟨flushed, flushing⟩ : ∃ last,
      flush clock logs (results.flatMap FileResult.records) registered = (.ok (), last) :=
    (flush_ok_iff product registered).mpr (.inr noNull)
  refine ⟨⟨results.map FileResult.outcome, shared⟩, flushed, ?_, ?_⟩
  · rw [generate, Job.run_bind, SchemaFile.run_scanSource, scanned]
    dsimp only
    rw [Job.run_bind, logging]
    dsimp only
    rw [Job.run_bind, ran]
    dsimp only
    rw [Job.run_bind, registry]
    dsimp only
    rw [Job.run_bind, flushing]
    rfl
  · intro f member
    obtain ⟨r, among, rfl⟩ := List.mem_map.mp member
    exact finished r among

end TypedSheets.Run

import TypedSheets.Proofs.Runs.Overwriting
import TypedSheets.Proofs.Runs.Repetition

/-!
# Schema files that are seen to again

The work on a schema file is repeated at another time: the same sheets are accepted and refused, what
was written is passed over, and a write that failed ends the work where it did before. Only times and
the texts of failed writes may differ.
-/

namespace TypedSheets

open TypedSheets.Emission TypedSheets.Grid TypedSheets.Schema TypedSheets.Text FileTree

/-- The outcome of a sheet whose artifacts are passed over. -/
def SheetOutcome.skipped (o : SheetOutcome) : SheetOutcome :=
  { o with artifacts := o.artifacts.map Written.skipped }

/-- The outcomes of a file that is seen to again. -/
structure SameFile (first again : FileOutcome) : Prop where
  path : again.path = first.path
  status : again.status = first.status
  sheets : again.sheets = first.sheets.map SheetOutcome.skipped
  artifacts : again.artifacts = first.artifacts.map Written.skipped
  error : again.error.isSome = first.error.isSome

theorem countP_skipped (sheets : List SheetOutcome) :
    (sheets.map SheetOutcome.skipped).countP (fun s => !s.succeeded) =
      sheets.countP fun s => !s.succeeded := by
  rw [List.countP_map]
  rfl

/-- A file whose sheets are all seen to again. -/
theorem sameFile_ofSheets (p : Path) (sheets : List SheetOutcome) (artifacts : List Written) :
    SameFile (.ofSheets p sheets artifacts)
      (.ofSheets p (sheets.map SheetOutcome.skipped) (artifacts.map Written.skipped)) := by
  constructor
  · rfl
  · simp only [FileOutcome.ofSheets, countP_skipped]
  · rfl
  · rfl
  · simp only [FileOutcome.ofSheets, countP_skipped]

namespace Run

/-- Results of a file that is seen to again. -/
structure SameResult (first again : FileResult) : Prop where
  outcome : SameFile first.outcome again.outcome
  records : again.records.length = first.records.length
  entries : again.entries = first.entries

/-- What the sheets have come to when they are seen to again. -/
structure SameWork (first again : FileWork) : Prop where
  sheets : again.sheets = first.sheets.map SheetOutcome.skipped
  records : again.records.length = first.records.length
  succeeded : again.succeeded = first.succeeded

variable {t : FileTree} {clock another : Clock} {target : Destination}

theorem repeats_note (file sheet : String) (i : Issue) :
    Repeats t [] (note clock file sheet i) (note another file sheet i) fun _ _ => True :=
  .of_keepsFiles (keepsFiles_note clock file sheet i) (keepsFiles_note another file sheet i)
    fun _ _ _ _ => .ok trivial

/-- The question about modules of a refused sheet is answered each time. -/
theorem repeats_warnIfStale {schema sheet : String} (fits : Fits (target.recordPath schema sheet)) :
    Repeats t [] (Job.attempt (warnIfStale target schema sheet))
      (Job.attempt (warnIfStale target schema sheet)) fun first again => first = .ok () ∧ again = .ok () := by
  have keeps := (keepsFiles_warnIfStale target schema sheet).attempt
  refine .of_keepsFiles keeps keeps ?_
  intro before later _ _
  obtain ⟨_, warned⟩ := run_warnIfStale fits before
  obtain ⟨_, warnedAgain⟩ := run_warnIfStale fits later
  rw [Job.run_attempt, Job.run_attempt, warned, warnedAgain]
  exact .ok ⟨rfl, rfl⟩

/-- A file whose work a failed write ends. -/
theorem repeats_aborted {p : Path} {schema text : String} {work workAgain : FileWork} {e f : Failure}
    (same : SameWork work workAgain) (alike : Alike e f) :
    Repeats t [] (aborted clock p schema text work e) (aborted another p schema text workAgain f)
      fun first again => SameFile first.1 again.1 ∧ again.2.length = first.2.length := by
  unfold aborted
  rw [alike.isSystem]
  split_ifs
  · have noted : Repeats t [] (noteWrite clock p schema e) (noteWrite another p schema f)
        fun _ _ => True := by
      apply (Repeats.log _ _ _ _).bind_quiet
      intro _ _ _
      exact .pure trivial
    apply noted.bind_quiet
    intro _ _ _
    refine .pure ⟨⟨rfl, rfl, same.sheets, rfl, rfl⟩, ?_⟩
    simp only [List.length_append, same.records, List.length_singleton]
  · exact .throw alike

/-- The result of such a file. -/
theorem repeats_end {p : Path} {schema text : String} {work workAgain : FileWork} {e f : Failure}
    (same : SameWork work workAgain) (alike : Alike e f) :
    Repeats t []
      (do
        let (outcome, records) ← aborted clock p schema text work e
        pure { outcome, records : FileResult })
      (do
        let (outcome, records) ← aborted another p schema text workAgain f
        pure { outcome, records : FileResult })
      SameResult := by
  apply (repeats_aborted same alike).bind_quiet
  rintro _ _ ⟨sameFile, sameRecords⟩
  exact .pure ⟨sameFile, sameRecords, rfl⟩

/-- Sheets that are seen to again. -/
theorem repeats_generateSheets {schema : String}
    {outcomes : List (String × Except ShapeError Description)} {work workAgain : FileWork}
    (products : ∀ d ∈ described outcomes, ∀ a ∈ sheetArtifacts target d, IsProduct a.path)
    (apart : (((described outcomes).flatMap (sheetArtifacts target)).map Artifact.path).Pairwise Apart)
    (fits : ∀ sheet e, (sheet, .error e) ∈ outcomes → Fits (target.recordPath schema sheet))
    (same : SameWork work workAgain) :
    Repeats t (((described outcomes).flatMap (sheetArtifacts target)).map Artifact.path)
      (generateSheets clock target schema outcomes work)
      (generateSheets another target schema outcomes workAgain)
      fun first again => SameWork first.1 again.1 ∧ Option.Rel Alike first.2 again.2 := by
  induction outcomes generalizing work workAgain with
  | nil => exact .pure ⟨same, .none⟩
  | cons outcome rest inductionHypothesis =>
    obtain ⟨sheet, verdict⟩ := outcome
    have fitsLater (other : String) (e : ShapeError) (member : (other, .error e) ∈ rest) :
        Fits (target.recordPath schema other) := fits other e (List.mem_cons_of_mem _ member)
    cases verdict with
    | error e =>
      unfold generateSheets
      apply (repeats_note schema sheet e.issue).bind_quiet
      intro record recordAgain _
      apply (repeats_warnIfStale (fits sheet e List.mem_cons_self)).bind_quiet
      rintro _ _ ⟨rfl, rfl⟩
      apply inductionHypothesis products apart fitsLater
      constructor
      · simp only [same.sheets, List.map_append]
        rfl
      · simp only [List.length_append, same.records, List.length_singleton]
      · exact same.succeeded
    | ok d =>
      have listed : described ((sheet, .ok d) :: rest) = d :: described rest := rfl
      rw [listed, List.flatMap_cons, List.map_append] at apart ⊢
      obtain ⟨early, late, across⟩ := List.pairwise_append.mp apart
      unfold generateSheets
      apply (repeats_writeArtifacts (products d List.mem_cons_self) early t).attempt.bind _ across
      rintro _ _ (@⟨written, _, rfl⟩ | ⟨alike⟩)
      · apply inductionHypothesis _ late fitsLater
        · constructor
          · simp only [same.sheets, List.map_append]
            rfl
          · exact same.records
          · simp only [same.succeeded]
        · intro other member
          exact products other (List.mem_cons_of_mem d member)
      · exact Repeats.widen (.pure ⟨same, .some alike⟩) (List.nil_subset _)

/-- The modules of a file as a whole. -/
theorem repeats_generateShared {p : Path} {workbook : Workbook} {descriptions : List Description}
    (identifier : isIdentifier workbook.name = true) (split : IsSplit target.codeRoot) :
    Repeats t ([.enumerations workbook.name, .exporter workbook.name].map (GeneratedModule.path target))
      (generateShared target p workbook descriptions) (generateShared target p workbook descriptions)
      fun first again => again = first.map Written.skipped := by
  have named (m : GeneratedModule) (member : m ∈ [.enumerations workbook.name, .exporter workbook.name]) :
      m.Named := by
    have listed : m ∈ fileModules workbook := List.mem_append_right _ member
    exact (named_fileModules identifier listed).1
  unfold generateShared
  split_ifs
  · exact Repeats.widen (.pure rfl) (List.nil_subset _)
  · dsimp only
    cases rendered : fileArtifacts target workbook.name p ((collectEnums workbook).map Prod.snd)
      descriptions with
    | error e => exact Repeats.widen (.throw (.same _)) (List.nil_subset _)
    | ok shared =>
      have paths := fileArtifacts_paths identifier rendered
      have apart : (shared.map Artifact.path).Pairwise Apart := by
        rw [paths]
        exact GeneratedModule.apart_of_nodup target (by simp) named
      have writes := repeats_writeArtifacts (isProduct_fileArtifacts split identifier rendered) apart t
      rw [paths] at writes
      exact writes

/-- Results of opening a file again. -/
inductive OpensAlike (t : FileTree) (p : Path) :
    Except (FileOutcome × List ErrorRecord) Workbook →
      Except (FileOutcome × List ErrorRecord) Workbook → Prop
  | workbook {w : Workbook} (opened : workbookAt? t p = some w) : OpensAlike t p (.ok w) (.ok w)
  | unopened {u : Unopened} {records others : List ErrorRecord} (found : opening t p = .ok (.error u))
      (same : others.length = records.length) :
      OpensAlike t p (.error (u.outcome p, records)) (.error (u.outcome p, others))

theorem repeats_openFile {p : Path}
    (same : ∀ u, Grows t u → SchemaFile.reading u p = SchemaFile.reading t p) :
    Repeats t [] (openFile clock p) (openFile another p) (OpensAlike t p) := by
  have keeps (clock : Clock) : Job.KeepsFiles (openFile clock p) := by
    intro w
    rw [run_openFile]
    cases opening w.files p with
    | error e => rfl
    | ok opened => cases opened <;> rfl
  refine .of_keepsFiles (keeps clock) (keeps another) ?_
  intro before later grows growsLater
  rw [run_openFile, run_openFile, opening_congr (same before.files grows),
    opening_congr (same later.files (grows.trans growsLater))]
  cases opened : opening t p with
  | error e => exact .error (.same _)
  | ok found =>
    cases found with
    | error u => exact .ok (.unopened opened rfl)
    | ok workbook => exact .ok (.workbook (workbookAt?_eq_some.mpr opened))

/-- Where the modules of a file lie, if it can be opened. -/
def modulesAt (target : Destination) : Option Workbook → List Path
  | none => []
  | some w => (fileModules w).map (GeneratedModule.path target)

/-- The work on a schema file. -/
theorem repeats_generateFile {p : Path} (split : IsSplit target.codeRoot)
    (same : ∀ u, Grows t u → SchemaFile.reading u p = SchemaFile.reading t p)
    (distinct : ∀ w, workbookAt? t p = some w → w.sheetNames.Nodup)
    (fits : ∀ w, workbookAt? t p = some w → ∀ sheet ∈ w.sheets, ∀ e,
      interpretIn w.name (collectEnums w) sheet = .error e → Fits (target.recordPath w.name sheet.name)) :
    Repeats t (modulesAt target (workbookAt? t p)) (generateFile clock target p)
      (generateFile another target p) SameResult := by
  unfold generateFile
  apply (repeats_openFile same).bind_quiet
  rintro _ _ (@⟨workbook, opened⟩ | @⟨u, records, others, found, length⟩)
  · dsimp only
    rw [opened]
    apply (Repeats.logAll _ _).bind_quiet
    intro _ _ _
    rw [verdicts_eq (distinct workbook opened)]
    have identifier := (named_of_workbookAt? opened).1
    have apart := apart_fileModules target (distinct workbook opened) identifier
    have paths := flatMap_sheetArtifacts_paths target identifier
      (fun d (member : d ∈ accepted workbook) => member)
    rw [fileModules, List.map_append, ← paths] at apart
    rw [modulesAt, fileModules, List.map_append, ← paths, ← described_verdicts]
    rw [← described_verdicts] at apart
    obtain ⟨early, -, across⟩ := List.pairwise_append.mp apart
    have products : ∀ d ∈ described (verdicts workbook), ∀ a ∈ sheetArtifacts target d,
        IsProduct a.path := by
      rw [described_verdicts]
      intro d member
      exact isProduct_sheetArtifacts split identifier member
    have short (sheet : String) (e : ShapeError) (member : (sheet, .error e) ∈ verdicts workbook) :
        Fits (target.recordPath workbook.name sheet) := by
      obtain ⟨own, among, same⟩ := List.mem_map.mp member
      obtain ⟨rfl, refused⟩ := Prod.mk.inj same
      exact fits workbook opened own among e refused
    apply (repeats_generateSheets products early short ⟨rfl, rfl, rfl⟩).bind _ across
    rintro ⟨work, stopped⟩ ⟨workAgain, stoppedAgain⟩ ⟨sameWork, stops⟩
    cases stops with
    | some alike =>
      dsimp only
      rw [pure_bind, pure_bind]
      exact (repeats_end sameWork alike).widen (List.nil_subset _)
    | none =>
      dsimp only
      rw [sameWork.succeeded]
      apply (repeats_generateShared identifier split).attempt.bind_last
      rintro _ _ (@⟨artifacts, _, rfl⟩ | ⟨alike⟩)
      · refine .pure ⟨?_, sameWork.records, ?_⟩
        · rw [sameWork.sheets]
          exact sameFile_ofSheets p work.sheets artifacts
        · rfl
      · exact repeats_end sameWork alike
  · rw [workbookAt?_eq_none found]
    exact .pure ⟨⟨rfl, rfl, rfl, rfl, rfl⟩, length, rfl⟩

/-- Files that are worked on again, one after another, when the work on each may change files at paths of
its own. -/
theorem repeats_eachFile {work workAgain : Path → Job FileResult} {paths : List Path}
    {places : Path → List Path} (apart : (paths.flatMap places).Pairwise Apart)
    (each : ∀ p ∈ paths, Repeats t (places p) (work p) (workAgain p) SameResult) :
    Repeats t (paths.flatMap places) (eachFile work paths) (eachFile workAgain paths)
      (List.Forall₂ SameResult) := by
  induction paths with
  | nil => exact .pure .nil
  | cons p rest inductionHypothesis =>
    rw [List.flatMap_cons] at apart ⊢
    obtain ⟨-, late, across⟩ := List.pairwise_append.mp apart
    apply (each p List.mem_cons_self).bind _ across
    intro first again same
    apply (inductionHypothesis late fun q member => each q (List.mem_cons_of_mem p member)).bind_last
    intro others othersAgain sameLater
    exact .pure (.cons same sameLater)

/-- The registry. -/
theorem repeats_writeRegistry {entries : List RegistryEntry} (split : IsSplit target.codeRoot) :
    Repeats t [GeneratedModule.registry.path target] (writeRegistry target entries)
      (writeRegistry target entries) fun first again => again = first.map Written.skipped := by
  unfold writeRegistry
  split_ifs
  · exact Repeats.widen (.pure rfl) (List.nil_subset _)
  · have path : (registryArtifact target entries).path = GeneratedModule.registry.path target :=
      registryPath_eq target
    rw [← path]
    dsimp only
    apply (repeats_writeArtifact (isProduct_registryArtifact split entries) t).attempt.bind_last
    rintro _ _ (@⟨written, _, rfl⟩ | @⟨e, f, alike⟩)
    · exact .pure rfl
    · dsimp only
      rw [alike.isSystem]
      split_ifs
      · exact .throw (.processing _ _)
      · exact .throw alike

end Run

end TypedSheets

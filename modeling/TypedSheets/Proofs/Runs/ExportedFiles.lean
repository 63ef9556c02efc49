import TypedSheets.Proofs.Export.WorkbookExports
import TypedSheets.Proofs.Runs.GeneratedFiles
import TypedSheets.Proofs.Runs.RepeatedExports

/-!
# What becomes of a schema file that is exported

A schema file that is exported cannot be opened, or every sheet of it has its outcome and its issue, or a
failure of the system ends the work on it. Then nothing is said of its sheets: the assets that were
written before are not reported, and of its issues only the failure is recorded.
-/

namespace TypedSheets

open TypedSheets.Emission TypedSheets.Grid TypedSheets.Schema TypedSheets.Text FileTree

/-- The issue that stops the export of an accepted sheet, if a cell does not coerce. -/
def coercionIssue? (d : Description) : Option Issue :=
  match buildRecords d with
  | .error (.cell cause place) => some (cause.issue place)
  | _ => none

/-- The issues of a workbook that is exported: first the refused sheets, then the cells. -/
def exportIssues (w : Workbook) : List Issue :=
  (refused w).map ShapeError.issue ++ (accepted w).filterMap coercionIssue?

/-- What becomes of a sheet that is exported: it fails, or its asset is written. -/
inductive SheetExported (root : Path) (w : Workbook) (s : Sheet) : SheetOutcome → Prop
  | refused (e : ShapeError) (verdict : interpretIn w.name (collectEnums w) s = .error e) :
      SheetExported root w s (.failed w.name s.name e.text)
  | stopped (d : Description) (i : Issue) (verdict : interpretIn w.name (collectEnums w) s = .ok d)
      (cell : coercionIssue? d = some i) : SheetExported root w s (.failed w.name s.name i.text)
  | written (d : Description) (records : List Entries) (artifact : Written)
      (verdict : interpretIn w.name (collectEnums w) s = .ok d)
      (built : buildRecords d = .ok records)
      (path : artifact.path = assetPath root w.name s.name) :
      SheetExported root w s
        { schema := w.name, sheet := s.name, artifacts := [artifact], records := d.rows.length }

/-- An answer of a sheet tells what becomes of it. -/
theorem Answers.sheetExported {w : Workbook} {root : Path} {files : FileTree} {s : Sheet} {e : Exported}
    (answers : Answers w root files s e) : SheetExported root w s e.1 := by
  cases answers with
  | refused e refused =>
    have own := (interpretIn_refusesAt _ e refused).2
    rw [stoppedBy, own]
    exact .refused e refused
  | exported d e accepted exports =>
    have accepts := (accepts_of_interpretIn accepted).1
    cases exports with
    | written records artifact built path held =>
      rw [accepts.file, accepts.named] at path
      dsimp only
      rw [length_of_buildRecords built, accepts.file, accepts.named]
      exact .written d records artifact accepted built path
    | stopped cause place refused =>
      rw [stoppedBy, accepts.file, accepts.named]
      apply SheetExported.stopped d _ accepted
      rw [coercionIssue?, refused]

section Sheets

variable {root : Path} {before after : Workspace}

/-- The asset of a sheet is reported when it is written. -/
theorem touches_of_exported {d : Description} (product : IsProduct (assetPath root d.schema d.sheet))
    {artifact : Written} {count : Nat}
    (ran : exportSheet root d before = (.ok (artifact, count), after)) :
    Touches [artifact] before.files after.files ∧ artifact.path = assetPath root d.schema d.sheet := by
  obtain ⟨records, _, coerced, rendering⟩ := Job.bind_ok ran
  obtain ⟨-, rfl⟩ := Job.ofExcept_ok coerced
  obtain ⟨text, _, rendered, writing⟩ := Job.bind_ok rendering
  obtain ⟨-, rfl⟩ := Job.ofExcept_ok rendered
  obtain ⟨written, middle, saw, logging⟩ := Job.bind_ok writing
  have touches := touches_of_written product saw
  have path : written.path = assetPath root d.schema d.sheet := (writeArtifact_ok saw).2
  cases logging
  exact ⟨touches, path⟩

/-- A sheet that cannot be exported has changed nothing. -/
theorem touches_of_unexported {d : Description} (product : IsProduct (assetPath root d.schema d.sheet))
    {e : Failure} (ran : exportSheet root d before = (.error e, after)) :
    Touches [] before.files after.files := by
  rw [exportSheet, Job.run_bind, Job.run_ofExcept] at ran
  cases built : buildRecords d with
  | error e =>
    rw [built] at ran
    cases ran
    exact .refl _
  | ok records =>
    rw [built] at ran
    dsimp only at ran
    rw [Job.run_bind, Job.run_ofExcept] at ran
    cases content : (sheetAsset d.sheet records).text with
    | error e =>
      rw [content] at ran
      cases ran
      exact .refl _
    | ok text =>
      rw [content] at ran
      rcases Job.bind_error ran with failed | ⟨_, _, _, logging⟩
      · exact touches_of_unwritten product failed
      · cases logging

/-- What is entered of the assets of some sheets: one for each that is exported, and fewer than there are
sheets when a failure ends the export. -/
def AssetsEntered (paths : List Path) (written : List Written) : Except Failure (List Exported) → Prop
  | .ok exported => written = exported.flatMap (fun e => e.1.artifacts) ∧
      (written.map Written.path).Sublist paths
  | .error _ => written.length < paths.length ∧ (written.map Written.path).Sublist paths

namespace AssetsEntered

variable {paths : List Path} {written : List Written} {outcome : Except Failure (List Exported)}
  {first : Exported}

/-- The asset of a sheet is entered before those of the others. -/
theorem cons {artifact : Written} (entered : AssetsEntered paths written outcome)
    (own : first.1.artifacts = [artifact]) :
    AssetsEntered (artifact.path :: paths) (artifact :: written) (outcome.map (first :: ·)) := by
  cases outcome with
  | ok exported =>
    obtain ⟨rfl, among⟩ := entered
    refine ⟨?_, among.cons_cons _⟩
    rw [List.flatMap_cons, own]
    rfl
  | error e => exact ⟨Nat.succ_lt_succ entered.1, entered.2.cons_cons _⟩

/-- A sheet that fails enters nothing. -/
theorem skip (entered : AssetsEntered paths written outcome) (own : first.1.artifacts = []) (p : Path) :
    AssetsEntered (p :: paths) written (outcome.map (first :: ·)) := by
  cases outcome with
  | ok exported =>
    obtain ⟨rfl, among⟩ := entered
    refine ⟨?_, among.cons _⟩
    rw [List.flatMap_cons, own, List.nil_append]
  | error e => exact ⟨Nat.lt_succ_of_lt entered.1, entered.2.cons _⟩

end AssetsEntered

/-- Sheets that are exported one after another are reported up to the one whose asset cannot be
written. -/
theorem touches_of_exportSheets {ds : List Description}
    (products : ∀ d ∈ ds, IsProduct (assetPath root d.schema d.sheet))
    {outcome : Except Failure (List Exported)} (ran : exportSheets root ds before = (outcome, after)) :
    ∃ written, Touches written before.files after.files ∧
      AssetsEntered (ds.map fun d => assetPath root d.schema d.sheet) written outcome := by
  induction ds generalizing before after outcome with
  | nil =>
    cases ran
    exact ⟨[], .refl _, rfl, List.nil_sublist _⟩
  | cons d rest inductionHypothesis =>
    have product := products d List.mem_cons_self
    have further := fun other member => products other (List.mem_cons_of_mem d member)
    rw [exportSheets, Job.run_bind, Job.run_attempt] at ran
    cases own : exportSheet root d before with
    | mk result middle =>
      rw [own] at ran
      dsimp only at ran
      cases result with
      | ok done =>
        obtain ⟨artifact, count⟩ := done
        obtain ⟨first, path⟩ := touches_of_exported product own
        dsimp only at ran
        rw [pure_bind] at ran
        obtain ⟨result, others, rfl⟩ := Job.bind_pure_eq ran
        obtain ⟨written, later, entered⟩ := inductionHypothesis further others
        refine ⟨artifact :: written, first.trans later, ?_⟩
        rw [List.map_cons, ← path]
        exact entered.cons rfl
      | error e =>
        have nothing := touches_of_unexported product own
        cases e with
        | issue i =>
          dsimp only at ran
          rw [pure_bind] at ran
          obtain ⟨result, others, rfl⟩ := Job.bind_pure_eq ran
          obtain ⟨written, later, entered⟩ := inductionHypothesis further others
          exact ⟨written, nothing.trans later, entered.skip rfl _⟩
        | _ =>
          cases ran
          exact ⟨[], nothing, Nat.zero_lt_succ _, List.nil_sublist _⟩

/-- Exported sheets are stopped by the issues of their cells. -/
theorem issues_of_exports {files : FileTree} {ds : List Description} {exported : List Exported}
    (answers : List.Forall₂ (Exports root files) ds exported) :
    exported.filterMap Prod.snd = ds.filterMap coercionIssue? := by
  induction answers with
  | nil => rfl
  | cons first _ inductionHypothesis =>
    rw [List.filterMap_cons, List.filterMap_cons, inductionHypothesis]
    cases first with
    | written records artifact built path held => rw [coercionIssue?, built]
    | stopped cause place refused =>
      rw [coercionIssue?, refused]
      rfl

/-- A workbook that is exported: every sheet has its outcome, and the issues are known. -/
theorem sheetsExported_of_exportWorkbook {w : Workbook} (distinct : w.sheetNames.Nodup)
    {result : WorkbookExport} (ran : exportWorkbook w root none before = (.ok result, after)) :
    List.Forall₂ (SheetExported root w) w.sheets result.sheets ∧ result.issues = exportIssues w := by
  obtain ⟨own, exported, each, described, -, sheets, issues, -⟩ := answers_of_exportWorkbook distinct ran
  have selected : (w.sheets.filter fun s => isSelected none s.name) = w.sheets := List.filter_true _
  have chosen : ((accepted w).filter fun d => isSelected none d.sheet) = accepted w := List.filter_true _
  have all : ((refused w).filter fun e => isSelected none e.place.sheet) = refused w := List.filter_true _
  have missing : missingNames w none = [] := rfl
  rw [selected] at each
  rw [chosen] at described
  rw [missing, List.map_nil, List.append_nil] at sheets
  rw [missing, List.map_nil, List.append_nil, List.filterMap_append, all,
    issues_of_exports described, List.filterMap_map] at issues
  refine ⟨?_, ?_⟩
  · rw [sheets, List.forall₂_map_right_iff]
    exact each.imp fun s e answers => answers.sheetExported
  · rw [issues, exportIssues, ← List.filterMap_eq_map]
    rfl

/-- What was written for a workbook is entered in the outcomes of its sheets, unless a failure ends the
export. -/
theorem touches_of_exportWorkbook {w : Workbook}
    (products : ∀ d ∈ accepted w, IsProduct (assetPath root d.schema d.sheet))
    {outcome : Except Failure WorkbookExport}
    (ran : exportWorkbook w root none before = (outcome, after)) :
    ∃ written, Touches written before.files after.files ∧
      (written.map Written.path).Sublist ((accepted w).map fun d => assetPath root d.schema d.sheet) ∧
      (∀ result, outcome = .ok result → written.Perm (result.sheets.flatMap SheetOutcome.artifacts)) ∧
      ∀ e, outcome = .error e → written.length < (accepted w).length := by
  have all : (accepted w).filter (fun d => isSelected none d.sheet) = accepted w := List.filter_true _
  obtain ⟨result, exports, rfl⟩ := exportSheets_of_exportWorkbook ran
  rw [all] at exports
  obtain ⟨written, touches, entered⟩ := touches_of_exportSheets products exports
  refine ⟨written, ?_⟩
  cases result with
  | error e =>
    obtain ⟨fewer, paths⟩ := entered
    rw [List.length_map] at fewer
    exact ⟨touches, paths, nofun, fun _ _ => fewer⟩
  | ok exported =>
    obtain ⟨rfl, paths⟩ := entered
    refine ⟨touches, paths, ?_, nofun⟩
    rintro _ ⟨⟩
    -- refused sheets have no entries, and sorting moves those of the others at most
    have sorted := List.mergeSort_perm
      (((refused w).filter fun e => isSelected none e.place.sheet).map
        (fun e => stoppedBy w.name e.place.sheet e.issue) ++ exported ++
        (missingNames w none).map (absentOutcome w))
      fun a b => sheetRank w.sheetNames a.1.sheet ≤ sheetRank w.sheetNames b.1.sheet
    have silent : (((refused w).filter fun e => isSelected none e.place.sheet).map fun e =>
        stoppedBy w.name e.place.sheet e.issue).flatMap (fun e => e.1.artifacts) = [] := by
      rw [List.flatMap_map]
      exact List.flatMap_eq_nil_iff.mpr fun _ _ => rfl
    have missing : missingNames w none = [] := rfl
    have entries := (sorted.flatMap_right fun e => e.1.artifacts).symm
    rw [List.flatMap_append, List.flatMap_append, silent, List.nil_append, missing, List.map_nil,
      List.flatMap_nil, List.append_nil] at entries
    dsimp only [gathered]
    rw [List.flatMap_map]
    exact entries

end Sheets

namespace Run

/-- What becomes of a schema file that is exported, from what opening it comes to, with the entries that
are lost. -/
inductive ExportsTo (clock : Clock) (root : Path) (p : Path) :
    Except Unopened Workbook → List Written → FileResult → Prop
  | unopened (u : Unopened) :
      ExportsTo clock root p (.error u) []
        { outcome := u.outcome p
          records := [.ofIssue clock.timestamp p.stem u.sheet u.issue] }
  | finished (w : Workbook) (sheets : List SheetOutcome)
      (seen : List.Forall₂ (SheetExported root w) w.sheets sheets) :
      ExportsTo clock root p (.ok w) []
        { outcome := .ofSheets p sheets []
          records := (exportIssues w).map (.ofIssue clock.timestamp w.name "") }
  | givenUp (w : Workbook) (lost : List Written) (e : Failure)
      (few : lost.length < (accepted w).length)
      (paths : (lost.map Written.path).Sublist
        ((accepted w).map fun d => assetPath root d.schema d.sheet))
      (system : e.isSystem = true) :
      ExportsTo clock root p (.ok w) lost
        { outcome := { path := p, status := .failed,
                       error := some ("asset write failed: " ++ e.message) }
          records := [.ofWrite clock.timestamp w.name e.message] }

variable {clock : Clock} {root : Path} {before after : Workspace}

/-- Issues are recorded one by one, and no file changes. -/
theorem noteAll_eq {file : String} {issues : List Issue} {records : List ErrorRecord}
    (ran : noteAll clock file issues before = (.ok records, after)) :
    records = issues.map (.ofIssue clock.timestamp file "") ∧ after.files = before.files := by
  induction issues generalizing before records with
  | nil =>
    cases ran
    exact ⟨rfl, rfl⟩
  | cons i rest inductionHypothesis =>
    rw [noteAll, Job.run_bind, run_note] at ran
    obtain ⟨others, last, later, ended⟩ := Job.bind_ok ran
    cases ended
    obtain ⟨rfl, same⟩ := inductionHypothesis later
    exact ⟨rfl, same⟩

/-- What becomes of a schema file, and of the files that are written for it. -/
theorem exportsTo_of_exportFile {p : Path} {result : FileResult} (split : IsSplit root)
    (distinct : ∀ w, workbookAt? before.files p = some w → w.sheetNames.Nodup)
    (ran : exportFile clock root p before = (.ok result, after)) :
    ∃ opened lost, opening before.files p = .ok opened ∧ ExportsTo clock root p opened lost result ∧
      Touches (result.outcome.chronicle lost) before.files after.files := by
  rw [exportFile, Job.run_bind, run_openFile] at ran
  cases opens : opening before.files p with
  | error e =>
    rw [opens] at ran
    cases ran
  | ok opened =>
    rw [opens] at ran
    refine ⟨opened, ?_⟩
    cases opened with
    | error u =>
      cases ran
      exact ⟨[], rfl, .unopened u, .refl _⟩
    | ok w =>
      have known := workbookAt?_eq_some.mpr opens
      have identifier := (named_of_workbookAt? known).1
      have products : ∀ d ∈ accepted w, IsProduct (assetPath root d.schema d.sheet) := by
        intro d described
        obtain ⟨-, schema, sheet⟩ := named_of_accepted_of_name identifier described
        exact isProduct_assetPath split schema sheet
      dsimp only at ran
      rw [Job.run_bind, Job.run_attempt] at ran
      cases exports : exportWorkbook w root none before with
      | mk outcome middle =>
        obtain ⟨written, touches, paths, entered, fewer⟩ := touches_of_exportWorkbook products exports
        rw [exports] at ran
        cases outcome with
        | error e =>
          obtain ⟨⟨outcome, records⟩, last, stops, ran⟩ := Job.bind_ok ran
          cases ran
          obtain ⟨system, same, rfl, rfl⟩ := aborted_ok stops
          refine ⟨written, rfl, .givenUp w written e (fewer e rfl) paths system, ?_⟩
          rw [same]
          exact touches
        | ok exported =>
          obtain ⟨records, last, notes, ran⟩ := Job.bind_ok ran
          cases ran
          obtain ⟨rfl, same⟩ := noteAll_eq notes
          obtain ⟨seen, issues⟩ := sheetsExported_of_exportWorkbook (distinct w known) exports
          rw [issues]
          refine ⟨[], rfl, .finished w exported.sheets seen, ?_⟩
          rw [same, FileOutcome.chronicle, List.append_nil]
          exact touches.perm ((entered exported rfl).trans (.of_eq (List.append_nil _).symm))

end Run

end TypedSheets

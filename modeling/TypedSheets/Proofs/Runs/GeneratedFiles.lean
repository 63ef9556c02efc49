import TypedSheets.Proofs.Runs.FinishedFiles
import TypedSheets.Proofs.Runs.TouchedFiles

/-!
# What becomes of a schema file

When modules are generated from a schema file it cannot be opened, or it is seen to the end, or a failure
of the system ends the work on it. In each case its outcome, its records and its entries are known from
the sheets that were seen to, and all that was written is reported but for what was written in vain
before the failure: some modules of one sheet, or of the file as a whole.
-/

namespace TypedSheets

open TypedSheets.Emission TypedSheets.Grid TypedSheets.Schema TypedSheets.Text FileTree

/-- The entries of a file in the order of time: those of its sheets, those of the file as a whole, and
those that are not reported. -/
def FileOutcome.chronicle (f : FileOutcome) (lost : List Written) : List Written :=
  f.sheets.flatMap SheetOutcome.artifacts ++ f.artifacts ++ lost

theorem FileOutcome.perm_chronicle (f : FileOutcome) (lost : List Written) :
    (f.chronicle lost).Perm (f.allArtifacts ++ lost) :=
  List.perm_append_comm.append_right lost

namespace Run

/-- The records of the sheets that are refused, in their order. -/
def refusalRecords (clock : Clock) (schema : String)
    (outcomes : List (String × Except ShapeError Description)) : List ErrorRecord :=
  outcomes.filterMap fun outcome =>
    match outcome.2 with
    | .error e => some (.ofIssue clock.timestamp schema outcome.1 e.issue)
    | .ok _ => none

/-- What becomes of a sheet that is seen to: it fails, or its three modules are written. -/
inductive SheetSeen (target : Destination) (schema : String) :
    String × Except ShapeError Description → SheetOutcome → Prop
  | refused (sheet : String) (e : ShapeError) :
      SheetSeen target schema (sheet, .error e) (.failed schema sheet e.text)
  | written (sheet : String) (d : Description) (artifacts : List Written)
      (paths : artifacts.map Written.path = (sheetModules d).map (GeneratedModule.path target)) :
      SheetSeen target schema (sheet, .ok d) { schema, sheet, artifacts }

/-- The modules of a workbook as a whole, which are written when a sheet is accepted. -/
def sharedModules (w : Workbook) : List GeneratedModule :=
  if (accepted w).isEmpty then [] else [.enumerations w.name, .exporter w.name]

theorem sharedModules_sublist (w : Workbook) :
    (sharedModules w).Sublist [.enumerations w.name, .exporter w.name] := by
  unfold sharedModules
  split
  · exact List.nil_sublist _
  · exact .refl _

/-- What becomes of a schema file from what opening it comes to, with the entries that are lost. -/
inductive Generates (clock : Clock) (target : Destination) (p : Path) :
    Except Unopened Workbook → List Written → FileResult → Prop
  | unopened (u : Unopened) :
      Generates clock target p (.error u) []
        { outcome := u.outcome p
          records := [.ofIssue clock.timestamp p.stem u.sheet u.issue] }
  | finished (w : Workbook) (sheets : List SheetOutcome) (shared : List Written)
      (seen : List.Forall₂ (SheetSeen target w.name) (verdicts w) sheets)
      (paths : shared.map Written.path = (sharedModules w).map (GeneratedModule.path target)) :
      Generates clock target p (.ok w) []
        { outcome := .ofSheets p sheets shared
          records := refusalRecords clock w.name (verdicts w)
          entries := registryEntries w }
  | givenUp (w : Workbook) (early late : List (String × Except ShapeError Description))
      (sheets : List SheetOutcome) (lost : List Written) (e : Failure)
      (split : verdicts w = early ++ late)
      (seen : List.Forall₂ (SheetSeen target w.name) early sheets)
      (few : lost.length < 3)
      (paths : (lost.map Written.path).Sublist
        (((described late).flatMap sheetModules ++
          [GeneratedModule.enumerations w.name, .exporter w.name]).map (GeneratedModule.path target)))
      (system : e.isSystem = true) :
      Generates clock target p (.ok w) lost
        { outcome := { path := p, status := .failed, sheets,
                       error := some ("artifact write failed: " ++ e.message) }
          records := refusalRecords clock w.name early ++ [.ofWrite clock.timestamp w.name e.message] }

variable {clock : Clock} {target : Destination} {before after : Workspace}

/-- How far the sheets of a workbook were seen to: what was written of a further one is lost. -/
structure SheetsSeen (clock : Clock) (target : Destination) (schema : String)
    (early late : List (String × Except ShapeError Description)) (sheets : List SheetOutcome)
    (lost : List Written) (work done : FileWork) (before after : FileTree) : Prop where
  seen : List.Forall₂ (SheetSeen target schema) early sheets
  outcomes : done.sheets = work.sheets ++ sheets
  records : done.records = work.records ++ refusalRecords clock schema early
  succeeded : done.succeeded = work.succeeded ++ described early
  touches : Touches (sheets.flatMap SheetOutcome.artifacts ++ lost) before after
  few : lost.length < 3
  paths : (lost.map Written.path).Sublist
    (((described late).flatMap sheetModules).map (GeneratedModule.path target))

namespace SheetsSeen

variable {schema sheet : String} {early late : List (String × Except ShapeError Description)}
  {sheets : List SheetOutcome} {lost : List Written} {work done : FileWork} {t u v : FileTree}

/-- Before the first sheet. -/
theorem start (touches : Touches lost t u) (few : lost.length < 3)
    (paths : (lost.map Written.path).Sublist
      (((described late).flatMap sheetModules).map (GeneratedModule.path target))) :
    SheetsSeen clock target schema [] late [] lost work work t u := by
  refine ⟨.nil, ?_, ?_, ?_, touches, few, paths⟩
  all_goals exact (List.append_nil _).symm

/-- A refused sheet before the others. -/
theorem refused (e : ShapeError) (same : u = t)
    (further : SheetsSeen clock target schema early late sheets lost
      { work with
        sheets := work.sheets ++ [.failed schema sheet e.text]
        records := work.records ++ [.ofIssue clock.timestamp schema sheet e.issue] } done u v) :
    SheetsSeen clock target schema ((sheet, .error e) :: early) late
      (.failed schema sheet e.text :: sheets) lost work done t v := by
  subst same
  refine ⟨.cons (.refused sheet e) further.seen, ?_, ?_, further.succeeded, further.touches, further.few,
    further.paths⟩
  · rw [further.outcomes, List.append_assoc]
    rfl
  · rw [further.records, List.append_assoc]
    rfl

/-- A sheet whose modules are written before the others. -/
theorem written {d : Description} {artifacts : List Written} (touches : Touches artifacts t u)
    (paths : artifacts.map Written.path = (sheetModules d).map (GeneratedModule.path target))
    (further : SheetsSeen clock target schema early late sheets lost
      { work with
        sheets := work.sheets ++ [{ schema, sheet, artifacts }]
        succeeded := work.succeeded ++ [d] } done u v) :
    SheetsSeen clock target schema ((sheet, .ok d) :: early) late
      ({ schema, sheet, artifacts } :: sheets) lost work done t v := by
  refine ⟨.cons (.written sheet d artifacts paths) further.seen, ?_, further.records, ?_, ?_, further.few,
    further.paths⟩
  · rw [further.outcomes, List.append_assoc]
    rfl
  · rw [further.succeeded, List.append_assoc]
    rfl
  · have both := touches.trans further.touches
    rw [← List.append_assoc] at both
    exact both

end SheetsSeen

/-- The modules of an accepted sheet lie where they are named. -/
theorem sheetArtifacts_paths_of_accepted (target : Destination) {w : Workbook}
    (identifier : isIdentifier w.name = true) {d : Description} (described : d ∈ accepted w) :
    (sheetArtifacts target d).map Artifact.path =
      (sheetModules d).map (GeneratedModule.path target) := by
  obtain ⟨schema, sheet⟩ := named_of_accepted described
  rw [← schema] at identifier
  exact sheetArtifacts_paths target identifier sheet

/-- The sheets of a workbook are seen to one after another, all of them or up to one that is stopped by a
failure. -/
theorem sheetsSeen_of_generateSheets {w : Workbook} (identifier : isIdentifier w.name = true)
    (split : IsSplit target.codeRoot) {outcomes : List (String × Except ShapeError Description)}
    (accepts : ∀ d ∈ described outcomes, d ∈ accepted w) {work done : FileWork}
    {stopped : Option Failure}
    (ran : generateSheets clock target w.name outcomes work before = (.ok (done, stopped), after)) :
    ∃ early late sheets lost, outcomes = early ++ late ∧ (stopped = none → late = []) ∧
      SheetsSeen clock target w.name early late sheets lost work done before.files after.files := by
  induction outcomes generalizing work before with
  | nil =>
    cases ran
    exact ⟨[], [], [], [], rfl, fun _ => rfl, .start (.refl _) (by decide) (List.nil_sublist _)⟩
  | cons outcome rest inductionHypothesis =>
    obtain ⟨sheet, verdict⟩ := outcome
    cases verdict with
    | error e =>
      rw [generateSheets, Job.run_bind, run_note] at ran
      dsimp only at ran
      rw [Job.run_bind, Job.run_attempt] at ran
      have same := keepsFiles_warnIfStale target w.name sheet
        (before.emit (.line ⟨.error, e.issue.kind.code ++ ": " ++ e.issue.text⟩))
      cases warned : warnIfStale target w.name sheet
          (before.emit (.line ⟨.error, e.issue.kind.code ++ ": " ++ e.issue.text⟩)) with
      | mk result middle =>
        rw [warned] at ran same
        cases result with
        | ok _ =>
          obtain ⟨early, late, sheets, lost, rfl, ends, seen⟩ := inductionHypothesis accepts ran
          exact ⟨_, late, _, lost, rfl, ends, seen.refused e same⟩
        | error failure =>
          cases ran
          refine ⟨[(sheet, .error e)], rest, [.failed w.name sheet e.text], [], rfl, ?_,
            .refused e same (.start (.refl _) (by decide) (List.nil_sublist _))⟩
          intro none
          cases none
    | ok d =>
      have own : d ∈ accepted w := accepts d List.mem_cons_self
      have further : ∀ other ∈ described rest, other ∈ accepted w :=
        fun other member => accepts other (List.mem_cons_of_mem d member)
      have places := sheetArtifacts_paths_of_accepted target identifier own
      rw [generateSheets, Job.run_bind, Job.run_attempt] at ran
      cases wrote : writeArtifacts (sheetArtifacts target d) before with
      | mk result middle =>
        obtain ⟨entries, touches, entered⟩ :=
          touches_of_writeArtifacts (isProduct_sheetArtifacts split identifier own) wrote
        rw [wrote] at ran
        cases result with
        | error failure =>
          cases ran
          obtain ⟨few, paths⟩ := entered
          rw [places] at paths
          refine ⟨[], (sheet, .ok d) :: rest, [], entries, rfl, ?_, .start touches few ?_⟩
          · intro none
            cases none
          · exact paths.trans ((List.sublist_append_left _ _).map _)
        | ok artifacts =>
          obtain ⟨rfl, paths⟩ := entered
          rw [places] at paths
          obtain ⟨early, late, sheets, lost, rfl, ends, seen⟩ := inductionHypothesis further ran
          exact ⟨_, late, _, lost, rfl, ends, .written touches paths seen⟩

/-- Sheets that no failure stops are all seen to, and nothing is lost. -/
theorem work_of_generateSheets {w : Workbook} (identifier : isIdentifier w.name = true)
    (split : IsSplit target.codeRoot) {work : FileWork}
    (ran : generateSheets clock target w.name (verdicts w) {} before = (.ok (work, none), after)) :
    List.Forall₂ (SheetSeen target w.name) (verdicts w) work.sheets ∧
      work.records = refusalRecords clock w.name (verdicts w) ∧ work.succeeded = accepted w ∧
      Touches (work.sheets.flatMap SheetOutcome.artifacts) before.files after.files := by
  have accepts : ∀ d ∈ described (verdicts w), d ∈ accepted w := by
    rw [described_verdicts]
    exact fun _ member => member
  obtain ⟨early, late, sheets, lost, parts, ends, seen⟩ :=
    sheetsSeen_of_generateSheets identifier split accepts ran
  obtain rfl := ends rfl
  obtain rfl : lost = [] := List.map_eq_nil_iff.mp (List.sublist_nil.mp seen.paths)
  rw [List.append_nil] at parts
  rw [← parts] at seen
  have outcomes : work.sheets = sheets := seen.outcomes
  have succeeded : work.succeeded = described (verdicts w) := seen.succeeded
  have touches := seen.touches
  rw [List.append_nil] at touches
  rw [outcomes]
  exact ⟨seen.seen, seen.records, succeeded.trans (described_verdicts w), touches⟩

/-- The modules of a file as a whole are written when a sheet has succeeded, or some of them up to one
that cannot be. -/
theorem touches_of_generateShared {p : Path} {w : Workbook} (identifier : isIdentifier w.name = true)
    (split : IsSplit target.codeRoot) {outcome : Except Failure (List Written)}
    (ran : generateShared target p w (accepted w) before = (outcome, after)) :
    ∃ written, Touches written before.files after.files ∧
      Entered ((sharedModules w).map (GeneratedModule.path target)) written outcome := by
  unfold generateShared at ran
  unfold sharedModules
  split at ran
  · next empty =>
    cases ran
    rw [if_pos empty]
    exact ⟨[], .refl _, rfl, rfl⟩
  · next some =>
    rw [if_neg some]
    dsimp only at ran
    rw [Job.run_bind, Job.run_ofExcept] at ran
    cases rendered : fileArtifacts target w.name p ((collectEnums w).map Prod.snd) (accepted w) with
    | error e =>
      rw [rendered] at ran
      cases ran
      exact ⟨[], .refl _, Nat.zero_lt_succ _, List.nil_sublist _⟩
    | ok artifacts =>
      rw [rendered] at ran
      rw [← fileArtifacts_paths identifier rendered]
      exact touches_of_writeArtifacts (isProduct_fileArtifacts split identifier rendered) ran

/-- The registry is written when a sheet has succeeded anywhere, unless it cannot be. -/
theorem touches_of_writeRegistry {entries : List RegistryEntry} (split : IsSplit target.codeRoot)
    {outcome : Except Failure (List Written)}
    (ran : writeRegistry target entries before = (outcome, after)) :
    ∃ written, Touches written before.files after.files ∧
      Entered (if entries.isEmpty then [] else [GeneratedModule.registry.path target]) written
        outcome := by
  unfold writeRegistry at ran
  split at ran
  · next empty =>
    cases ran
    rw [if_pos empty]
    exact ⟨[], .refl _, rfl, rfl⟩
  · next some =>
    rw [if_neg some]
    have product := isProduct_registryArtifact split entries
    dsimp only at ran
    rw [Job.run_bind, Job.run_attempt] at ran
    cases wrote : writeArtifact (registryArtifact target entries) before with
    | mk result middle =>
      rw [wrote] at ran
      cases result with
      | ok w =>
        cases ran
        have path : w.path = (registryArtifact target entries).path := (writeArtifact_ok wrote).2
        refine ⟨[w], touches_of_written product wrote, rfl, ?_⟩
        rw [List.map_singleton, path, ← registryPath_eq]
        rfl
      | error e =>
        have nothing := touches_of_unwritten product wrote
        dsimp only at ran
        split at ran
        · cases ran
          exact ⟨[], nothing, Nat.zero_lt_succ _, List.nil_sublist _⟩
        · cases ran
          exact ⟨[], nothing, Nat.zero_lt_succ _, List.nil_sublist _⟩

/-- The work on a file can only be given up for a failure of the system, which is recorded. -/
theorem aborted_ok {p : Path} {schema text : String} {work : FileWork} {e : Failure}
    {outcome : FileOutcome} {records : List ErrorRecord}
    (ran : aborted clock p schema text work e before = (.ok (outcome, records), after)) :
    e.isSystem = true ∧ after.files = before.files ∧
      outcome = { path := p, status := .failed, sheets := work.sheets,
                  error := some (text ++ " write failed: " ++ e.message) } ∧
      records = work.records ++ [.ofWrite clock.timestamp schema e.message] := by
  unfold aborted at ran
  split at ran
  · next system =>
    cases ran
    exact ⟨system, rfl, rfl, rfl⟩
  · cases ran

/-- What becomes of a schema file, and of the files that are written for it. -/
theorem generates_of_generateFile {p : Path} {result : FileResult} (split : IsSplit target.codeRoot)
    (distinct : ∀ w, workbookAt? before.files p = some w → w.sheetNames.Nodup)
    (ran : generateFile clock target p before = (.ok result, after)) :
    ∃ opened lost, opening before.files p = .ok opened ∧ Generates clock target p opened lost result ∧
      Touches (result.outcome.chronicle lost) before.files after.files := by
  cases endsWith_of_generateFile distinct ran with
  | unopened u opens same =>
    refine ⟨.error u, [], opens, .unopened u, ?_⟩
    rw [same]
    exact .refl _
  | stopped w logged middle work e outcome records opens same sheets aborts =>
    have identifier := (named_of_workbookAt? (workbookAt?_eq_some.mpr opens)).1
    have accepts : ∀ d ∈ described (verdicts w), d ∈ accepted w := by
      rw [described_verdicts]
      exact fun _ member => member
    obtain ⟨early, late, outcomes, lost, parts, -, seen⟩ :=
      sheetsSeen_of_generateSheets identifier split accepts sheets
    have given : work.sheets = outcomes := seen.outcomes
    have noted : work.records = refusalRecords clock w.name early := seen.records
    obtain ⟨system, unchanged, rfl, rfl⟩ := aborted_ok aborts
    rw [given, noted]
    refine ⟨.ok w, lost, opens, ?_, ?_⟩
    · exact .givenUp w early late outcomes lost e parts seen.seen seen.few
        (seen.paths.trans ((List.sublist_append_left _ _).map _)) system
    · rw [unchanged, ← same, FileOutcome.chronicle, List.append_nil]
      exact seen.touches
  | givenUp w logged middle last work e outcome records opens same sheets shared aborts =>
    have identifier := (named_of_workbookAt? (workbookAt?_eq_some.mpr opens)).1
    obtain ⟨seen, noted, succeeded, touches⟩ := work_of_generateSheets identifier split sheets
    rw [succeeded] at shared
    obtain ⟨written, further, few, paths⟩ := touches_of_generateShared identifier split shared
    obtain ⟨system, unchanged, rfl, rfl⟩ := aborted_ok aborts
    rw [noted]
    refine ⟨.ok w, written, opens, ?_, ?_⟩
    · refine .givenUp w (verdicts w) [] work.sheets written e (List.append_nil _).symm seen ?_
        (paths.trans ((sharedModules_sublist w).map _)) system
      exact Nat.lt_of_lt_of_le few (Nat.le_succ_of_le ((sharedModules_sublist w).map _).length_le)
    · rw [unchanged, ← same, FileOutcome.chronicle, List.append_nil]
      exact touches.trans further
  | finished w logged middle work artifacts opens same sheets shared =>
    have identifier := (named_of_workbookAt? (workbookAt?_eq_some.mpr opens)).1
    obtain ⟨seen, noted, succeeded, touches⟩ := work_of_generateSheets identifier split sheets
    rw [succeeded] at shared
    obtain ⟨written, further, rfl, paths⟩ := touches_of_generateShared identifier split shared
    rw [noted, succeeded]
    refine ⟨.ok w, [], opens, .finished w work.sheets written seen paths, ?_⟩
    rw [← same, FileOutcome.chronicle, List.append_nil]
    exact touches.trans further

end Run

end TypedSheets

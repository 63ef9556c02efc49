import TypedSheets.Proofs.Export.OutcomeOrder
import TypedSheets.Proofs.Export.SheetExports
import TypedSheets.Proofs.Schema.AcceptedSheets
import TypedSheets.Proofs.Schema.Refusals

/-!
# Exporting a workbook

Every selected sheet of a workbook gets one outcome, in the order of the sheets, and every selected
name that the workbook lacks gets a failed one behind them. A sheet succeeds exactly when it is
accepted and its rows coerce; then its asset file holds its records. No other file changes.
-/

namespace TypedSheets

open TypedSheets.Emission TypedSheets.Grid TypedSheets.Schema TypedSheets.Text FileTree

/-- A sheet of a workbook is accepted, and its rows coerce to records. -/
def Yields (w : Workbook) (sheet : String) (d : Description) (records : List Entries) : Prop :=
  d ∈ accepted w ∧ d.sheet = sheet ∧ buildRecords d = .ok records

/-- The selected names that a workbook lacks, in the order of the selection. -/
def missingNames (w : Workbook) (selection : Option (List String)) : List String :=
  (selection.getD []).filter fun name => !w.sheetNames.contains name

/-- The issue with a selected name that a workbook lacks. -/
def missingIssue (w : Workbook) (name : String) : Issue :=
  ShapeError.issue { cause := .missingSheet, place := { file := w.name, sheet := name } }

/-- What an outcome says about one sheet of a workbook. -/
structure OutcomeOf (w : Workbook) (root : Path) (after : FileTree) (sheet : String)
    (o : SheetOutcome) : Prop where
  file : o.schema = w.name
  named : o.sheet = sheet
  succeeded : o.succeeded = true ↔ ∃ d records, Yields w sheet d records
  written : ∀ d records, Yields w sheet d records → o.records = d.rows.length ∧
    ∃ artifact text, o.artifacts = [artifact] ∧ artifact.path = assetPath root w.name sheet ∧
      (sheetAsset sheet records).text = .ok text ∧
      after.read artifact.path = .ok (.bytes (encodeUtf8 text))

/-- An outcome that fails by an issue: it has the text of the issue and nothing else. -/
def FailsBy (w : Workbook) (o : SheetOutcome) (i : Issue) : Prop :=
  o = .failed w.name i.place.sheet i.text ∧ i.place.file = w.name

/-- What an export of the selected sheets of a workbook leaves behind. -/
structure IsolatedExport (w : Workbook) (root : Path) (selection : Option (List String))
    (before after : FileTree) (result : WorkbookExport) : Prop where
  /-- One outcome for each selected sheet, then a failed one for each missing name. -/
  outcomes : ∃ own, result.sheets = own ++ (missingNames w selection).map (fun name =>
      .failed w.name name (missingIssue w name).text) ∧
    List.Forall₂ (OutcomeOf w root after) (w.sheetNames.filter (isSelected selection)) own
  /-- Failed outcomes and issues belong to each other, one by one. -/
  paired : ∃ issues : List Issue, issues.Perm result.issues ∧
    List.Forall₂ (FailsBy w) (result.sheets.filter fun o => !o.succeeded) issues
  /-- No file has changed but the assets of the sheets that succeeded. -/
  frame : ∀ at_, (∀ o ∈ result.sheets, o.succeeded = true →
      after.locate (assetPath root w.name o.sheet) ≠ .ok at_) →
    after.fileAt? at_ = before.fileAt? at_
  /-- In particular the asset of a sheet that failed or was not selected reads as before. -/
  spared : ∀ sheet content, isIdentifier sheet = true →
    (∀ o ∈ result.sheets, o.succeeded = true → o.sheet ≠ sheet) →
    before.read (assetPath root w.name sheet) = .ok content →
    after.read (assetPath root w.name sheet) = .ok content

/-- What one sheet of a workbook answers, with the issue that stops it. -/
inductive Answers (w : Workbook) (root : Path) (files : FileTree) (sheet : Sheet) :
    Exported → Prop where
  | refused (e : ShapeError) (refused : interpretIn w.name (collectEnums w) sheet = .error e) :
      Answers w root files sheet (stoppedBy w.name e.place.sheet e.issue)
  | exported (d : Description) (e : Exported)
      (accepted : interpretIn w.name (collectEnums w) sheet = .ok d)
      (exports : Exports root files d e) : Answers w root files sheet e

/-- Whether a sheet was stopped by its shape. -/
def isRefusal (e : Exported) : Bool := e.2.any fun i => i.kind = .shape

/-- No sheet that is accepted is stopped by its shape. -/
theorem Exports.not_refusal {root : Path} {files : FileTree} {d : Description} {e : Exported}
    (exports : Exports root files d e) : isRefusal e = false := by
  cases exports <;> rfl

/-- Every refusal is one. -/
theorem Schema.ShapeError.stopped_refusal (e : ShapeError) (schema sheet : String) :
    isRefusal (stoppedBy schema sheet e.issue) = true := rfl

/-- The answers of refused sheets and of accepted ones come from one list of answers, in the order
of the sheets. -/
theorem exists_answers (w : Workbook) {root : Path} {files : FileTree} (sheets : List Sheet)
    {exported : List Exported}
    (answers : List.Forall₂ (Exports root files)
      (sheets.filterMap fun s => (interpretIn w.name (collectEnums w) s).toOption) exported) :
    ∃ own, List.Forall₂ (Answers w root files) sheets own ∧
      own.filter isRefusal = (sheets.filterMap fun s =>
        match interpretIn w.name (collectEnums w) s with
        | .ok _ => none
        | .error e => some e).map (fun e => stoppedBy w.name e.place.sheet e.issue) ∧
      own.filter (fun e => !isRefusal e) = exported := by
  induction sheets generalizing exported with
  | nil =>
    cases answers
    exact ⟨[], .nil, rfl, rfl⟩
  | cons s rest inductionHypothesis =>
    cases verdict : interpretIn w.name (collectEnums w) s with
    | error e =>
      rw [List.filterMap_cons_none (by rw [verdict]; rfl)] at answers
      obtain ⟨own, each, stopped, others⟩ := inductionHypothesis answers
      refine ⟨stoppedBy w.name e.place.sheet e.issue :: own, .cons (.refused e verdict) each, ?_, ?_⟩
      · rw [List.filter_cons_of_pos (e.stopped_refusal _ _), stopped, List.filterMap_cons, verdict]
        rfl
      · rw [List.filter_cons_of_neg (by rw [e.stopped_refusal]; decide), others]
    | ok d =>
      rw [List.filterMap_cons_some (by rw [verdict]; rfl)] at answers
      cases answers with
      | cons first further =>
        obtain ⟨own, each, stopped, others⟩ := inductionHypothesis further
        refine ⟨_ :: own, .cons (.exported d _ verdict first) each, ?_, ?_⟩
        · rw [List.filter_cons_of_neg (by rw [first.not_refusal]; decide), stopped,
            List.filterMap_cons, verdict]
        · rw [List.filter_cons_of_pos (by rw [first.not_refusal]; rfl), others]

/-- An answer is about its own sheet. -/
theorem Answers.sheet_eq {w : Workbook} {root : Path} {files : FileTree} {sheet : Sheet}
    {e : Exported} (answers : Answers w root files sheet e) :
    e.1.schema = w.name ∧ e.1.sheet = sheet.name := by
  cases answers with
  | refused e refused => exact ⟨rfl, (interpretIn_refusesAt _ e refused).2⟩
  | exported d e accepted exports =>
    have own := (accepts_of_interpretIn accepted).1
    exact ⟨exports.sheet_eq.1.trans own.file, exports.sheet_eq.2.trans own.named⟩

/-- An answer either succeeds without an issue, or fails by its issue. -/
theorem Answers.failsBy {w : Workbook} {root : Path} {files : FileTree} {sheet : Sheet}
    {e : Exported} (answers : Answers w root files sheet e) :
    (e.2 = none ∧ e.1.succeeded = true) ∨ ∃ i, e.2 = some i ∧ FailsBy w e.1 i := by
  cases answers with
  | refused e refused =>
    exact .inr ⟨e.issue, rfl, rfl, (interpretIn_refusesAt _ e refused).1⟩
  | exported d e accepted exports =>
    have own := (accepts_of_interpretIn accepted).1
    cases exports with
    | written records artifact built path held => exact .inl ⟨rfl, rfl⟩
    | stopped cause place refused =>
      obtain ⟨file, sheet⟩ := coerceRows_place refused
      refine .inr ⟨cause.issue place, rfl, ?_, file.trans own.file⟩
      rw [stoppedBy, own.file, ← sheet]
      rfl

/-- Of sheets with different names the one with a name yields its records. -/
theorem yields_iff {w : Workbook} (distinct : w.sheetNames.Nodup) {s : Sheet} (inside : s ∈ w.sheets)
    (d : Description) (records : List Entries) : Yields w s.name d records ↔
      interpretIn w.name (collectEnums w) s = .ok d ∧ buildRecords d = .ok records := by
  constructor
  · rintro ⟨described, named, built⟩
    obtain ⟨other, present, accepted⟩ := mem_accepted.mp described
    have same : other.name = s.name := (accepts_of_interpretIn accepted).1.named.symm.trans named
    obtain rfl := List.inj_on_of_nodup_map distinct present inside same
    exact ⟨accepted, built⟩
  · rintro ⟨accepted, built⟩
    exact ⟨mem_accepted.mpr ⟨s, inside, accepted⟩, (accepts_of_interpretIn accepted).1.named, built⟩

/-- The answer of a sheet is its outcome. -/
theorem Answers.outcomeOf {w : Workbook} {root : Path} {files : FileTree} {sheet : Sheet}
    {e : Exported} (answers : Answers w root files sheet e) (distinct : w.sheetNames.Nodup)
    (inside : sheet ∈ w.sheets) : OutcomeOf w root files sheet.name e.1 := by
  obtain ⟨file, named⟩ := answers.sheet_eq
  refine ⟨file, named, ?_, ?_⟩
  · simp only [yields_iff distinct inside]
    cases answers with
    | refused e refused => simp [refused, stoppedBy, SheetOutcome.failed, SheetOutcome.succeeded]
    | exported d e accepted exports =>
      cases exports with
      | written records artifact built path held =>
        simp [accepted, built, SheetOutcome.succeeded]
      | stopped cause place refused =>
        simp [accepted, refused, stoppedBy, SheetOutcome.failed, SheetOutcome.succeeded]
  · intro d records yields
    obtain ⟨accepted, built⟩ := (yields_iff distinct inside d records).mp yields
    cases answers with
    | refused e refused =>
      rw [accepted] at refused
      cases refused
    | exported own e ownAccepted exports =>
      rw [accepted] at ownAccepted
      cases ownAccepted
      have accepts := (accepts_of_interpretIn accepted).1
      cases exports with
      | written ownRecords artifact ownBuilt path held =>
        rw [built] at ownBuilt
        cases ownBuilt
        obtain ⟨text, at_, content, noNull, located, found⟩ := held
        rw [accepts.file, accepts.named] at path
        rw [accepts.named] at content
        exact ⟨by rw [length_of_buildRecords built], artifact, text, rfl, path, content,
          FileTree.read_eq noNull located found⟩
      | stopped cause place refused =>
        rw [built] at refused
        cases refused

/-- The refusals of the selected sheets are those of their sheets. -/
theorem refused_selected (w : Workbook) (selection : Option (List String)) :
    (refused w).filter (fun e => isSelected selection e.place.sheet) =
      (w.sheets.filter fun s => isSelected selection s.name).filterMap fun s =>
        match interpretIn w.name (collectEnums w) s with
        | .ok _ => none
        | .error e => some e := by
  rw [refused, interpretSheets, List.filterMap_map, List.filter_filterMap, List.filterMap_filter]
  refine List.filterMap_congr fun s _ => ?_
  cases verdict : interpretIn w.name (collectEnums w) s with
  | ok d => simp [verdict]
  | error e => simp [verdict, Option.filter, (interpretIn_refusesAt _ e verdict).2]

/-- So are the descriptions. -/
theorem accepted_selected (w : Workbook) (selection : Option (List String)) :
    (accepted w).filter (fun d => isSelected selection d.sheet) =
      (w.sheets.filter fun s => isSelected selection s.name).filterMap fun s =>
        (interpretIn w.name (collectEnums w) s).toOption := by
  rw [accepted, interpretSheets, List.filterMap_map, List.filter_filterMap, List.filterMap_filter]
  refine List.filterMap_congr fun s _ => ?_
  cases verdict : interpretIn w.name (collectEnums w) s with
  | ok d => simp [verdict, Except.toOption, Option.filter, (accepts_of_interpretIn verdict).1.named]
  | error e => simp [verdict, Except.toOption]

/-- A missing name has a failed outcome of its own. -/
def absentOutcome (w : Workbook) (name : String) : Exported :=
  stoppedBy w.name name (missingIssue w name)

/-- The answers of the sheets, and the missing names behind them, are the sorted outcomes. -/
theorem mergeSort_answers {w : Workbook} (distinct : w.sheetNames.Nodup)
    {selection : Option (List String)} {own : List Exported}
    (names : own.map (fun e => e.1.sheet) = w.sheetNames.filter (isSelected selection)) :
    ((own.filter isRefusal ++ own.filter (fun e => !isRefusal e) ++
        (missingNames w selection).map (absentOutcome w)).mergeSort fun a b =>
          sheetRank w.sheetNames a.1.sheet ≤ sheetRank w.sheetNames b.1.sheet) =
      own ++ (missingNames w selection).map (absentOutcome w) := by
  have ascending : own.Pairwise fun a b =>
      sheetRank w.sheetNames a.1.sheet < sheetRank w.sheetNames b.1.sheet := by
    have ranks := (sheetRank_ascending distinct).filter (isSelected selection)
    rw [← names, List.pairwise_map] at ranks
    exact ranks
  have present : ∀ e ∈ own, sheetRank w.sheetNames e.1.sheet < w.sheetNames.length := by
    intro e member
    have inside : e.1.sheet ∈ w.sheetNames.filter (isSelected selection) := by
      rw [← names]
      exact List.mem_map_of_mem member
    exact sheetRank_present distinct (List.mem_filter.mp inside).1
  have behind : ∀ e ∈ (missingNames w selection).map (absentOutcome w),
      sheetRank w.sheetNames e.1.sheet = w.sheetNames.length := by
    intro e member
    obtain ⟨name, missing, rfl⟩ := List.mem_map.mp member
    have absent : name ∉ w.sheetNames := by simpa using (List.mem_filter.mp missing).2
    exact sheetRank_absent absent
  refine mergeSort_eq_of_ranks (fun e : Exported => sheetRank w.sheetNames e.1.sheet) _ _ ?_ ?_
  · refine List.pairwise_append.mpr ⟨ascending.imp fun before => Nat.le_of_lt before, ?_, ?_⟩
    · refine List.Pairwise.imp_of_mem ?_ (List.pairwise_of_forall fun _ _ => trivial)
      intro a b left right _
      exact Nat.le_of_eq ((behind a left).trans (behind b right).symm)
    · intro a left b right
      have before := present a left
      have after := behind b right
      omega
  · intro r
    rw [List.filter_append, List.filter_append,
      filter_divided (fun e : Exported => sheetRank w.sheetNames e.1.sheet) own ascending]

/-- Outcomes that fail come with their issues, in one order. -/
theorem failsBy_of_answers {w : Workbook} {all : List Exported}
    (each : ∀ e ∈ all, (e.2 = none ∧ e.1.succeeded = true) ∨ ∃ i, e.2 = some i ∧ FailsBy w e.1 i) :
    List.Forall₂ (FailsBy w) ((all.map Prod.fst).filter fun o => !o.succeeded)
      (all.filterMap Prod.snd) := by
  induction all with
  | nil => exact .nil
  | cons e rest inductionHypothesis =>
    have further := inductionHypothesis fun other member => each other (List.mem_cons_of_mem e member)
    rw [List.map_cons]
    rcases each e List.mem_cons_self with ⟨none, succeeded⟩ | ⟨i, some, fails⟩
    · rw [List.filter_cons_of_neg (by simp [succeeded]), List.filterMap_cons_none none]
      exact further
    · rw [List.filter_cons_of_pos (by rw [fails.1]; rfl), List.filterMap_cons_some some]
      exact .cons fails further

/-- The answers stand under the names of the sheets. -/
theorem sheets_of_answers {w : Workbook} {root : Path} {files : FileTree} {sheets : List Sheet}
    {own : List Exported} (each : List.Forall₂ (Answers w root files) sheets own) :
    own.map (fun e => e.1.sheet) = sheets.map Sheet.name := by
  induction each with
  | nil => rfl
  | cons first _ inductionHypothesis =>
    rw [List.map_cons, List.map_cons, first.sheet_eq.2, inductionHypothesis]

/-- The selected accepted sheets belong to the workbook and have identifiers for names. -/
theorem named_of_selected (w : Workbook) (selection : Option (List String)) :
    ∀ d ∈ (accepted w).filter fun d => isSelected selection d.sheet,
      d.schema = w.name ∧ isIdentifier d.sheet = true := by
  intro d member
  obtain ⟨s, _, verdict⟩ := mem_accepted.mp (List.mem_filter.mp member).1
  have accepts := (accepts_of_interpretIn verdict).1
  exact ⟨accepts.file, by rw [accepts.named]; exact accepts.identifier⟩

/-- What the export of a workbook ends with, from the outcomes of the sheets that are exported. -/
def gathered (w : Workbook) (selection : Option (List String)) (own : List Exported) : WorkbookExport :=
  let all := ((refused w).filter fun e => isSelected selection e.place.sheet).map
    (fun e => stoppedBy w.name e.place.sheet e.issue) ++ own ++
    (missingNames w selection).map (absentOutcome w)
  { sheets := (all.mergeSort fun a b =>
      sheetRank w.sheetNames a.1.sheet ≤ sheetRank w.sheetNames b.1.sheet).map Prod.fst
    issues := all.filterMap Prod.snd }

/-- A workbook is exported by exporting its accepted sheets that are selected. -/
theorem exportSheets_of_exportWorkbook {w : Workbook} {root : Path} {selection : Option (List String)}
    {before after : Workspace} {outcome : Except Failure WorkbookExport}
    (ran : exportWorkbook w root selection before = (outcome, after)) :
    ∃ exported, exportSheets root ((accepted w).filter fun d => isSelected selection d.sheet)
        { before with console := before.console ++ (interpretationLog w).map .line } = (exported, after) ∧
      outcome = exported.map (gathered w selection) := by
  rw [exportWorkbook, Job.run_bind, Job.run_logAll] at ran
  exact Job.bind_pure_eq ran

theorem exportWorkbook_ok {w : Workbook} {root : Path} {selection : Option (List String)}
    {before after : Workspace} {result : WorkbookExport}
    (ran : exportWorkbook w root selection before = (.ok result, after)) :
    ∃ exported, exportSheets root ((accepted w).filter fun d => isSelected selection d.sheet)
        { before with console := before.console ++ (interpretationLog w).map .line } =
          (.ok exported, after) ∧
      result = gathered w selection exported := by
  obtain ⟨outcome, sheets, ended⟩ := exportSheets_of_exportWorkbook ran
  cases outcome with
  | error e => cases ended
  | ok exported => exact ⟨exported, sheets, Except.ok.inj ended⟩

/-- The sheets of a workbook answer in their order, and the missing names behind them. Issues stand in the
order in which they are found. -/
theorem answers_of_exportWorkbook {w : Workbook} {root : Path} {selection : Option (List String)}
    {before after : Workspace} {result : WorkbookExport} (distinct : w.sheetNames.Nodup)
    (ran : exportWorkbook w root selection before = (.ok result, after)) :
    ∃ own exported,
      List.Forall₂ (Answers w root after.files)
        (w.sheets.filter fun s => isSelected selection s.name) own ∧
      List.Forall₂ (Exports root after.files)
        ((accepted w).filter fun d => isSelected selection d.sheet) exported ∧
      own.filter (fun e => !isRefusal e) = exported ∧
      result.sheets = (own ++ (missingNames w selection).map (absentOutcome w)).map Prod.fst ∧
      result.issues =
        (((refused w).filter fun e => isSelected selection e.place.sheet).map
          (fun e => stoppedBy w.name e.place.sheet e.issue) ++ exported ++
          (missingNames w selection).map (absentOutcome w)).filterMap Prod.snd ∧
      result.issues.Perm
        ((own ++ (missingNames w selection).map (absentOutcome w)).filterMap Prod.snd) ∧
      KeepsDirectories before.files after.files ∧
      ∀ at_, (∀ e ∈ exported, e.2 = none →
          after.files.locate (assetPath root w.name e.1.sheet) ≠ .ok at_) →
        after.files.fileAt? at_ = before.files.fileAt? at_ := by
  obtain ⟨exported, sheets, rfl⟩ := exportWorkbook_ok ran
  have different : (((accepted w).filter fun d => isSelected selection d.sheet).map
      Description.sheet).Nodup :=
    distinct.sublist ((List.filter_sublist.map _).trans (accepted_sublist w))
  obtain ⟨described, kept, frame⟩ := exportSheets_ok (named_of_selected w selection) different sheets
  have answers := described
  rw [accepted_selected] at answers
  obtain ⟨own, each, stopped, others⟩ := exists_answers w _ answers
  have names : own.map (fun e => e.1.sheet) = w.sheetNames.filter (isSelected selection) := by
    rw [sheets_of_answers each, Workbook.sheetNames, List.filter_map]
    rfl
  have sorted := mergeSort_answers distinct names
  have same := List.mergeSort_perm (own.filter isRefusal ++ own.filter (fun e => !isRefusal e) ++
    (missingNames w selection).map (absentOutcome w))
    fun a b => sheetRank w.sheetNames a.1.sheet ≤ sheetRank w.sheetNames b.1.sheet
  rw [sorted] at same
  rw [stopped, ← refused_selected, others] at sorted same
  exact ⟨own, exported, each, described, others, congrArg (List.map Prod.fst) sorted, rfl,
    (same.filterMap _).symm, kept, frame⟩

/-- The answers of the sheets, the issues and the frame make up what an export leaves behind. -/
theorem IsolatedExport.of_exportWorkbook {w : Workbook} {root : Path} {selection : Option (List String)}
    {before after : Workspace} {result : WorkbookExport} (distinct : w.sheetNames.Nodup)
    (ran : exportWorkbook w root selection before = (.ok result, after)) :
    IsolatedExport w root selection before.files after.files result := by
  obtain ⟨own, exported, each, described, others, sheets, -, issues, kept, frame⟩ :=
    answers_of_exportWorkbook distinct ran
  have failing : ∀ e ∈ own ++ (missingNames w selection).map (absentOutcome w),
      (e.2 = none ∧ e.1.succeeded = true) ∨ ∃ i, e.2 = some i ∧ FailsBy w e.1 i := by
    intro e member
    rcases List.mem_append.mp member with inside | behind
    · obtain ⟨s, _, answer⟩ := exists_of_forall₂ each inside
      exact answer.failsBy
    · obtain ⟨name, _, rfl⟩ := List.mem_map.mp behind
      exact .inr ⟨missingIssue w name, rfl, rfl, rfl⟩
  -- the sheets that succeeded are the exported ones without an issue
  have succeeding : ∀ e ∈ exported, e.2 = none → e.1.succeeded = true ∧
      e.1 ∈ (own ++ (missingNames w selection).map (absentOutcome w)).map Prod.fst := by
    intro e member none
    rw [← others] at member
    have inside := List.mem_append_left ((missingNames w selection).map (absentOutcome w))
      (List.mem_filter.mp member).1
    refine ⟨?_, List.mem_map_of_mem inside⟩
    rcases failing e inside with ⟨_, succeeded⟩ | ⟨i, some, _⟩
    · exact succeeded
    · rw [none] at some
      cases some
  refine ⟨⟨own.map Prod.fst, ?_, ?_⟩, ⟨_, issues.symm, ?_⟩, ?_, ?_⟩
  · rw [sheets, List.map_append, List.map_map]
    rfl
  · rw [Workbook.sheetNames, List.filter_map, List.forall₂_map_left_iff, List.forall₂_map_right_iff]
    have inside : ∀ s ∈ w.sheets.filter fun s => isSelected selection s.name, s ∈ w.sheets :=
      fun s member => (List.mem_filter.mp member).1
    refine ((List.forall₂_and_left _ _).mpr ⟨inside, each⟩).imp fun s e answer => ?_
    exact answer.2.outcomeOf distinct answer.1
  · rw [sheets]
    exact failsBy_of_answers failing
  · intro at_ elsewhere
    refine frame at_ fun e member none => ?_
    obtain ⟨succeeded, inside⟩ := succeeding e member none
    rw [← sheets] at inside
    exact elsewhere e.1 inside succeeded
  · intro sheet content identifier elsewhere red
    obtain ⟨noNull, at_, located, found⟩ := FileTree.read_ok red
    refine FileTree.read_eq noNull (locate_kept kept _ _ located) ?_
    rw [frame at_ fun e member none led => ?_, found]
    obtain ⟨succeeded, inside⟩ := succeeding e member none
    rw [← sheets] at inside
    obtain ⟨d, present, answer⟩ := exists_of_forall₂ described member
    have exportedIdentifier := (named_of_selected w selection d present).2
    rw [← answer.sheet_eq.2] at exportedIdentifier
    exact assetPath_apart (elsewhere e.1 inside succeeded) (Yaml.slash_not_mem_of_isIdentifier _ exportedIdentifier)
      (Yaml.slash_not_mem_of_isIdentifier _ identifier) led (locate_kept kept _ _ located) rfl

/-- Exporting a workbook is all or nothing for each sheet, and no sheet disturbs another. -/
theorem exportWorkbook_isolated {w : Workbook} {root : Path} {selection : Option (List String)}
    {before after : Workspace} {result : WorkbookExport} (distinct : w.sheetNames.Nodup)
    (ran : exportWorkbook w root selection before = (.ok result, after)) :
    IsolatedExport w root selection before.files after.files result :=
  .of_exportWorkbook distinct ran

/-- A sheet with one text, whose cells are given row by row. -/
def itemSheet : Sheet :=
  { name := "Item", cells := [⟨0, 0, "id"⟩, ⟨3, 0, "string"⟩, ⟨4, 0, "sword"⟩] }

/-- What the sheet describes. -/
def itemDescription : Description where
  schema := "Shelf"
  sheet := "Item"
  key := { name := "id", column := 0, declaredType := "string", comment := "", enumeration := none,
           enumBody := "" }
  others := []
  rows := [⟨4, [("id", "sword")]⟩]

/-- A workbook with this sheet and one whose name is no identifier. -/
def shelf : Workbook := { name := "Shelf", sheets := [itemSheet, { name := "1st", cells := [] }] }

theorem row_itemSheet (r : Int) :
    itemSheet.row r = itemSheet.cells.filter fun c => c.row == r := by
  rw [Sheet.row]
  apply List.mergeSort_of_pairwise
  refine List.Pairwise.filter _ ?_
  decide

theorem rowIndices_itemSheet : itemSheet.rowIndices = [0, 3, 4] := by
  rw [Sheet.rowIndices]
  exact List.mergeSort_of_pairwise (by decide)

theorem collectEnums_shelf : collectEnums shelf = [] := by
  simp only [collectEnums, shelf, List.foldl, addDeclarations, populatedColumns, row_itemSheet]
  simp [Sheet.row, itemSheet, enumRow]

theorem interpretIn_itemSheet : interpretIn "Shelf" [] itemSheet = .ok itemDescription := by
  have names : populatedColumns itemSheet nameRow = [0] := by
    rw [populatedColumns, row_itemSheet]
    decide
  have types : populatedColumns itemSheet typeRow = [0] := by
    rw [populatedColumns, row_itemSheet]
    decide
  have header : checkHeader "Shelf" itemSheet [0] [0] = .ok () := rfl
  have columns : [(0 : Int)].foldlM (readColumn "Shelf" itemSheet []) {} =
      .ok ⟨itemDescription.fields, []⟩ := rfl
  have rows : readRows itemSheet itemDescription.fields = itemDescription.rows := by
    rw [readRows, rowIndices_itemSheet]
    decide +kernel
  have described : interpretSheet "Shelf" [] itemSheet = .ok itemDescription := by
    unfold interpretSheet
    dsimp only
    rw [names, types, if_neg (by decide +kernel), header]
    simp only [columns, bind, Except.bind]
    exact congrArg (fun found => Except.ok { itemDescription with rows := found }) rows
  rw [interpretIn, described]
  rfl

theorem accepted_shelf : accepted shelf = [itemDescription] := by
  rw [accepted, interpretSheets, collectEnums_shelf, shelf]
  simp only [List.map_cons, List.map_nil, interpretIn_itemSheet]
  rfl

theorem writeArtifact_shelf (text : String) (console : List Output) :
    ∃ written after, writeArtifact ⟨assetPath (Path.ofText "out") "Shelf" "Item", text⟩ { console } =
      (.ok written, after) := by
  have status : writeStatus {} (assetPath (Path.ofText "out") "Shelf" "Item") (encodeUtf8 text) =
    .ok .generated := rfl
  rw [writeArtifact, Job.run_bind, Job.run_ask, status]
  dsimp only
  rw [Job.run_bind, Job.run_logAll]
  simp only [ne_eq, reduceCtorEq, not_false_eq_true, if_true]
  exact ⟨_, _, rfl⟩

theorem exportSheet_shelf (console : List Output) :
    ∃ done after, exportSheet (Path.ofText "out") itemDescription { console } = (.ok done, after) := by
  have built : buildRecords itemDescription = .ok [[("id", .text "sword")]] := rfl
  obtain ⟨text, content⟩ :
      ∃ text, (sheetAsset "Item" [[("id", .text "sword")]]).text = .ok text := ⟨_, rfl⟩
  obtain ⟨written, after, wrote⟩ := writeArtifact_shelf text console
  rw [exportSheet, built, show itemDescription.sheet = "Item" from rfl,
    show itemDescription.schema = "Shelf" from rfl]
  simp only [Job.run_bind, Job.run_ofExcept, content, wrote, Job.run_log, Job.run_pure]
  exact ⟨_, _, rfl⟩

/-- The export of the sheet and of a name that the workbook lacks. -/
theorem exportWorkbook_isolated_shelf :
    ∃ result after, shelf.sheetNames.Nodup ∧
      exportWorkbook shelf (Path.ofText "out") (some ["Nowhere", "Item"]) {} = (.ok result, after) ∧
      IsolatedExport shelf (Path.ofText "out") (some ["Nowhere", "Item"]) {} after.files result := by
  have chosen : (accepted shelf).filter
      (fun d => isSelected (some ["Nowhere", "Item"]) d.sheet) = [itemDescription] := by
    rw [accepted_shelf]
    decide
  have distinct : shelf.sheetNames.Nodup := by decide
  obtain ⟨done, last, exported⟩ := exportSheet_shelf
    (({} : Workspace).console ++ (interpretationLog shelf).map .line)
  obtain ⟨result, after, ran⟩ : ∃ result after,
      exportWorkbook shelf (Path.ofText "out") (some ["Nowhere", "Item"]) {} = (.ok result, after) := by
    rw [exportWorkbook, chosen]
    simp only [Job.run_bind, Job.run_logAll, exportSheets, Job.run_attempt, exported, Job.run_pure]
    exact ⟨_, _, rfl⟩
  exact ⟨result, after, distinct, ran, exportWorkbook_isolated distinct ran⟩

end TypedSheets

import TypedSheets.Proofs.Runs.OpenedFiles
import TypedSheets.Proofs.Schema.EnumNamespace
import TypedSheets.Proofs.Schema.HeaderRows

/-!
# Edits of data rows

What is rendered from a workbook depends on its header rows alone. Whoever edits the data rows of a
sheet, adds rows or takes rows away, changes no generated module, no refusal and nothing of what the
work on the file does; only the detailed log counts the rows.
-/

namespace TypedSheets

open TypedSheets.Emission TypedSheets.Grid TypedSheets.Number TypedSheets.Schema Run

/-! ## What is rendered never looks at the rows -/

theorem emittedEnums_header (declared : List Enumeration) (descriptions : List Description) :
    emittedEnums declared (descriptions.map Description.header) = emittedEnums declared descriptions := by
  rw [emittedEnums, List.flatMap_map]
  rfl

theorem fileArtifacts_header (target : Destination) (schema : String) (source : Path)
    (declared : List Enumeration) (descriptions : List Description) :
    fileArtifacts target schema source declared (descriptions.map Description.header) =
      fileArtifacts target schema source declared descriptions := by
  rw [fileArtifacts, emittedEnums_header, List.map_map]
  rfl

namespace Schema.SameHeaders

variable {w v : Workbook}

/-- Whatever looks at the accepted sheets without their rows. -/
theorem map_accepted_eq {α : Type} (same : SameHeaders w v) (view : Description → α)
    (blind : ∀ d, view d.header = view d) : (accepted w).map view = (accepted v).map view := by
  have through (descriptions : List Description) :
      descriptions.map view = (descriptions.map Description.header).map view := by
    rw [List.map_map]
    exact List.map_congr_left fun d _ => (blind d).symm
  rw [through (accepted w), same.accepted_eq, ← through]

theorem fileArtifacts_eq (same : SameHeaders w v) (target : Destination) (source : Path) :
    fileArtifacts target w.name source ((collectEnums w).map Prod.snd) (accepted w) =
      fileArtifacts target v.name source ((collectEnums v).map Prod.snd) (accepted v) := by
  rw [← fileArtifacts_header, same.name, same.collectEnums_eq, same.accepted_eq, fileArtifacts_header]

theorem registryEntries_eq (same : SameHeaders w v) : registryEntries w = registryEntries v :=
  same.map_accepted_eq (fun d => (⟨d.schema, d.sheet⟩ : RegistryEntry)) fun _ => rfl

/-- All that is rendered from a workbook. -/
theorem renderFile_eq (same : SameHeaders w v) (target : Destination) (source : Path) :
    renderFile target source w = renderFile target source v := by
  have count : (accepted w).isEmpty = (accepted v).isEmpty := by
    rw [← List.isEmpty_map (f := Description.header), same.accepted_eq, List.isEmpty_map]
  have sheets : (accepted w).flatMap (sheetArtifacts target) = (accepted v).flatMap (sheetArtifacts target) := by
    rw [List.flatMap_def, List.flatMap_def, same.map_accepted_eq (sheetArtifacts target) fun _ => rfl]
  rw [renderFile, renderFile, count, sheets, same.fileArtifacts_eq]

/-! ## Nor does the work on a file -/

/-- What is looked up for a sheet, but for the rows. -/
theorem verdict?_header (same : SameHeaders w v) (sheet : String) :
    (verdict? w sheet).map (Except.map Description.header) =
      (verdict? v sheet).map (Except.map Description.header) := by
  have last (descriptions : List Description) :
      ((lastWith? (fun d => d.sheet == sheet) descriptions).map Except.ok).map
          (Except.map (ε := ShapeError) Description.header) =
        (lastWith? (fun d => d.sheet == sheet) (descriptions.map Description.header)).map Except.ok := by
    rw [lastWith?, lastWith?, ← List.map_reverse, List.find?_map, Option.map_map, Option.map_map]
    rfl
  unfold verdict?
  rw [same.refused_eq]
  split
  · rfl
  · rw [last, last, same.accepted_eq]

end Schema.SameHeaders

namespace Run

/-- An outcome under the name of its sheet, without the rows. -/
def lookupHeader (outcome : String × Except ShapeError Description) : String × Except ShapeError Description :=
  (outcome.1, outcome.2.map Description.header)

/-- Work without the rows of the sheets that have succeeded. -/
def FileWork.header (work : FileWork) : FileWork :=
  { work with succeeded := work.succeeded.map Description.header }

theorem lookups_header {w v : Workbook} (same : SameHeaders w v) :
    (lookups w).map lookupHeader = (lookups v).map lookupHeader := by
  rw [lookups, lookups, List.map_filterMap, List.map_filterMap, same.sheetNames_eq]
  refine List.filterMap_congr fun name _ => ?_
  have views (answer : Option (Except ShapeError Description)) :
      (answer.map fun verdict => (name, verdict)).map lookupHeader =
        (answer.map (Except.map Description.header)).map fun verdict => (name, verdict) := by
    cases answer <;> rfl
  rw [views, views, same.verdict?_header]

/-- The work on the sheets goes the same way without the rows, and leaves the same but for them. -/
theorem generateSheets_header (clock : Clock) (target : Destination) (schema : String)
    (outcomes : List (String × Except ShapeError Description)) (work : FileWork) :
    generateSheets clock target schema (outcomes.map lookupHeader) work.header =
      (do
        let done ← generateSheets clock target schema outcomes work
        pure (done.1.header, done.2)) := by
  induction outcomes generalizing work with
  | nil => rfl
  | cons outcome rest inductionHypothesis =>
    obtain ⟨sheet, verdict⟩ := outcome
    cases verdict with
    | error e =>
      show generateSheets clock target schema ((sheet, .error e) :: rest.map lookupHeader) work.header = _
      rw [generateSheets, generateSheets, bind_assoc]
      refine bind_congr fun record => ?_
      dsimp only
      rw [bind_assoc]
      refine bind_congr fun warned => ?_
      cases warned with
      | ok done =>
        cases done
        dsimp only
        rw [← inductionHypothesis]
        rfl
      | error failure => rfl
    | ok d =>
      show generateSheets clock target schema ((sheet, .ok d.header) :: rest.map lookupHeader) work.header = _
      rw [generateSheets, generateSheets, bind_assoc]
      refine bind_congr fun wrote => ?_
      cases wrote with
      | error failure => rfl
      | ok artifacts =>
        dsimp only
        rw [← inductionHypothesis]
        simp only [FileWork.header, List.map_append]
        rfl

/-- What belongs to the file as a whole is made without the rows. -/
theorem finishFile_header (clock : Clock) (target : Destination) (p : Path) (workbook : Workbook)
    (work : FileWork) (stopped : Option Failure) :
    finishFile clock target p workbook (work.header, stopped) =
      finishFile clock target p workbook (work, stopped) := by
  have shared : generateShared target p workbook (work.succeeded.map Description.header) =
      generateShared target p workbook work.succeeded := by
    simp only [generateShared, List.isEmpty_map, fileArtifacts_header]
  have entries : (work.succeeded.map Description.header).map (fun d => (⟨d.schema, d.sheet⟩ : RegistryEntry)) =
      work.succeeded.map fun d => ⟨d.schema, d.sheet⟩ := by
    rw [List.map_map]
    rfl
  unfold finishFile
  simp only [FileWork.header, shared, entries]
  rfl

theorem workOn_header (clock : Clock) (target : Destination) (p : Path) (workbook : Workbook) :
    workOn clock target p workbook = (do
      let done ← generateSheets clock target workbook.name ((lookups workbook).map lookupHeader) {}
      finishFile clock target p workbook done) := by
  have went := generateSheets_header clock target workbook.name (lookups workbook) {}
  rw [show FileWork.header {} = {} from rfl] at went
  rw [went, bind_assoc, workOn]
  refine bind_congr fun done => ?_
  rw [pure_bind, finishFile_header]

/-- The work on a file, behind its opening and the detailed log, is one and the same. -/
theorem workOn_eq {w v : Workbook} (same : SameHeaders w v) (clock : Clock) (target : Destination)
    (p : Path) : workOn clock target p w = workOn clock target p v := by
  have shared : generateShared target p w = generateShared target p v := by
    funext descriptions
    rw [generateShared, generateShared, same.name, same.collectEnums_eq]
  have finish : finishFile clock target p w = finishFile clock target p v := by
    funext done
    simp only [finishFile, shared, same.name]
  rw [workOn_header, workOn_header, lookups_header same, finish, same.name]

end Run

/-- Edits of data rows never touch generated code. Take two workbooks with one name, whose sheets have
equal names in turn and equal texts in the header rows: the same sheets are accepted with the same
fields, the others are refused for the same reasons, every module that is rendered from them has the
same path and the same text, also the registry of a run that they are part of, and the work on a file
that holds either is one and the same job. Only the rows of the descriptions may differ. -/
theorem dataEdits_keep_modules {w v : Workbook} (same : SameHeaders w v) (clock : Clock)
    (target : Destination) (source : Path) :
    (interpretSheets w).map (Except.map Description.header) =
        (interpretSheets v).map (Except.map Description.header) ∧
      (accepted w).map Description.sheet = (accepted v).map Description.sheet ∧
      refused w = refused v ∧
      (accepted w).map (sheetArtifacts target) = (accepted v).map (sheetArtifacts target) ∧
      fileArtifacts target w.name source ((collectEnums w).map Prod.snd) (accepted w) =
        fileArtifacts target v.name source ((collectEnums v).map Prod.snd) (accepted v) ∧
      (∀ before behind : List (Path × Workbook),
        renderRun target (before ++ (source, w) :: behind) =
          renderRun target (before ++ (source, v) :: behind)) ∧
      ∃ work : Job FileResult, ∀ workbook, workbook = w ∨ workbook = v → ∀ workspace : Workspace,
        opening workspace.files source = .ok (.ok workbook) →
        generateFile clock target source workspace =
          work { workspace with
            console := workspace.console ++ (interpretationLog workbook).map .line } := by
  refine ⟨same.interpretSheets_eq, same.map_accepted_eq _ fun _ => rfl, same.refused_eq,
    same.map_accepted_eq _ fun _ => rfl, same.fileArtifacts_eq target source, ?_, workOn clock target source w, ?_⟩
  · intro before behind
    have files : ((before ++ (source, w) :: behind).mapM fun s => renderFile target s.1 s.2) =
        (before ++ (source, v) :: behind).mapM fun s => renderFile target s.1 s.2 := by
      simp only [List.mapM_append, List.mapM_cons, same.renderFile_eq]
    have entries : ((before ++ (source, w) :: behind).flatMap fun s => registryEntries s.2) =
        (before ++ (source, v) :: behind).flatMap fun s => registryEntries s.2 := by
      simp only [List.flatMap_append, List.flatMap_cons, same.registryEntries_eq]
    rw [renderRun, renderRun, files, entries]
  · rintro workbook (rfl | rfl) workspace opens
    · exact run_generateFile_of_opening opens
    · rw [run_generateFile_of_opening opens, workOn_eq same]

/-- The weapons with other data: the first row is replaced, and two rows are added, one of them with
texts that fit no type. -/
def reforgedSheet : Sheet :=
  { name := "Weapon", cells := [⟨6, 1, "Bow"⟩, ⟨6, 0, "none"⟩, ⟨0, 0, "id"⟩, ⟨0, 1, "kind"⟩, ⟨3, 0, "int"⟩,
      ⟨3, 1, "Kind"⟩, ⟨4, 0, "8"⟩, ⟨4, 1, "Axe"⟩, ⟨5, 0, "9"⟩] }

/-- The modules of the weapons are the same with other data, and so is the refusal of the other sheet. -/
theorem dataEdits_keep_modules_armory :
    ∃ reforged : Workbook, reforged = { armory with sheets := [reforgedSheet, kindSheet] } ∧
      SameHeaders armory reforged ∧ armory ≠ reforged ∧ refused armory = refused reforged ∧
      (accepted reforged).map (sheetArtifacts ⟨.ofText "code", .ofText "assets", none⟩) =
        [sheetArtifacts ⟨.ofText "code", .ofText "assets", none⟩ weaponDescription] := by
  have same : SameHeaders armory { armory with sheets := [reforgedSheet, kindSheet] } :=
    ⟨rfl, .cons (.of_perm rfl (by decide)) (.cons (.of_perm rfl (.refl _)) .nil)⟩
  obtain ⟨-, -, refusals, modules, -⟩ := dataEdits_keep_modules same
    (.startingAt ⟨⟨2024, 1, 1⟩, ⟨6, 0, 0, 0⟩, none⟩ .nan) ⟨.ofText "code", .ofText "assets", none⟩
    (.ofText "data/Armory.xlsx")
  refine ⟨_, rfl, same, by decide, refusals, ?_⟩
  rw [← modules, accepted_armory]
  rfl

end TypedSheets

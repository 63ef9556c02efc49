import TypedSheets.Proofs.Files.PathTexts
import TypedSheets.Proofs.Generated.EnumTexts
import TypedSheets.Proofs.Runs.ExporterTurns
import TypedSheets.Proofs.Text.StringLiterals

/-!
# Paths in generated modules

An accessor has the path of its asset as a literal, and an exporter has its source and the asset root. Both
are read as the paths that they were made of, whatever characters the destinations have, and both name the
asset that an export of all files writes as well. The main statement is `embedded_paths`.
-/

namespace TypedSheets

open TypedSheets.Emission TypedSheets.Grid TypedSheets.Schema TypedSheets.Text FileTree

/-- The asset of a sheet below the asset destination. -/
def Emission.Destination.assetOf (target : Destination) (d : Description) : Path :=
  assetPath target.assetRoot d.schema d.sheet

/-- A method that returns a literal. -/
def methodText (name literal : String) : String :=
  "    def " ++ name ++ "(self) -> str:\n        return " ++ literal ++ "\n"

/-- The text of an accessor module: a class with two methods of this kind. -/
def accessorText (front header container pathLiteral nameLiteral : String) : String :=
  front ++ "class " ++ header ++ ":\n    container_type = " ++ container ++ "\n\n" ++
    methodText "get_asset_path" pathLiteral ++ "\n" ++ methodText "get_name" nameLiteral

/-- The text of an exporter module: a class with three literals, and the containers behind them. -/
def exporterText (front schema sourceLiteral rootLiteral nameLiteral containers : String) : String :=
  front ++ "class " ++ schema ++ "Exporter(MasterDataExporter):\n    source_path = " ++ sourceLiteral ++
    "\n    asset_root = " ++ rootLiteral ++ "\n    schema_name = " ++ nameLiteral ++ "\n" ++ containers

/-- An outcome that tells of writes to one path only, and of one if it tells of success. -/
structure WritesAt (path : Path) (o : SheetOutcome) : Prop where
  only : ∀ a ∈ o.artifacts, a.path = path
  written : o.succeeded = true → o.artifacts ≠ []

section Texts

theorem sourceText_method (name literal : String) :
    sourceText [.code 1 ("def " ++ name ++ "(self) -> str:"), .code 2 ("return " ++ literal)] =
      methodText name literal := by
  apply String.toList_injective
  simp [sourceText, SourceLine.text, methodText]

/-- What an accessor module has in front of its class. -/
def accessorHead (base : String) (d : Description) : List SourceLine :=
  [banner, importOne runtimePackage "MasterDataAccessor", SourceLine.blank] ++ keyImport base d ++
    [importOne (sheetModule base "DTO" d.schema (containerName d.sheet)) (containerName d.sheet),
      importOne (sheetModule base "VO" d.schema (recordName d.sheet)) (recordName d.sheet), SourceLine.blank,
      SourceLine.blank]

/-- What the accessor class of a sheet is derived from. -/
def accessorBase (d : Description) : String :=
  "MasterDataAccessor[" ++ containerName d.sheet ++ ", " ++ recordName d.sheet ++ ", " ++ annotation d.key ++ "]"

/-- The literals of an accessor are the path of its asset and the name of its sheet. -/
theorem sourceText_accessorModule (base : String) (asset : Path) (d : Description) :
    sourceText (accessorModule base asset d) = accessorText (sourceText (accessorHead base d))
      (accessorName d.sheet ++ "(" ++ accessorBase d ++ ")") (containerName d.sheet)
      (Json.quoted asset.text) (Json.quoted d.sheet) := by
  have parts : accessorModule base asset d = accessorHead base d ++
      ([SourceLine.classHeader (accessorName d.sheet) (some (accessorBase d)),
        SourceLine.code 1 ("container_type = " ++ containerName d.sheet), SourceLine.blank] ++
      ([SourceLine.code 1 ("def " ++ "get_asset_path" ++ "(self) -> str:"),
        SourceLine.code 2 ("return " ++ Json.quoted asset.text)] ++
      ([SourceLine.blank] ++ [SourceLine.code 1 ("def " ++ "get_name" ++ "(self) -> str:"),
        SourceLine.code 2 ("return " ++ Json.quoted d.sheet)]))) := by
    simp only [accessorModule, accessorHead, List.append_assoc, List.cons_append, List.nil_append]
    rfl
  have header : sourceText [.classHeader (accessorName d.sheet) (some (accessorBase d)),
      .code 1 ("container_type = " ++ containerName d.sheet), .blank] =
      "class " ++ (accessorName d.sheet ++ "(" ++ accessorBase d ++ ")") ++ ":\n    container_type = " ++
        containerName d.sheet ++ "\n\n" := by
    apply String.toList_injective
    simp [sourceText, SourceLine.text]
  have between : sourceText [.blank] = "\n" := rfl
  rw [parts, sourceText_append, sourceText_append, sourceText_append, sourceText_append,
    sourceText_method, sourceText_method, header, between]
  simp only [accessorText, String.append_assoc]

/-- What an exporter module has in front of its class. -/
def exporterHead (base schema : String) (sheets : List String) : List SourceLine :=
  [banner, importOne runtimePackage "MasterDataExporter", SourceLine.blank] ++
    sheets.map (fun sheet =>
      importOne (sheetModule base "DTO" schema (containerName sheet)) (containerName sheet)) ++
    [SourceLine.blank, SourceLine.blank]

/-- The containers of an exporter by the names of their sheets. -/
def exporterContainers (sheets : List String) : List SourceLine :=
  [SourceLine.code 1 "containers = \x7b"] ++
    sheets.map (fun sheet => SourceLine.code 2 (Json.quoted sheet ++ ": " ++ containerName sheet ++ ",")) ++
    [SourceLine.code 1 "\x7d"]

/-- The literals of an exporter are its source, the asset root and the name of its schema. -/
theorem sourceText_exporterModule (base schema : String) (source assetRoot : Path) (sheets : List String) :
    sourceText (exporterModule base schema source assetRoot sheets) =
      exporterText (sourceText (exporterHead base schema sheets)) schema (Json.quoted source.text)
        (Json.quoted assetRoot.text) (Json.quoted schema) (sourceText (exporterContainers sheets)) := by
  have parts : exporterModule base schema source assetRoot sheets = exporterHead base schema sheets ++
      ([SourceLine.classHeader (schema ++ "Exporter") (some "MasterDataExporter"),
        SourceLine.code 1 ("source_path = " ++ Json.quoted source.text),
        SourceLine.code 1 ("asset_root = " ++ Json.quoted assetRoot.text),
        SourceLine.code 1 ("schema_name = " ++ Json.quoted schema)] ++ exporterContainers sheets) := by
    simp only [exporterModule, exporterHead, exporterContainers, List.append_assoc, List.cons_append,
      List.nil_append]
  have literals (source assetRoot name : String) : sourceText
      [.classHeader (schema ++ "Exporter") (some "MasterDataExporter"), .code 1 ("source_path = " ++ source),
        .code 1 ("asset_root = " ++ assetRoot), .code 1 ("schema_name = " ++ name)] =
      "class " ++ schema ++ "Exporter(MasterDataExporter):\n    source_path = " ++ source ++
        "\n    asset_root = " ++ assetRoot ++ "\n    schema_name = " ++ name ++ "\n" := by
    apply String.toList_injective
    simp [sourceText, SourceLine.text]
  rw [parts, sourceText_append, sourceText_append, literals]
  simp only [exporterText, String.append_assoc]

end Texts

section Exports

variable {root : Path} {o : SheetOutcome} {before after : Workspace}

theorem writesAt_failed (path : Path) (schema sheet error : String) :
    WritesAt path (.failed schema sheet error) :=
  ⟨nofun, nofun⟩

/-- A sheet that is exported writes its own asset. -/
theorem Exports.writesAt {files : FileTree} {d : Description} {e : Exported} (exports : Exports root files d e) :
    WritesAt (assetPath root e.1.schema e.1.sheet) e.1 := by
  cases exports with
  | written records artifact built path held => exact ⟨by simpa using path, nofun⟩
  | stopped cause place refused => exact writesAt_failed _ _ _ _

theorem writesAt_of_exportSheets {ds : List Description} {exported : List Exported}
    (ran : exportSheets root ds before = (.ok exported, after)) :
    ∀ e ∈ exported, WritesAt (assetPath root e.1.schema e.1.sheet) e.1 := by
  induction ds generalizing before exported with
  | nil =>
    cases ran
    exact nofun
  | cons d rest inductionHypothesis =>
    obtain ⟨first, others, middle, rfl, further, exports, -⟩ := exportSheets_cons ran
    exact List.forall_mem_cons.mpr ⟨exports.writesAt, inductionHypothesis further⟩

/-- So do the sheets of a workbook. -/
theorem writesAt_of_exportWorkbook {w : Workbook} {selection : Option (List String)} {r : WorkbookExport}
    (ran : exportWorkbook w root selection before = (.ok r, after)) :
    ∀ o ∈ r.sheets, WritesAt (assetPath root o.schema o.sheet) o := by
  obtain ⟨exported, sheets, rfl⟩ := exportWorkbook_ok ran
  intro o member
  obtain ⟨e, sorted, rfl⟩ := List.mem_map.mp member
  rw [List.mem_mergeSort, List.mem_append, List.mem_append] at sorted
  rcases sorted with (refused | own) | missing
  · obtain ⟨_, _, rfl⟩ := List.mem_map.mp refused
    exact writesAt_failed _ _ _ _
  · exact writesAt_of_exportSheets sheets e own
  · obtain ⟨_, _, rfl⟩ := List.mem_map.mp missing
    exact writesAt_failed _ _ _ _

/-- Reading an asset back may turn success into failure, but tells of no other writes. -/
theorem WritesAt.of_verify {x : SchemaExporter} {path : Path} {checked : SheetOutcome} (writesAt : WritesAt path o)
    (ran : x.verify o before = (.ok checked, after)) :
    checked.schema = o.schema ∧ checked.sheet = o.sheet ∧ WritesAt path checked := by
  unfold SchemaExporter.verify at ran
  cases failed : o.error with
  | some text =>
    rw [failed] at ran
    obtain ⟨_, _, -, ended⟩ := Job.bind_ok ran
    cases ended
    exact ⟨rfl, rfl, writesAt⟩
  | none =>
    rw [failed] at ran
    dsimp only at ran
    cases known : x.containers.lookup o.sheet with
    | none =>
      rw [known] at ran
      cases ran
    | some t =>
      rw [known] at ran
      obtain ⟨result, _, -, ran⟩ := Job.bind_ok ran
      cases result with
      | ok _ =>
        cases ran
        exact ⟨rfl, rfl, writesAt⟩
      | error e =>
        obtain ⟨_, _, -, ended⟩ := Job.bind_ok ran
        cases ended
        exact ⟨rfl, rfl, writesAt.only, nofun⟩

theorem writesAt_of_verifyAll {x : SchemaExporter} {sheets checked : List SheetOutcome}
    (each : ∀ o ∈ sheets, WritesAt (assetPath root o.schema o.sheet) o)
    (ran : x.verifyAll sheets before = (.ok checked, after)) :
    ∀ o ∈ checked, WritesAt (assetPath root o.schema o.sheet) o := by
  induction sheets generalizing before checked with
  | nil =>
    cases ran
    exact nofun
  | cons o rest inductionHypothesis =>
    obtain ⟨own, others⟩ := List.forall_mem_cons.mp each
    obtain ⟨first, _, verified, ran⟩ := Job.bind_ok ran
    obtain ⟨further, _, later, ended⟩ := Job.bind_ok ran
    cases ended
    obtain ⟨schema, sheet, writes⟩ := own.of_verify verified
    rw [← schema, ← sheet] at writes
    exact List.forall_mem_cons.mpr ⟨writes, inductionHypothesis others later⟩

/-- An exporter writes the assets below its own root. -/
theorem writesAt_of_export {x : SchemaExporter} {r : WorkbookExport} (ran : x.export_ before = (.ok r, after)) :
    ∀ o ∈ r.sheets, WritesAt (assetPath x.assetRoot o.schema o.sheet) o := by
  obtain ⟨read, _, -, ran⟩ := Job.bind_ok ran
  cases read with
  | error text => cases ran
  | ok w =>
    obtain ⟨written, _, exports, ran⟩ := Job.bind_ok ran
    obtain ⟨checked, _, verified, ended⟩ := Job.bind_ok ran
    cases ended
    exact writesAt_of_verifyAll (writesAt_of_exportWorkbook exports) verified

theorem writesAt_of_exportFile {clock : Clock} {p : Path} {result : Run.FileResult}
    (ran : Run.exportFile clock root p before = (.ok result, after)) :
    ∀ o ∈ result.outcome.sheets, WritesAt (assetPath root o.schema o.sheet) o := by
  rw [Run.exportFile, Job.run_bind, Run.run_openFile] at ran
  cases opens : Run.opening before.files p with
  | error e =>
    rw [opens] at ran
    cases ran
  | ok opened =>
    rw [opens] at ran
    cases opened with
    | error u =>
      cases ran
      exact List.forall_mem_nil _
    | ok w =>
      dsimp only at ran
      rw [Job.run_bind, Job.run_attempt] at ran
      cases exports : exportWorkbook w root none before with
      | mk exported middle =>
        rw [exports] at ran
        cases exported with
        | error e =>
          obtain ⟨⟨outcome, records⟩, _, stops, ended⟩ := Job.bind_ok ran
          cases ended
          obtain ⟨-, -, rfl, -⟩ := Run.aborted_ok stops
          exact List.forall_mem_nil _
        | ok exported =>
          obtain ⟨records, _, -, ended⟩ := Job.bind_ok ran
          cases ended
          exact writesAt_of_exportWorkbook exports

theorem writesAt_of_eachFile {clock : Clock} {paths : List Path} {results : List Run.FileResult}
    (ran : Run.eachFile (Run.exportFile clock root) paths before = (.ok results, after)) :
    ∀ result ∈ results, ∀ o ∈ result.outcome.sheets, WritesAt (assetPath root o.schema o.sheet) o := by
  induction paths generalizing before results with
  | nil =>
    cases ran
    exact List.forall_mem_nil _
  | cons p rest inductionHypothesis =>
    obtain ⟨first, _, own, ran⟩ := Job.bind_ok ran
    obtain ⟨others, _, later, ended⟩ := Job.bind_ok ran
    cases ended
    exact List.forall_mem_cons.mpr ⟨writesAt_of_exportFile own, inductionHypothesis later⟩

/-- A whole run writes them below the root of its asset destination. -/
theorem writesAt_of_exportAll {clock : Clock} {source asset logs : Path} {report : Report}
    (ran : Run.exportAll clock source asset logs before = (.ok report, after)) :
    ∀ f ∈ report.files, ∀ o ∈ f.sheets,
      WritesAt (assetPath (asset.child rootDirectory) o.schema o.sheet) o := by
  obtain ⟨paths, _, -, ran⟩ := Job.bind_ok ran
  obtain ⟨_, _, -, ran⟩ := Job.bind_ok ran
  obtain ⟨results, _, worked, ran⟩ := Job.bind_ok ran
  obtain ⟨_, _, -, ended⟩ := Job.bind_ok ran
  cases ended
  intro f member
  obtain ⟨result, among, rfl⟩ := List.mem_map.mp member
  exact writesAt_of_eachFile worked result among

end Exports

/-- Every text is read back from its literal, and a path from the text that it has. So the path that the accessor
of a sheet returns, the path that an export of all files to the same destination writes, and the path that the
exporter of the schema file writes below the root in its module are one. -/
theorem embedded_paths (asset source : String) {target : Destination} (destination : target.asset = .ofText asset)
    (d : Description) :
    (∀ text, LiteralDenotes (Json.quoted text) text) ∧
    Path.ofText (target.assetOf d).text = target.assetOf d ∧
    (∃ accessor ∈ sheetArtifacts target d, accessor.path = target.accessorPath d.schema d.sheet ∧
      ∃ front bases pathLiteral nameLiteral, accessor.content = accessorText front
          (accessorName d.sheet ++ "(" ++ bases ++ ")") (containerName d.sheet) pathLiteral nameLiteral ∧
        LiteralDenotes pathLiteral (target.assetOf d).text ∧ LiteralDenotes nameLiteral d.sheet) ∧
    (∀ clock directory logs before report after,
      Run.exportAll clock directory (.ofText asset) logs before = (.ok report, after) →
      ∀ f ∈ report.files, ∀ o ∈ f.sheets, o.schema = d.schema → o.sheet = d.sheet →
        WritesAt (target.assetOf d) o) ∧
    ∀ declared descriptions artifacts,
      fileArtifacts target d.schema (.ofText source) declared descriptions = .ok artifacts →
      ∃ exporter ∈ artifacts, exporter.path = target.exporterPath d.schema ∧
        (∃ front sourceLiteral rootLiteral nameLiteral containers,
          exporter.content = exporterText front d.schema sourceLiteral rootLiteral nameLiteral containers ∧
          LiteralDenotes sourceLiteral (Path.ofText source).text ∧
          LiteralDenotes rootLiteral target.assetRoot.text ∧ LiteralDenotes nameLiteral d.schema) ∧
        Path.ofText (Path.ofText source).text = Path.ofText source ∧
        ∀ x : SchemaExporter, x.assetRoot = .ofText target.assetRoot.text →
          ∀ before r after, x.export_ before = (.ok r, after) →
          ∀ o ∈ r.sheets, o.schema = d.schema → o.sheet = d.sheet → WritesAt (target.assetOf d) o := by
  have root : target.assetRoot.IsNormal := by
    rw [Destination.assetRoot, destination]
    exact (Path.isNormal_ofText asset).child rootDirectory
  refine ⟨denotes_quoted, ofText_text ((root.child _).child _), ?_, ?_, ?_⟩
  · refine ⟨_, List.mem_cons_of_mem _ (List.mem_cons_of_mem _ List.mem_cons_self), rfl, _, _, _, _,
      sourceText_accessorModule _ _ d, denotes_quoted _, denotes_quoted _⟩
  · intro clock directory logs before report after ran f file o outcome schema sheet
    have writes := writesAt_of_exportAll ran f file o outcome
    rwa [schema, sheet, ← destination] at writes
  · intro declared descriptions artifacts rendered
    obtain ⟨enums, -, ended⟩ := bind_eq_ok rendered
    cases ended
    refine ⟨_, List.mem_cons_of_mem _ List.mem_cons_self, rfl, ⟨_, _, _, _, _,
      sourceText_exporterModule _ _ _ _ _, denotes_quoted _, denotes_quoted _, denotes_quoted _⟩,
      ofText_text (Path.isNormal_ofText source), ?_⟩
    intro x own before r after ran o outcome schema sheet
    have writes := writesAt_of_export ran o outcome
    rwa [schema, sheet, own, ofText_text root] at writes

section Armory

open Run

/-- The run that exports the workbook of weapons tells of the asset that it has written. -/
theorem succeeded_exportAll_armory : ∃ report after,
    Run.exportAll (.startingAt dawn .nan) (.ofText "data") (.ofText "assets") (.ofText "logs")
      { files := armoryTree } = (.ok report, after) ∧
    ∃ f ∈ report.files, ∃ o ∈ f.sheets, o.schema = "Armory" ∧ o.sheet = "Weapon" ∧ o.succeeded = true := by
  obtain ⟨report, after, ran, finished⟩ := Run.exportAll_armory dawn .nan
  refine ⟨report, after, ran, ?_⟩
  obtain ⟨seen, becomes, rfl, -⟩ :=
    @seen_of_exportAll dawn .nan "data" "assets" "logs" { files := armoryTree } [armoryFile]
      wellFormed_armoryTree sheetsDiffer_armoryTree scanning_armory after report ran
  obtain ⟨⟨result, lost⟩, rest, ⟨opened, opens, exportsTo⟩, -, rfl⟩ := List.forall₂_cons_left_iff.mp becomes
  have known : opening armoryTree armoryFile = .ok (.ok armory) := by
    rw [← workbookAt?_eq_some, workbookAt?, reading_armory]
    rfl
  rw [known] at opens
  obtain rfl := Except.ok.inj opens
  refine ⟨result.outcome, List.mem_cons_self, ?_⟩
  have notFailed := finished result.outcome List.mem_cons_self
  cases exportsTo with
  | givenUp w lost e few paths system => exact absurd ⟨e.message, rfl⟩ notFailed
  | finished w sheets seen =>
    obtain ⟨o, others, exported, -, rfl⟩ := List.forall₂_cons_left_iff.mp seen
    have verdict : interpretIn armory.name (collectEnums armory) weaponSheet = .ok weaponDescription := by
      rw [collectEnums_armory]
      exact interpretIn_weaponSheet
    refine ⟨o, List.mem_cons_self, ?_⟩
    cases exported with
    | refused e refusal =>
      rw [verdict] at refusal
      cases refusal
    | stopped d i accepted cell =>
      rw [verdict] at accepted
      cases accepted
      cases cell
    | written d records artifact accepted built path => exact ⟨rfl, rfl, rfl⟩

/-- So does the exporter of the workbook. -/
theorem written_export_armoryExporter : ∃ r after,
    SchemaExporter.armoryExporter.export_ { files := SchemaExporter.brokenTree } = (.ok r, after) ∧
    ∃ o ∈ r.sheets, o.schema = "Armory" ∧ o.sheet = "Weapon" ∧ o.artifacts ≠ [] := by
  obtain ⟨r, after, ran⟩ := SchemaExporter.export_armoryExporter (w := { files := SchemaExporter.brokenTree }) rfl
  obtain ⟨w, exported⟩ := (SchemaExporter.ends_of_export SchemaExporter.isGenerated_armoryExporter ran).1 r rfl
  obtain rfl : w = armory := exported.eq_of_reading SchemaExporter.reading_brokenTree
  obtain ⟨written, isolated, rfl⟩ := exported.isolated (by decide)
  obtain ⟨outcomes, split, each⟩ := isolated.outcomes
  have names : armory.sheetNames.filter (isSelected SchemaExporter.armoryExporter.selection) = ["Weapon"] := rfl
  rw [names] at each
  obtain ⟨o, rest, outcomeOf, -, rfl⟩ := List.forall₂_cons_left_iff.mp each
  have yields : Yields armory "Weapon" weaponDescription [[("id", .int 7), ("kind", .int 1)]] := by
    refine ⟨?_, rfl, rfl⟩
    rw [accepted_armory]
    exact List.mem_cons_self
  obtain ⟨-, artifact, text, artifacts, -⟩ := outcomeOf.written _ _ yields
  have member : o ∈ written.sheets := by
    rw [split]
    exact List.mem_append_left _ List.mem_cons_self
  obtain ⟨schema, sheet, kept⟩ := SchemaExporter.armoryExporter.kept_checked after.files o
  refine ⟨_, after, ran, _, List.mem_map_of_mem member, schema.trans outcomeOf.file, sheet.trans outcomeOf.named, ?_⟩
  rw [kept, artifacts]
  exact List.cons_ne_nil _ _

/-- The modules of the schema file can be rendered. -/
theorem fileArtifacts_armory (source : Path) : ∃ artifacts,
    fileArtifacts armoryTarget "Armory" source [kindEnumeration] [weaponDescription] = .ok artifacts := by
  have emitted : emittedEnums [kindEnumeration] [weaponDescription] = [kindEnumeration] := by decide
  have few : ∀ e ∈ [kindEnumeration], ∀ m ∈ e.members, m.value.natAbs ≤ 1 := by decide
  obtain ⟨enums, rendered⟩ := exists_enumModule fun e member m own =>
    Nat.lt_of_le_of_lt (few e member m own) (Nat.one_lt_pow (by decide) (by decide))
  rw [fileArtifacts, emitted, rendered]
  exact ⟨_, rfl⟩

/-- The path of the sheet of weapons is written by both, and an exporter with the asset root of the rendered
module is the exporter of the workbook. -/
theorem embedded_paths_armory : armoryTarget.asset = .ofText "assets" ∧
    (∃ report after, Run.exportAll (.startingAt dawn .nan) (.ofText "data") (.ofText "assets") (.ofText "logs")
        { files := armoryTree } = (.ok report, after) ∧
      ∃ f ∈ report.files, ∃ o ∈ f.sheets, o.succeeded = true ∧
        WritesAt (armoryTarget.assetOf weaponDescription) o) ∧
    ∃ artifacts r after,
      fileArtifacts armoryTarget "Armory" (.ofText "data/Armory.xlsx") [kindEnumeration] [weaponDescription] =
        .ok artifacts ∧
      SchemaExporter.armoryExporter.assetRoot = .ofText armoryTarget.assetRoot.text ∧
      SchemaExporter.armoryExporter.export_ { files := SchemaExporter.brokenTree } = (.ok r, after) ∧
      ∃ o ∈ r.sheets, o.artifacts ≠ [] ∧ WritesAt (armoryTarget.assetOf weaponDescription) o := by
  obtain ⟨-, -, -, runs, exporters⟩ :=
    embedded_paths "assets" "data/Armory.xlsx" (rfl : armoryTarget.asset = .ofText "assets") weaponDescription
  refine ⟨rfl, ?_, ?_⟩
  · obtain ⟨report, after, ran, f, file, o, outcome, schema, sheet, succeeded⟩ := succeeded_exportAll_armory
    exact ⟨report, after, ran, f, file, o, outcome, succeeded, runs _ _ _ _ _ _ ran f file o outcome schema sheet⟩
  · obtain ⟨artifacts, rendered⟩ := fileArtifacts_armory (.ofText "data/Armory.xlsx")
    obtain ⟨r, after, ran, o, outcome, schema, sheet, some⟩ := written_export_armoryExporter
    obtain ⟨exporter, -, -, -, -, writes⟩ := exporters _ _ artifacts rendered
    have root : SchemaExporter.armoryExporter.assetRoot = .ofText armoryTarget.assetRoot.text := by decide +kernel
    exact ⟨artifacts, r, after, rendered, root, ran, o, outcome, some, writes _ root _ _ _ ran o outcome schema sheet⟩

end Armory

end TypedSheets

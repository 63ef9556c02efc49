import TypedSheets.Proofs.Generated.EnumModules
import TypedSheets.Proofs.Generated.ModuleImports
import TypedSheets.Proofs.Runs.GeneratedTrees

/-!
# Imports among generated modules

Whatever a module imports from below the code root is defined, exactly once, by a module that the same
run has rendered. For enumerations this holds although a sheet may import what a refused sheet declares:
the enumeration module is made of the declarations of the whole file, and an accepted sheet agrees with
them.
-/

namespace TypedSheets

open TypedSheets.Emission TypedSheets.Grid TypedSheets.Number TypedSheets.Schema TypedSheets.Text FileTree

/-- The text defines the enumeration once, with its members and nothing behind them. -/
def Emits (content : String) (e : Enumeration) : Prop :=
  DefinesOnce content e.name ∧ ∃ front back, textLines content =
    front ++ (("class " ++ e.name ++ "(IntEnum):") ::
      e.members.map fun m => "    " ++ (m.name ++ " = " ++ integerText m.value)) ++ "" :: back

/-- The imports of what is rendered lead to what is rendered. -/
structure ImportsClosed (target : Destination) (sources : List (Path × Workbook)) (all : List Artifact) :
    Prop where
  /-- Every line that imports from below the code root names a module, and that module defines every
  class that is imported. -/
  closed : ∀ a ∈ all, ∀ line ∈ textLines a.content, ∀ rest,
    line = "from " ++ target.baseNamespace ++ "." ++ rest →
    ∃ (directories : List String) (name : String) (imported : List ImportedName),
      (∀ part ∈ directories ++ [name], isIdentifier part = true) ∧ (∀ i ∈ imported, i.IsSpelled) ∧
      rest = ".".intercalate (directories ++ [name]) ++ " import " ++
        ", ".intercalate (imported.map ImportedName.text) ∧
      ∃ b ∈ all, b.path = target.codeRoot.below (directories ++ [name ++ ".py"]) ∧
        ∀ i ∈ imported, DefinesOnce b.content i.name
  sheets : ∀ source ∈ sources, ∀ d ∈ accepted source.2, ∀ a ∈ sheetArtifacts target d, a ∈ all
  /-- The modules of a sheet import no enumerations but those of its description. -/
  described : ∀ source ∈ sources, ∀ d ∈ accepted source.2, ∀ a ∈ sheetArtifacts target d,
    ∀ line ∈ textLines a.content, ∀ rest,
    line = "from " ++ typeModule target.baseNamespace d.schema ++ " import " ++ rest →
    ∃ names, rest = ", ".intercalate names ∧ ∀ name ∈ names, ∃ e ∈ d.enumerations, e.name = name
  /-- The enumeration module of the file emits those as they are described. -/
  emitted : ∀ source ∈ sources, ∀ d ∈ accepted source.2,
    ∃ b ∈ all, b.path = target.typePath d.schema ∧ ∀ e ∈ d.enumerations, Emits b.content e

section Rendered

variable {target : Destination} {sources : List (Path × Workbook)} {all : List Artifact}
  {source : Path × Workbook} {d : Description} {a : Artifact}

/-- What is rendered for a workbook is rendered in the run. -/
theorem rendered_of_source (rendered : renderRun target sources = .ok all) (member : source ∈ sources) :
    ∃ own, renderFile target source.1 source.2 = .ok own ∧ ∀ a ∈ own, a ∈ all := by
  obtain ⟨files, each, last⟩ := bind_eq_ok rendered
  cases last
  obtain ⟨own, listed, file⟩ := (mem_of_mapM each).1 source member
  exact ⟨own, file, fun a inside =>
    List.mem_append_left _ (List.mem_flatten.mpr ⟨own, listed, inside⟩)⟩

/-- What is rendered for an accepted sheet, and for its file. -/
theorem rendered_of_accepted (rendered : renderRun target sources = .ok all) (member : source ∈ sources)
    (described : d ∈ accepted source.2) :
    (∀ a ∈ sheetArtifacts target d, a ∈ all) ∧
      ∃ lines, enumModule (typeEnums source.2) = .ok lines ∧
        ⟨target.typePath d.schema, sourceText lines⟩ ∈ all := by
  obtain ⟨own, file, inside⟩ := rendered_of_source rendered member
  have some : ¬(accepted source.2).isEmpty = true := by
    rw [List.isEmpty_iff]
    exact List.ne_nil_of_mem described
  rw [renderFile, if_neg some] at file
  obtain ⟨shared, files, last⟩ := bind_eq_ok file
  cases last
  obtain ⟨lines, enums, last⟩ := bind_eq_ok files
  cases last
  refine ⟨?_, lines, enums, ?_⟩
  · intro a listed
    exact inside a (List.mem_append_left _ (List.mem_flatMap.mpr ⟨d, described, listed⟩))
  · rw [(named_of_accepted described).1]
    exact inside _ (List.mem_append_right _ List.mem_cons_self)

/-- The lines of an artifact are legible. -/
def IsLegible (base : String) (takes : GeneratedModule → List ImportedName → Prop) (a : Artifact) : Prop :=
  ∃ lines, a.content = sourceText lines ∧ ∀ line ∈ lines, Legible base takes line

theorem isLegible_sheetArtifacts (spelled : SpelledSheet d) (member : a ∈ sheetArtifacts target d) :
    IsLegible target.baseNamespace (Takes d) a := by
  simp only [sheetArtifacts, List.mem_cons, List.not_mem_nil, or_false] at member
  rcases member with rfl | rfl | rfl
  · exact ⟨_, rfl, legible_recordModule spelled⟩
  · exact ⟨_, rfl, legible_containerModule spelled⟩
  · exact ⟨_, rfl, legible_accessorModule spelled _⟩

/-- What modules import in a run. -/
def TakesIn (sources : List (Path × Workbook)) (m : GeneratedModule) (names : List ImportedName) : Prop :=
  ∃ source ∈ sources, ∃ d ∈ accepted source.2, Takes d m names

theorem IsLegible.mono {base : String} {takes others : GeneratedModule → List ImportedName → Prop}
    (legible : IsLegible base takes a) (more : ∀ m names, takes m names → others m names) :
    IsLegible base others a := by
  obtain ⟨lines, content, each⟩ := legible
  exact ⟨lines, content, fun line inner => (each line inner).mono more⟩

/-- So are those of the modules that are rendered from one workbook. -/
theorem isLegible_of_renderFile {own : List Artifact}
    (identifiers : ∀ source ∈ sources, isIdentifier source.2.name = true) (here : source ∈ sources)
    (file : renderFile target source.1 source.2 = .ok own) (member : a ∈ own) :
    IsLegible target.baseNamespace (TakesIn sources) a := by
  have spelled (d : Description) (described : d ∈ accepted source.2) : SpelledSheet d :=
    spelledSheet_of_accepted (identifiers source here) described
  unfold renderFile at file
  split at file
  · cases file
    cases member
  · obtain ⟨shared, both, last⟩ := bind_eq_ok file
    cases last
    rcases List.mem_append.mp member with sheet | whole
    · obtain ⟨d, described, artifact⟩ := List.mem_flatMap.mp sheet
      exact (isLegible_sheetArtifacts (spelled d described) artifact).mono fun m names taken =>
        ⟨source, here, d, described, taken⟩
    · obtain ⟨lines, enums, last⟩ := bind_eq_ok both
      cases last
      simp only [List.mem_cons, List.not_mem_nil, or_false] at whole
      rcases whole with rfl | rfl
      · exact ⟨lines, rfl, legible_enumModule enums spelledEnum_of_emitted⟩
      · have exporter := @legible_exporterModule target.baseNamespace source.2.name (accepted source.2)
          (identifiers source here)
          (fun d described => ⟨(named_of_accepted described).1, spelled d described⟩) source.1
          target.assetRoot
        refine ⟨_, rfl, fun line inner => (exporter line inner).mono fun m names taken => ?_⟩
        obtain ⟨d, described, own⟩ := taken
        exact ⟨source, here, d, described, own⟩

/-- So are those of the registry, which imports the accessors of all sheets. -/
theorem isLegible_of_renderRegistry
    (identifiers : ∀ source ∈ sources, isIdentifier source.2.name = true)
    (member : a ∈ renderRegistry target (sources.flatMap fun source => registryEntries source.2)) :
    IsLegible target.baseNamespace (TakesIn sources) a := by
  unfold renderRegistry at member
  split at member
  · cases member
  · rw [List.mem_singleton.mp member]
    refine ⟨_, rfl, legible_registryModule ?_ ?_⟩
    · intro e listed
      obtain ⟨source, here, among⟩ := List.mem_flatMap.mp listed
      obtain ⟨d, described, rfl⟩ := List.mem_map.mp among
      have spelled := spelledSheet_of_accepted (identifiers source here) described
      exact ⟨spelled.schema, spelled.sheet⟩
    · intro e listed
      obtain ⟨source, here, among⟩ := List.mem_flatMap.mp listed
      obtain ⟨d, described, rfl⟩ := List.mem_map.mp among
      refine ⟨source, here, d, described, ?_⟩
      unfold registryImport
      split
      · exact .accessor
      · exact .accessor

/-- The lines of everything that a run renders are legible. -/
theorem isLegible_of_rendered (identifiers : ∀ source ∈ sources, isIdentifier source.2.name = true)
    (rendered : renderRun target sources = .ok all) (member : a ∈ all) :
    IsLegible target.baseNamespace (TakesIn sources) a := by
  obtain ⟨files, each, last⟩ := bind_eq_ok rendered
  cases last
  rcases List.mem_append.mp member with among | registry
  · obtain ⟨own, listed, inside⟩ := List.mem_flatten.mp among
    obtain ⟨source, here, file⟩ := (mem_of_mapM each).2 own listed
    exact isLegible_of_renderFile identifiers here file inside
  · exact isLegible_of_renderRegistry identifiers registry

/-- The base of imports ends with the name of the code root, and stands in one line. -/
theorem baseNamespace_eq (project : ∀ name, target.project = some name → isIdentifier name = true) :
    WithinLine target.baseNamespace ∧ ∃ front, target.baseNamespace = front ++ rootDirectory := by
  unfold Destination.baseNamespace
  cases same : target.project with
  | none => exact ⟨by decide, "", (String.empty_append).symm⟩
  | some name =>
    dsimp only
    split
    · exact ⟨by decide, "", (String.empty_append).symm⟩
    · refine ⟨?_, name ++ ".", rfl⟩
      rw [withinLine_append, withinLine_append]
      exact ⟨⟨withinLine_of_isIdentifier (project name same), by decide⟩, by decide⟩

/-- The lines of a legible artifact are those that it is rendered from, and an empty one. -/
theorem IsLegible.line {base : String} {takes : GeneratedModule → List ImportedName → Prop}
    (legible : IsLegible base takes a) (within : WithinLine base) {line : String}
    (member : line ∈ textLines a.content) : ∃ own, Legible base takes own ∧ own.text = line := by
  obtain ⟨lines, content, each⟩ := legible
  rw [content, textLines_sourceText within each] at member
  rcases List.mem_append.mp member with inside | last
  · obtain ⟨own, listed, text⟩ := List.mem_map.mp inside
    exact ⟨own, each own listed, text⟩
  · exact ⟨.blank, .blank, (List.mem_singleton.mp last).symm⟩

/-- The text of an enumeration module has each enumeration as a block. -/
theorem emits_of_enumModule {enums : List Enumeration} {lines : List SourceLine} {e : Enumeration}
    (rendered : enumModule enums = .ok lines) (spelled : ∀ e ∈ enums, SpelledEnum e)
    (distinct : (enums.map Enumeration.name).Nodup) (member : e ∈ enums) :
    Emits (sourceText lines) e := by
  have within : WithinLine "" := by decide
  have legible : ∀ line ∈ lines, Legible "" (fun _ _ => False) line := legible_enumModule rendered spelled
  have names := classNames_enumModule rendered
  refine ⟨?_, ?_⟩
  · apply definesOnce_sourceText within legible
    · rw [names]
      exact distinct
    · rw [names]
      exact List.mem_map_of_mem member
  · obtain ⟨front, back, rfl, ends⟩ := block_of_enumModule rendered member
    have block : (enumBlock e).map SourceLine.text = ("class " ++ e.name ++ "(IntEnum):") ::
        e.members.map fun m => "    " ++ (m.name ++ " = " ++ integerText m.value) := by
      rw [enumBlock, List.map_cons, List.map_map]
      refine congrArg₂ _ ?_ rfl
      simp only [SourceLine.text, String.append_assoc]
      rfl
    obtain ⟨further, behind⟩ : ∃ further, back.map SourceLine.text ++ [""] = "" :: further := by
      rcases ends with rfl | ⟨rest, rfl⟩
      · exact ⟨[], rfl⟩
      · exact ⟨_, rfl⟩
    refine ⟨front.map SourceLine.text, further, ?_⟩
    rw [textLines_sourceText within legible, List.map_append, List.map_append, block,
      List.append_assoc _ (back.map _), behind]

/-- What is imported for an accepted sheet is defined once, by a module of the same run. -/
theorem provided_of_takes (identifiers : ∀ source ∈ sources, isIdentifier source.2.name = true)
    (rendered : renderRun target sources = .ok all) (within : WithinLine target.baseNamespace)
    {m : GeneratedModule} {names : List ImportedName} (taken : TakesIn sources m names) :
    ∃ b ∈ all, b.path = m.path target ∧ ∀ i ∈ names, DefinesOnce b.content i.name := by
  obtain ⟨source, member, d, described, taken⟩ := taken
  have spelled := spelledSheet_of_accepted (identifiers source member) described
  have component := isComponent_of_isIdentifier spelled.schema
  have noSlash := Yaml.slash_not_mem_of_isIdentifier d.sheet spelled.sheet
  obtain ⟨sheets, lines, enums, typeModule⟩ := rendered_of_accepted rendered member described
  have one {name : String} {lines : List SourceLine}
      (legible : ∀ line ∈ lines, Legible target.baseNamespace (Takes d) line)
      (classes : classNames lines = [name]) : DefinesOnce (sourceText lines) name := by
    apply definesOnce_sourceText within legible
    · rw [classes]
      exact List.nodup_singleton name
    · rw [classes]
      exact List.mem_cons_self
  cases taken with
  | enumerations some each =>
    refine ⟨_, typeModule, typePath_eq target (Yaml.slash_not_mem_of_isIdentifier _ spelled.schema), ?_⟩
    intro i listed
    obtain ⟨e, own, rfl⟩ := each i listed
    have inside := (Generated.mem_typeEnums described own).1
    exact (emits_of_enumModule enums spelledEnum_of_emitted (nodup_typeEnums source.2) inside).1
  | record =>
    refine ⟨_, sheets _ List.mem_cons_self, recordPath_eq target component noSlash, ?_⟩
    intro i listed
    rw [List.mem_singleton.mp listed]
    exact one (legible_recordModule spelled) (classNames_recordModule _ d)
  | container =>
    refine ⟨_, sheets _ (List.mem_cons_of_mem _ List.mem_cons_self), containerPath_eq target component noSlash, ?_⟩
    intro i listed
    rw [List.mem_singleton.mp listed]
    exact one (legible_containerModule spelled) (classNames_containerModule _ d)
  | accessor =>
    refine ⟨_, sheets _ (List.mem_cons_of_mem _ (List.mem_cons_of_mem _ List.mem_cons_self)),
      accessorPath_eq target component noSlash, ?_⟩
    intro i listed
    rw [List.mem_singleton.mp listed]
    exact one (legible_accessorModule spelled _) (classNames_accessorModule _ d _)

/-- A line of a module of a sheet that imports from the enumeration module of its file. -/
theorem described_of_line (spelled : SpelledSheet d)
    (base : WithinLine target.baseNamespace ∧ ∃ front, target.baseNamespace = front ++ rootDirectory)
    (member : a ∈ sheetArtifacts target d) {line rest : String} (listed : line ∈ textLines a.content)
    (text : line = "from " ++ typeModule target.baseNamespace d.schema ++ " import " ++ rest) :
    ∃ names, rest = ", ".intercalate names ∧ ∀ name ∈ names, ∃ e ∈ d.enumerations, e.name = name := by
  obtain ⟨within, front, root⟩ := base
  obtain ⟨own, legible, rfl⟩ := (isLegible_sheetArtifacts spelled member).line within listed
  have below : own.text = "from " ++ target.baseNamespace ++ "." ++
      (("Type.Generated." ++ d.schema ++ "Type") ++ " import " ++ rest) := by
    rw [text, ← String.toList_inj]
    simp [typeModule]
  obtain ⟨m, names, -, -, taken, same⟩ := legible.import_of_text root below
  cases taken with
  | enumerations some each =>
    refine ⟨names.map ImportedName.text, ?_, ?_⟩
    · rw [← String.toList_inj] at same ⊢
      simpa [GeneratedModule.directories, GeneratedModule.name] using same
    · intro name among
      obtain ⟨i, imported, rfl⟩ := List.mem_map.mp among
      obtain ⟨e, described, rfl⟩ := each i imported
      exact ⟨e, described, rfl⟩
  | record =>
    rw [← String.toList_inj] at same
    simp [GeneratedModule.directories, GeneratedModule.name] at same
  | container =>
    rw [← String.toList_inj] at same
    simp [GeneratedModule.directories, GeneratedModule.name] at same
  | accessor =>
    rw [← String.toList_inj] at same
    simp [GeneratedModule.directories, GeneratedModule.name] at same

/-- The imports of everything that a run renders for valid workbooks are closed. -/
theorem importsClosed_of_rendered (project : ∀ name, target.project = some name → isIdentifier name = true)
    (identifiers : ∀ source ∈ sources, isIdentifier source.2.name = true)
    (rendered : renderRun target sources = .ok all) : ImportsClosed target sources all := by
  obtain ⟨within, front, root⟩ := baseNamespace_eq project
  refine ⟨?_, ?_, ?_, ?_⟩
  · intro a member line listed rest text
    obtain ⟨own, legible, rfl⟩ := (isLegible_of_rendered identifiers rendered member).line within listed
    obtain ⟨m, names, spelled, imported, taken, same⟩ := legible.import_of_text root text
    exact ⟨m.directories, m.name, names, spelled, imported, same,
      provided_of_takes identifiers rendered within taken⟩
  · intro source member d described
    exact (rendered_of_accepted rendered member described).1
  · intro source member d described a among line listed rest text
    exact described_of_line (spelledSheet_of_accepted (identifiers source member) described)
      ⟨within, front, root⟩ among listed text
  · intro source member d described
    obtain ⟨-, lines, enums, typeModule⟩ := rendered_of_accepted rendered member described
    refine ⟨_, typeModule, rfl, ?_⟩
    intro e own
    exact emits_of_enumModule enums spelledEnum_of_emitted (nodup_typeEnums source.2)
      (Generated.mem_typeEnums described own).1

end Rendered

namespace Run

/-- Generating modules, when no failed write ends the work on a file: whatever a module imports from
below the code root is defined by a module of the same run, and enumerations as they are described. -/
theorem generated_imports {moment : Calendar.DateTime} {elapsed : Number.Double}
    {source code asset logs : String} {project : Option String} {before after : Workspace}
    {report : Report} (identifier : ∀ name, project = some name → isIdentifier name = true)
    (wellFormed : WellFormed before.files) (distinct : SheetsDiffer before.files (.ofText source))
    (ran : generate (.startingAt moment elapsed) (.ofText source)
      { code := .ofText code, asset := .ofText asset, project } (.ofText logs) before =
        (.ok report, after))
    (finished : ∀ f ∈ report.files, ¬f.WriteFailed) :
    ∃ names all, ListsSchemaFiles before.files (.ofText source) names ∧
      renderRun { code := .ofText code, asset := .ofText asset, project }
        (workbooks before.files (names.map (Path.ofText source).child)) = .ok all ∧
      (∀ a ∈ all, Stands after.files a) ∧
      ImportsClosed { code := .ofText code, asset := .ofText asset, project }
        (workbooks before.files (names.map (Path.ofText source).child)) all := by
  obtain ⟨names, all, lists, renders⟩ := renders_of_generate wellFormed distinct ran finished
  exact ⟨names, all, lists, renders.rendered, renders.stands,
    importsClosed_of_rendered identifier renders.identifiers renders.rendered⟩

/-- A sheet imports an enumeration that a refused sheet declares. -/
theorem generated_imports_armory : ∃ report after,
    WellFormed armoryTree ∧ SheetsDiffer armoryTree (.ofText "data") ∧
    generate (.startingAt dawn .nan) (.ofText "data") armoryTarget (.ofText "logs")
      { files := armoryTree } = (.ok report, after) ∧ (∀ f ∈ report.files, ¬f.WriteFailed) ∧
    ∃ names all, ListsSchemaFiles armoryTree (.ofText "data") names ∧
      renderRun armoryTarget (workbooks armoryTree (names.map (Path.ofText "data").child)) = .ok all ∧
      (∀ a ∈ all, Stands after.files a) ∧
      ImportsClosed armoryTarget (workbooks armoryTree (names.map (Path.ofText "data").child)) all := by
  obtain ⟨report, after, ran, finished⟩ := generate_armory dawn .nan
  have closed := @generated_imports dawn .nan "data" "gen" "assets" "logs" none { files := armoryTree } after
    report (by simp) wellFormed_armoryTree sheetsDiffer_armoryTree ran finished
  exact ⟨report, after, wellFormed_armoryTree, sheetsDiffer_armoryTree, ran, finished, closed⟩

end Run

end TypedSheets

import TypedSheets.Proofs.Files.SourceFiles
import TypedSheets.Proofs.Generated.ModulePaths
import TypedSheets.Proofs.Schema.AcceptedSheets

/-!
# What a run renders

A run renders modules for the accepted sheets of each workbook, for each workbook with an accepted
sheet, and one for all of them. As long as workbooks and the sheets of each have different names, the
modules have paths that lead apart.
-/

namespace TypedSheets

open TypedSheets.Emission TypedSheets.Grid TypedSheets.Number TypedSheets.Schema TypedSheets.Text FileTree

/-- The workbook of a file that can be read and whose name is an identifier. -/
def workbookAt? (t : FileTree) (p : Path) : Option Workbook :=
  match SchemaFile.reading t p with
  | .ok (.ok w) => if isIdentifier w.name then some w else none
  | _ => none

/-- The workbooks of a list of files, with the files. -/
def workbooks (t : FileTree) (paths : List Path) : List (Path × Workbook) :=
  paths.filterMap fun p => (workbookAt? t p).map fun w => (p, w)

/-- What is rendered from a workbook: the modules of its accepted sheets, and those of the file when
there are any. -/
def renderFile (target : Destination) (source : Path) (w : Workbook) :
    Except OversizedInteger (List Artifact) := do
  if (accepted w).isEmpty then pure []
  else
    let shared ← fileArtifacts target w.name source ((collectEnums w).map Prod.snd) (accepted w)
    pure ((accepted w).flatMap (sheetArtifacts target) ++ shared)

/-- The accepted sheets of a workbook as the registry lists them. -/
def registryEntries (w : Workbook) : List RegistryEntry := (accepted w).map fun d => ⟨d.schema, d.sheet⟩

/-- The registry of some sheets, when there are any. -/
def renderRegistry (target : Destination) (entries : List RegistryEntry) : List Artifact :=
  if entries.isEmpty then [] else [registryArtifact target entries]

/-- What is rendered from the workbooks of a run. -/
def renderRun (target : Destination) (sources : List (Path × Workbook)) :
    Except OversizedInteger (List Artifact) := do
  let files ← sources.mapM fun source => renderFile target source.1 source.2
  pure (files.flatten ++ renderRegistry target (sources.flatMap fun source => registryEntries source.2))

/-- The modules of a sheet. -/
def sheetModules (d : Description) : List GeneratedModule :=
  [.record d.schema d.sheet, .container d.schema d.sheet, .accessor d.schema d.sheet]

/-- The modules that may come of a workbook. -/
def fileModules (w : Workbook) : List GeneratedModule :=
  (accepted w).flatMap sheetModules ++ [GeneratedModule.enumerations w.name, .exporter w.name]

/-- The modules that may come of some workbooks. -/
def runModules (ws : List Workbook) : List GeneratedModule := ws.flatMap fileModules ++ [GeneratedModule.registry]

/-- The modules of a workbook are those of its schema and of sheets with identifiers for names. -/
theorem schema_of_fileModules {w : Workbook} {m : GeneratedModule} (member : m ∈ fileModules w) :
    m.schema? = some w.name ∧ ∀ sheet, m.sheet? = some sheet → isIdentifier sheet = true := by
  rcases List.mem_append.mp member with sheet | file
  · obtain ⟨d, described, among⟩ := List.mem_flatMap.mp sheet
    obtain ⟨own, identifier⟩ := named_of_accepted described
    simp only [sheetModules, List.mem_cons, List.not_mem_nil, or_false] at among
    rcases among with rfl | rfl | rfl
    all_goals
      refine ⟨congrArg some own, ?_⟩
      rintro sheet ⟨⟩
      exact identifier
  · simp only [List.mem_cons, List.not_mem_nil, or_false] at file
    rcases file with rfl | rfl
    all_goals
      refine ⟨rfl, ?_⟩
      rintro sheet ⟨⟩

/-- A module of a sheet comes of an accepted one. -/
theorem accepted_of_fileModules {w : Workbook} {m : GeneratedModule} {sheet : String}
    (member : m ∈ fileModules w) (own : m.sheet? = some sheet) : ∃ d ∈ accepted w, d.sheet = sheet := by
  rcases List.mem_append.mp member with among | file
  · obtain ⟨d, described, listed⟩ := List.mem_flatMap.mp among
    simp only [sheetModules, List.mem_cons, List.not_mem_nil, or_false] at listed
    refine ⟨d, described, ?_⟩
    rcases listed with rfl | rfl | rfl
    all_goals exact Option.some.inj own
  · simp only [List.mem_cons, List.not_mem_nil, or_false] at file
    rcases file with rfl | rfl
    all_goals cases own

/-- The modules of a workbook whose sheets have different names are different. -/
theorem nodup_fileModules {w : Workbook} (distinct : w.sheetNames.Nodup) : (fileModules w).Nodup := by
  have sheets : ((accepted w).flatMap sheetModules).Nodup := by
    rw [List.nodup_flatMap]
    refine ⟨?_, ?_⟩
    · intro d _
      simp [sheetModules]
    · have names := (accepted_sublist w).nodup distinct
      rw [List.Nodup, List.pairwise_map] at names
      refine names.imp ?_
      intro a b differ m left right
      simp only [sheetModules, List.mem_cons, List.not_mem_nil, or_false] at left right
      rcases left with rfl | rfl | rfl
      all_goals simp at right
      all_goals exact differ right.2
  refine List.Nodup.append sheets ?_ ?_
  · simp
  · intro m left right
    obtain ⟨d, -, among⟩ := List.mem_flatMap.mp left
    simp only [sheetModules, List.mem_cons, List.not_mem_nil, or_false] at among right
    rcases among with rfl | rfl | rfl
    all_goals simp at right

/-- So are those of workbooks with different names. -/
theorem nodup_runModules {ws : List Workbook} (names : (ws.map Workbook.name).Nodup)
    (distinct : ∀ w ∈ ws, w.sheetNames.Nodup) : (runModules ws).Nodup := by
  have files : (ws.flatMap fileModules).Nodup := by
    rw [List.nodup_flatMap]
    refine ⟨fun w member => nodup_fileModules (distinct w member), ?_⟩
    rw [List.Nodup, List.pairwise_map] at names
    refine names.imp ?_
    intro a b differ m left right
    have same := (schema_of_fileModules left).1.symm.trans (schema_of_fileModules right).1
    exact differ (Option.some.inj same)
  refine List.Nodup.append files (List.nodup_singleton _) ?_
  intro m left right
  obtain ⟨w, -, among⟩ := List.mem_flatMap.mp left
  rw [List.mem_singleton.mp right] at among
  cases (schema_of_fileModules among).1

/-- The names of the modules of a valid workbook are components without null characters. -/
theorem named_fileModules {w : Workbook} (identifier : isIdentifier w.name = true)
    {m : GeneratedModule} (member : m ∈ fileModules w) : m.Named ∧ '\x00' ∉ m.name.toList := by
  obtain ⟨own, sheets⟩ := schema_of_fileModules member
  apply GeneratedModule.named_of_identifiers _ sheets
  intro schema same
  rw [own] at same
  cases same
  exact identifier

theorem named_runModules {ws : List Workbook} (identifiers : ∀ w ∈ ws, isIdentifier w.name = true)
    {m : GeneratedModule} (member : m ∈ runModules ws) : m.Named ∧ '\x00' ∉ m.name.toList := by
  rcases List.mem_append.mp member with file | last
  · obtain ⟨w, among, listed⟩ := List.mem_flatMap.mp file
    exact named_fileModules (identifiers w among) listed
  · rw [List.mem_singleton.mp last]
    exact ⟨trivial, by decide⟩

/-- Modules of valid workbooks, all with different names, have paths that lead apart. -/
theorem apart_runModules (target : Destination) {ws : List Workbook}
    (names : (ws.map Workbook.name).Nodup) (distinct : ∀ w ∈ ws, w.sheetNames.Nodup)
    (identifiers : ∀ w ∈ ws, isIdentifier w.name = true) :
    ((runModules ws).map (GeneratedModule.path target)).Pairwise Apart :=
  GeneratedModule.apart_of_nodup target (nodup_runModules names distinct)
    fun _ member => (named_runModules identifiers member).1

theorem apart_fileModules (target : Destination) {w : Workbook} (distinct : w.sheetNames.Nodup)
    (identifier : isIdentifier w.name = true) :
    ((fileModules w).map (GeneratedModule.path target)).Pairwise Apart :=
  GeneratedModule.apart_of_nodup target (nodup_fileModules distinct)
    fun _ member => (named_fileModules identifier member).1

section Paths

variable {target : Destination} {source : Path} {w : Workbook} {d : Description}
  {artifacts : List Artifact}

theorem sheetArtifacts_paths (target : Destination) (schema : isIdentifier d.schema = true)
    (sheet : isIdentifier d.sheet = true) :
    (sheetArtifacts target d).map Artifact.path = (sheetModules d).map (GeneratedModule.path target) := by
  have component := isComponent_of_isIdentifier schema
  have noSlash := Yaml.slash_not_mem_of_isIdentifier d.sheet sheet
  simp only [sheetArtifacts, sheetModules, List.map_cons, List.map_nil,
    recordPath_eq target component noSlash, containerPath_eq target component noSlash,
    accessorPath_eq target component noSlash]

theorem fileArtifacts_paths {schema : String} {declared : List Enumeration}
    {descriptions : List Description} (identifier : isIdentifier schema = true)
    (rendered : fileArtifacts target schema source declared descriptions = .ok artifacts) :
    artifacts.map Artifact.path =
      [.enumerations schema, .exporter schema].map (GeneratedModule.path target) := by
  have noSlash := Yaml.slash_not_mem_of_isIdentifier schema identifier
  obtain ⟨enums, -, last⟩ := bind_eq_ok rendered
  cases last
  simp only [List.map_cons, List.map_nil, typePath_eq target noSlash, exporterPath_eq target noSlash]

/-- What lies where modules of a valid workbook do may be written by a run. -/
theorem isProduct_of_paths (split : IsSplit target.codeRoot) (identifier : isIdentifier w.name = true)
    {modules : List GeneratedModule} (among : ∀ m ∈ modules, m ∈ fileModules w)
    (paths : artifacts.map Artifact.path = modules.map (GeneratedModule.path target)) :
    ∀ a ∈ artifacts, IsProduct a.path := by
  intro a member
  have path := List.mem_map_of_mem (f := Artifact.path) member
  rw [paths] at path
  obtain ⟨m, listed, same⟩ := List.mem_map.mp path
  obtain ⟨named, noNull⟩ := named_fileModules identifier (among m listed)
  rw [← same]
  exact GeneratedModule.isProduct_path split named noNull

/-- What is rendered from accepted sheets lies where the modules of the sheets do. -/
theorem flatMap_sheetArtifacts_paths (target : Destination) (identifier : isIdentifier w.name = true)
    {descriptions : List Description} (described : ∀ d ∈ descriptions, d ∈ accepted w) :
    (descriptions.flatMap (sheetArtifacts target)).map Artifact.path =
      (descriptions.flatMap sheetModules).map (GeneratedModule.path target) := by
  rw [List.map_flatMap, List.map_flatMap]
  apply List.flatMap_congr
  intro d member
  obtain ⟨schema, sheet⟩ := named_of_accepted (described d member)
  apply sheetArtifacts_paths target _ sheet
  rw [schema]
  exact identifier

theorem isProduct_sheetArtifacts (split : IsSplit target.codeRoot)
    (identifier : isIdentifier w.name = true) (described : d ∈ accepted w) :
    ∀ a ∈ sheetArtifacts target d, IsProduct a.path := by
  obtain ⟨schema, sheet⟩ := named_of_accepted described
  refine isProduct_of_paths split identifier ?_ (sheetArtifacts_paths target ?_ sheet)
  · intro m listed
    exact List.mem_append_left _ (List.mem_flatMap.mpr ⟨d, described, listed⟩)
  · rw [schema]
    exact identifier

theorem isProduct_fileArtifacts {declared : List Enumeration} {descriptions : List Description}
    (split : IsSplit target.codeRoot) (identifier : isIdentifier w.name = true)
    (rendered : fileArtifacts target w.name source declared descriptions = .ok artifacts) :
    ∀ a ∈ artifacts, IsProduct a.path := by
  refine isProduct_of_paths split identifier ?_ (fileArtifacts_paths identifier rendered)
  intro m listed
  exact List.mem_append_right _ listed

theorem isProduct_registryArtifact (split : IsSplit target.codeRoot) (entries : List RegistryEntry) :
    IsProduct (registryArtifact target entries).path := by
  rw [registryArtifact, registryPath_eq]
  exact GeneratedModule.isProduct_path split trivial (by decide)

/-- What is rendered from a workbook lies where its modules do. -/
theorem renderFile_paths (identifier : isIdentifier w.name = true)
    (rendered : renderFile target source w = .ok artifacts) :
    (artifacts.map Artifact.path).Sublist ((fileModules w).map (GeneratedModule.path target)) := by
  unfold renderFile at rendered
  split at rendered
  · cases rendered
    exact List.nil_sublist _
  · obtain ⟨shared, files, last⟩ := bind_eq_ok rendered
    cases last
    rw [List.map_append, flatMap_sheetArtifacts_paths target identifier fun _ member => member,
      fileArtifacts_paths identifier files, fileModules, List.map_append]

theorem renderFiles_paths {sources : List (Path × Workbook)}
    (identifiers : ∀ source ∈ sources, isIdentifier source.2.name = true) {files : List (List Artifact)}
    (rendered : (sources.mapM fun source => renderFile target source.1 source.2) = .ok files) :
    (files.flatten.map Artifact.path).Sublist
      (((sources.map Prod.snd).flatMap fileModules).map (GeneratedModule.path target)) := by
  induction sources generalizing files with
  | nil =>
    cases rendered
    exact .slnil
  | cons source rest inductionHypothesis =>
    obtain ⟨first, others, own, later, rfl⟩ := mapM_cons_eq_ok.mp rendered
    rw [List.flatten_cons, List.map_append, List.map_cons, List.flatMap_cons, List.map_append]
    apply List.Sublist.append
    · exact renderFile_paths (identifiers source List.mem_cons_self) own
    · apply inductionHypothesis _ later
      intro other member
      exact identifiers other (List.mem_cons_of_mem source member)

theorem renderRegistry_paths (target : Destination) (entries : List RegistryEntry) :
    ((renderRegistry target entries).map Artifact.path).Sublist
      ([GeneratedModule.registry].map (GeneratedModule.path target)) := by
  unfold renderRegistry
  split
  · exact List.nil_sublist _
  · rw [List.map_singleton, List.map_singleton, registryArtifact, registryPath_eq]

/-- What a run renders lies where the modules of its workbooks do. -/
theorem renderRun_paths {sources : List (Path × Workbook)}
    (identifiers : ∀ source ∈ sources, isIdentifier source.2.name = true)
    (rendered : renderRun target sources = .ok artifacts) :
    (artifacts.map Artifact.path).Sublist
      ((runModules (sources.map Prod.snd)).map (GeneratedModule.path target)) := by
  obtain ⟨files, each, last⟩ := bind_eq_ok rendered
  cases last
  rw [List.map_append, runModules, List.map_append]
  exact (renderFiles_paths identifiers each).append (renderRegistry_paths target _)

end Paths

end TypedSheets

import TypedSheets.Proofs.Runs.Overwriting
import TypedSheets.Proofs.Schema.EnumNamespace

/-!
# The tree after generating

A run that generates modules and in which no failed write ends the work on a file leaves exactly the
modules rendered from the accepted sheets, at paths that lead apart, and its log. Everything else is as
it was, but for directories that were made on the way.
-/

namespace TypedSheets

open TypedSheets.Emission TypedSheets.Grid TypedSheets.Schema TypedSheets.Text FileTree

/-- The names of the schema files directly below a directory, each once and in order. -/
structure ListsSchemaFiles (t : FileTree) (directory : Path) (names : List String) : Prop where
  ascending : names.Pairwise (· ≤ ·)
  distinct : names.Nodup
  complete : ∀ name, name ∈ names ↔ SchemaFile.isName name = true ∧ '/' ∉ name.toList ∧
    t.isFile? (directory.child name) = .ok true

/-- The sheets of each workbook in a source directory have different names. -/
def SheetsDiffer (t : FileTree) (directory : Path) : Prop :=
  ∀ name, SchemaFile.isName name = true → '/' ∉ name.toList →
    t.isFile? (directory.child name) = .ok true →
    ∀ w, SchemaFile.reading t (directory.child name) = .ok (.ok w) → w.sheetNames.Nodup

/-- What a run that generates modules leaves behind, with its log and the workbooks it reads. -/
structure GeneratedTree (target : Destination) (log : Path) (sources : List (Path × Workbook))
    (before after : FileTree) (all : List Artifact) : Prop where
  rendered : renderRun target sources = .ok all
  stands : ∀ a ∈ all, Stands after a
  apart : (all.map Artifact.path).Pairwise Apart
  /-- Elsewhere nothing has changed, except that there may be new directories. -/
  frame : ∀ at_, (∀ a ∈ all, after.locate a.path ≠ .ok at_) → after.locate log ≠ .ok at_ →
    after.entry? at_ = before.entry? at_ ∨
      before.entry? at_ = none ∧ after.entry? at_ = some .directory
  /-- In particular the modules of a refused sheet are what they were. -/
  spared : ∀ source ∈ sources, ∀ sheet ∈ source.2.sheets, '/' ∉ sheet.name.toList →
    (∃ e, interpretIn source.2.name (collectEnums source.2) sheet = .error e) →
    ∀ p ∈ [target.recordPath source.2.name sheet.name, target.containerPath source.2.name sheet.name,
      target.accessorPath source.2.name sheet.name],
    ∀ at_, after.locate p = .ok at_ → after.fileAt? at_ = before.fileAt? at_

/-- The entry at a location whose file is what it was: the same, or a directory where nothing was. -/
theorem FileTree.Grows.entry_of_same {t u : FileTree} (grows : Grows t u) {at_ : Location}
    (same : u.fileAt? at_ = t.fileAt? at_) :
    u.entry? at_ = t.entry? at_ ∨ t.entry? at_ = none ∧ u.entry? at_ = some .directory := by
  cases found : t.entry? at_ with
  | none =>
    cases later : u.entry? at_ with
    | none => exact .inl rfl
    | some entry =>
      cases entry with
      | directory => exact .inr ⟨rfl, rfl⟩
      | file content =>
        rw [fileAt?, fileAt?, found, later] at same
        cases same
  | some entry =>
    cases entry with
    | directory => exact .inl (grows.directories at_ found)
    | file content =>
      rw [fileAt?_eq_some.mpr found, fileAt?_eq_some] at same
      exact .inl same

namespace Run

/-- The scan of a source directory lists its schema files. -/
theorem listsSchemaFiles_of_scanning {t : FileTree} {directory : Path} {paths : List Path}
    (wellFormed : WellFormed t) (scanned : SchemaFile.scanning t directory = .ok paths) :
    ∃ names, paths = names.map directory.child ∧ ListsSchemaFiles t directory names ∧
      ∀ p ∈ paths, ∀ u, Grows t u → SchemaFile.reading u p = SchemaFile.reading t p := by
  obtain ⟨-, at_, located, found, -, rfl⟩ := SchemaFile.scanning_eq_ok.mp scanned
  refine ⟨_, rfl, ⟨SchemaFile.sorted_schemaNames t directory at_,
    SchemaFile.nodup_schemaNames wellFormed, ?_⟩, ?_⟩
  · intro name
    exact SchemaFile.mem_schemaNames wellFormed located found
  · intro p member u grows
    obtain ⟨name, listed, rfl⟩ := List.mem_map.mp member
    exact SchemaFile.reading_grows wellFormed located found grows listed

/-- Workbooks have the stems of their files for names. -/
theorem names_sublist (t : FileTree) (directory : Path) {names : List String}
    (components : ∀ name ∈ names, IsComponent name) :
    (((workbooks t (names.map directory.child)).map Prod.snd).map Workbook.name).Sublist
      (names.map fun name => (Path.splitName name).1) := by
  induction names with
  | nil => exact .slnil
  | cons name rest inductionHypothesis =>
    have further := inductionHypothesis fun other member => components other (List.mem_cons_of_mem name member)
    rw [List.map_cons, List.map_cons]
    cases found : workbookAt? t (directory.child name) with
    | none =>
      have skipped : workbooks t (directory.child name :: rest.map directory.child) =
          workbooks t (rest.map directory.child) := List.filterMap_cons_none (by rw [found]; rfl)
      rw [skipped]
      exact further.cons _
    | some w =>
      have listed : workbooks t (directory.child name :: rest.map directory.child) =
          (directory.child name, w) :: workbooks t (rest.map directory.child) :=
        List.filterMap_cons_some (by rw [found]; rfl)
      rw [listed, List.map_cons, List.map_cons, (named_of_workbookAt? found).2,
        SchemaFile.stem_child directory (components name List.mem_cons_self)]
      exact further.cons_cons _

/-- So the workbooks of a source directory have different names. -/
theorem nodup_workbooks {t : FileTree} {directory : Path} {names : List String}
    (lists : ListsSchemaFiles t directory names) :
    (((workbooks t (names.map directory.child)).map Prod.snd).map Workbook.name).Nodup := by
  have schema (name : String) (member : name ∈ names) := (lists.complete name).mp member
  have components (name : String) (member : name ∈ names) : IsComponent name :=
    SchemaFile.isComponent_of_isName (schema name member).2.1 (schema name member).1
  apply (names_sublist t directory components).nodup
  apply List.Nodup.map_on _ lists.distinct
  intro a first b second same
  exact SchemaFile.eq_of_stem (schema a first).1 (schema b second).1 same

theorem mem_workbooks {t : FileTree} {paths : List Path} {source : Path × Workbook}
    (member : source ∈ workbooks t paths) :
    source.1 ∈ paths ∧ workbookAt? t source.1 = some source.2 := by
  obtain ⟨p, listed, found⟩ := List.mem_filterMap.mp member
  obtain ⟨w, own, rfl⟩ := Option.map_eq_some_iff.mp found
  exact ⟨listed, own⟩

theorem reading_of_workbookAt? {t : FileTree} {p : Path} {w : Workbook}
    (found : workbookAt? t p = some w) : SchemaFile.reading t p = .ok (.ok w) := by
  unfold workbookAt? at found
  split at found
  · next own read =>
    split_ifs at found
    cases found
    exact read
  · cases found

/-- The root below the path of a text. -/
theorem isSplit_root (text : String) : IsSplit ((Path.ofText text).child rootDirectory) := by
  have component : IsComponent rootDirectory := isComponent_of_isIdentifier (by decide)
  rw [child_eq_below _ component]
  apply isSplit_below (isSplit_ofText text)
  intro name member
  rw [List.mem_singleton.mp member]
  exact component

/-- A module lies apart from the log. -/
theorem module_apart_log {target : Destination} {m : GeneratedModule} (named : m.Named)
    {clock : Clock} (noSlash : '/' ∉ clock.stamp.toList) (logs : Path) :
    Apart (m.path target) (logFile clock logs) := by
  have last : (m.path target).parts.getLast? = some (m.name ++ ".py") := by
    rw [GeneratedModule.path, GeneratedModule.file, Path.below, ← List.append_assoc, List.getLast?_concat]
  have component := named.components (m.name ++ ".py") (List.mem_append_right _ List.mem_cons_self)
  exact logFile_apart noSlash last component.down (by decide : ".py".toList.getLast? = some 'y') (by decide)

/-- The registry stands when it is written. -/
theorem leaves_of_writeRegistry {target : Destination} {entries : List RegistryEntry}
    {written : List Written} {before after : Workspace} (split : IsSplit target.codeRoot)
    (ran : writeRegistry target entries before = (.ok written, after)) :
    Leaves (renderRegistry target entries) before.files after.files := by
  unfold writeRegistry at ran
  unfold renderRegistry
  split at ran
  · next empty =>
    rw [if_pos empty]
    cases ran
    exact .refl _
  · next some =>
    rw [if_neg some]
    obtain ⟨_, _, attempted, further⟩ := Job.bind_ok ran
    rw [Job.run_attempt] at attempted
    cases wrote : writeArtifact (registryArtifact target entries) before with
    | mk outcome last =>
      rw [wrote] at attempted
      cases attempted
      cases outcome with
      | ok own =>
        cases further
        exact leaves_of_written (isProduct_registryArtifact split entries) wrote
      | error e =>
        dsimp only at further
        split at further
        · cases further
        · cases further

/-- No module of a refused sheet is among those of the accepted ones. -/
theorem not_mem_runModules {ws : List Workbook} (names : (ws.map Workbook.name).Nodup) {w : Workbook}
    (member : w ∈ ws) (distinct : w.sheetNames.Nodup) {sheet : Sheet} (among : sheet ∈ w.sheets)
    {e : ShapeError} (refused : interpretIn w.name (collectEnums w) sheet = .error e)
    {m : GeneratedModule} (schema : m.schema? = some w.name) (own : m.sheet? = some sheet.name) :
    m ∉ runModules ws := by
  intro listed
  rcases List.mem_append.mp listed with file | last
  · obtain ⟨other, inside, module⟩ := List.mem_flatMap.mp file
    have same := (schema_of_fileModules module).1.symm.trans schema
    obtain rfl := List.inj_on_of_nodup_map names inside member (Option.some.inj same)
    obtain ⟨d, described, named⟩ := accepted_of_fileModules module own
    obtain ⟨accepted, present, interpreted⟩ := mem_accepted.mp described
    have sheetName := (accepts_of_interpretIn interpreted).1.named
    rw [eq_of_sheetName distinct among present (sheetName.symm.trans named), refused] at interpreted
    cases interpreted
  · rw [List.mem_singleton.mp last] at schema
    cases schema

/-- What is rendered lies where one of the modules of the workbooks does. -/
theorem module_of_rendered {target : Destination} {sources : List (Path × Workbook)}
    {all : List Artifact} (identifiers : ∀ source ∈ sources, isIdentifier source.2.name = true)
    (rendered : renderRun target sources = .ok all) {a : Artifact} (member : a ∈ all) :
    ∃ m ∈ runModules (sources.map Prod.snd), m.Named ∧ m.path target = a.path := by
  have path := List.mem_map_of_mem (f := Artifact.path) member
  obtain ⟨m, listed, same⟩ := List.mem_map.mp ((renderRun_paths identifiers rendered).subset path)
  refine ⟨m, listed, (named_runModules ?_ listed).1, same⟩
  intro w among
  obtain ⟨source, own, rfl⟩ := List.mem_map.mp among
  exact identifiers source own

/-- Modules of a refused sheet lie apart from everything that is rendered. -/
theorem spared_of_refused {target : Destination} {sources : List (Path × Workbook)}
    {all : List Artifact} (identifiers : ∀ source ∈ sources, isIdentifier source.2.name = true)
    (names : ((sources.map Prod.snd).map Workbook.name).Nodup)
    (distinct : ∀ source ∈ sources, source.2.sheetNames.Nodup)
    (rendered : renderRun target sources = .ok all) {source : Path × Workbook} (member : source ∈ sources)
    {sheet : Sheet} (among : sheet ∈ source.2.sheets) (noSlash : '/' ∉ sheet.name.toList) {e : ShapeError}
    (refused : interpretIn source.2.name (collectEnums source.2) sheet = .error e) :
    ∀ p ∈ [target.recordPath source.2.name sheet.name, target.containerPath source.2.name sheet.name,
      target.accessorPath source.2.name sheet.name],
    ∃ m : GeneratedModule, m.Named ∧ p = m.path target ∧ ∀ a ∈ all, Apart p a.path := by
  have component := isComponent_of_isIdentifier (identifiers source member)
  have apart {m : GeneratedModule} (named : m.Named) (schema : m.schema? = some source.2.name)
      (own : m.sheet? = some sheet.name) (a : Artifact) (listed : a ∈ all) :
      Apart (m.path target) a.path := by
    obtain ⟨n, inside, namedOther, path⟩ := module_of_rendered identifiers rendered listed
    have absent := not_mem_runModules names (List.mem_map_of_mem member) (distinct source member) among
      refused schema own
    rw [← path]
    apply GeneratedModule.path_apart target _ named namedOther
    rintro rfl
    exact absent inside
  intro p listed
  simp only [List.mem_cons, List.not_mem_nil, or_false] at listed
  rcases listed with rfl | rfl | rfl
  · exact ⟨.record source.2.name sheet.name, ⟨component, noSlash⟩,
      recordPath_eq target component noSlash, by
        rw [recordPath_eq target component noSlash]
        exact apart ⟨component, noSlash⟩ rfl rfl⟩
  · exact ⟨.container source.2.name sheet.name, ⟨component, noSlash⟩,
      containerPath_eq target component noSlash, by
        rw [containerPath_eq target component noSlash]
        exact apart ⟨component, noSlash⟩ rfl rfl⟩
  · exact ⟨.accessor source.2.name sheet.name, ⟨component, noSlash⟩,
      accessorPath_eq target component noSlash, by
        rw [accessorPath_eq target component noSlash]
        exact apart ⟨component, noSlash⟩ rfl rfl⟩

section Whole

variable {clock : Clock} {source logs : Path} {target : Destination} {before after : Workspace}
  {report : Report}

/-- A workbook is read from a schema file in every later tree as it is in the first one. -/
theorem workbookAt?_congr {t u : FileTree} {p : Path}
    (same : SchemaFile.reading u p = SchemaFile.reading t p) : workbookAt? u p = workbookAt? t p := by
  rw [workbookAt?, workbookAt?, same]

/-- The parts of a run that generates modules, when no failed write ends the work on a file: what is
rendered from the workbooks is left standing, and then the log is written. -/
theorem leaves_of_generate (split : IsSplit target.codeRoot) (product : IsProduct (logFile clock logs))
    (wellFormed : WellFormed before.files)
    (distinct : SheetsDiffer before.files source)
    (ran : generate clock source target logs before = (.ok report, after))
    (finished : ∀ f ∈ report.files, ¬f.WriteFailed) :
    ∃ names all middle, ListsSchemaFiles before.files source names ∧
      renderRun target (workbooks before.files (names.map source.child)) = .ok all ∧
      Leaves all before.files middle ∧ Grows middle after.files ∧
      ∀ at_, after.files.locate (logFile clock logs) ≠ .ok at_ →
        after.files.fileAt? at_ = middle.fileAt? at_ := by
  obtain ⟨paths, _, scanned, ran⟩ := Job.bind_ok ran
  rw [SchemaFile.run_scanSource] at scanned
  obtain ⟨found, rfl⟩ := Prod.mk.inj scanned
  obtain ⟨names, rfl, lists, reads⟩ := listsSchemaFiles_of_scanning wellFormed found
  obtain ⟨_, logged, logging, ran⟩ := Job.bind_ok ran
  have kept : logged.files = before.files := (Job.keepsFiles_log _ _).eq logging
  obtain ⟨results, seen, each, ran⟩ := Job.bind_ok ran
  obtain ⟨shared, registered, registry, ran⟩ := Job.bind_ok ran
  obtain ⟨_, flushed, flushing, ended⟩ := Job.bind_ok ran
  cases ended
  have sheets : ∀ p ∈ names.map source.child, ∀ w, workbookAt? before.files p = some w →
      w.sheetNames.Nodup := by
    intro p member w opened
    obtain ⟨name, listed, rfl⟩ := List.mem_map.mp member
    obtain ⟨schema, noSlash, isFile⟩ := (lists.complete name).mp listed
    exact distinct name schema noSlash isFile w (reading_of_workbookAt? opened)
  obtain ⟨files, rendered, leaves, entries⟩ := leaves_of_eachFile split
    (fun p member u grows => workbookAt?_congr (reads p member u grows)) sheets
    (by rw [kept]; exact .refl _) each
    (fun r member => finished r.outcome (List.mem_map_of_mem member))
  rw [kept] at leaves
  have later := leaves_of_writeRegistry split registry
  rw [entries] at later
  obtain ⟨grows, same⟩ := flush_frame product flushing
  refine ⟨names, _, registered.files, lists, ?_, leaves.trans later, grows, same⟩
  rw [renderRun, rendered]
  rfl

end Whole

/-- A run that generates modules for the workbooks it reads: what is rendered from them stands, and no
other file has changed but the log. -/
structure Renders (target : Destination) (log : Path) (sources : List (Path × Workbook))
    (before after : FileTree) (all : List Artifact) : Prop where
  identifiers : ∀ source ∈ sources, isIdentifier source.2.name = true
  sheets : ∀ source ∈ sources, source.2.sheetNames.Nodup
  names : ((sources.map Prod.snd).map Workbook.name).Nodup
  rendered : renderRun target sources = .ok all
  apart : (all.map Artifact.path).Pairwise Apart
  stands : ∀ a ∈ all, Stands after a
  grows : Grows before after
  unchanged : ∀ at_, (∀ a ∈ all, after.locate a.path ≠ .ok at_) → after.locate log ≠ .ok at_ →
    after.fileAt? at_ = before.fileAt? at_

section Started

variable {moment : Calendar.DateTime} {elapsed : Number.Double} {source code asset logs : String}
  {project : Option String} {before after : Workspace} {report : Report}

theorem renders_of_generate (wellFormed : WellFormed before.files)
    (distinct : SheetsDiffer before.files (.ofText source))
    (ran : generate (.startingAt moment elapsed) (.ofText source)
      { code := .ofText code, asset := .ofText asset, project } (.ofText logs) before =
        (.ok report, after))
    (finished : ∀ f ∈ report.files, ¬f.WriteFailed) :
    ∃ names all, ListsSchemaFiles before.files (.ofText source) names ∧
      Renders { code := .ofText code, asset := .ofText asset, project }
        (logFile (.startingAt moment elapsed) (.ofText logs))
        (workbooks before.files (names.map (Path.ofText source).child)) before.files after.files all := by
  have split : IsSplit (Destination.codeRoot { code := .ofText code, asset := .ofText asset, project }) :=
    isSplit_root code
  have product := isProduct_startedLog moment elapsed logs
  obtain ⟨names, all, middle, lists, rendered, leaves, grows, same⟩ :=
    leaves_of_generate split product wellFormed distinct ran finished
  have identifiers (listed : Path × Workbook) (member : listed ∈ workbooks before.files
      (names.map (Path.ofText source).child)) : isIdentifier listed.2.name = true :=
    (named_of_workbookAt? (mem_workbooks member).2).1
  have sheets (listed : Path × Workbook) (member : listed ∈ workbooks before.files
      (names.map (Path.ofText source).child)) : listed.2.sheetNames.Nodup := by
    obtain ⟨own, found⟩ := mem_workbooks member
    obtain ⟨name, among, same⟩ := List.mem_map.mp own
    obtain ⟨schema, noSlash, isFile⟩ := (lists.complete name).mp among
    rw [← same] at found
    exact distinct name schema noSlash isFile listed.2 (reading_of_workbookAt? found)
  have different := nodup_workbooks lists
  have apart : (all.map Artifact.path).Pairwise Apart := by
    refine (apart_runModules _ different ?_ ?_).sublist (renderRun_paths identifiers rendered)
    · intro w member
      obtain ⟨listed, own, rfl⟩ := List.mem_map.mp member
      exact sheets listed own
    · intro w member
      obtain ⟨listed, own, rfl⟩ := List.mem_map.mp member
      exact identifiers listed own
  refine ⟨names, all, lists, identifiers, sheets, different, rendered, apart, ?_, leaves.grows.trans grows, ?_⟩
  · intro a member
    apply (leaves.stands apart a member).kept grows
    intro at_ located
    apply same
    obtain ⟨m, -, named, path⟩ := module_of_rendered identifiers rendered member
    rw [← path] at located
    intro onLog
    exact module_apart_log named (slash_not_mem_stamp moment elapsed) (.ofText logs) after.files at_ at_
      (locate_kept grows.directories _ at_ located) onLog rfl
  · intro at_ elsewhere noLog
    rw [same at_ noLog]
    apply leaves.others
    intro a member located
    exact elsewhere a member (locate_kept grows.directories a.path at_ located)

/-- Generating modules, when no failed write ends the work on a file, leaves what is rendered from the
workbooks of the source directory and nothing else. -/
theorem generate_tree (wellFormed : WellFormed before.files)
    (distinct : SheetsDiffer before.files (.ofText source))
    (ran : generate (.startingAt moment elapsed) (.ofText source)
      { code := .ofText code, asset := .ofText asset, project } (.ofText logs) before =
        (.ok report, after))
    (finished : ∀ f ∈ report.files, ¬f.WriteFailed) :
    ∃ names all, ListsSchemaFiles before.files (.ofText source) names ∧
      GeneratedTree { code := .ofText code, asset := .ofText asset, project }
        (logFile (.startingAt moment elapsed) (.ofText logs))
        (workbooks before.files (names.map (Path.ofText source).child)) before.files after.files all := by
  have noSlash : '/' ∉ (Clock.startingAt moment elapsed).stamp.toList :=
    not_mem_stamp moment elapsed (by decide) (by decide)
  obtain ⟨names, all, lists, renders⟩ := renders_of_generate wellFormed distinct ran finished
  refine ⟨names, all, lists, renders.rendered, renders.stands, renders.apart, ?_, ?_⟩
  · intro at_ elsewhere noLog
    exact renders.grows.entry_of_same (renders.unchanged at_ elsewhere noLog)
  · intro listed member sheet among noSlashInside ⟨e, refused⟩ p own at_ located
    obtain ⟨m, named, rfl, elsewhere⟩ := spared_of_refused renders.identifiers renders.names renders.sheets
      renders.rendered member among noSlashInside refused p own
    apply renders.unchanged
    · intro a inside onArtifact
      exact elsewhere a inside after.files at_ at_ located onArtifact rfl
    · intro onLog
      exact module_apart_log named noSlash (.ofText logs) after.files at_ at_ located onLog rfl

end Started

/-- Where the modules and the asset of the workbook with a sheet of weapons lie. -/
def armoryFiles : List Location :=
  [["gen", "MasterData", "Type", "Generated", "ArmoryType.py"],
    ["gen", "MasterData", "Editor", "Exporter", "Generated", "ArmoryExporter.py"],
    ["gen", "MasterData", "VO", "Generated", "Armory", "WeaponVO.py"],
    ["gen", "MasterData", "DTO", "Generated", "Armory", "WeaponDTO.py"],
    ["gen", "MasterData", "DAO", "Generated", "Armory", "WeaponDAO.py"],
    ["gen", "MasterData", "Collection", "Generated", "Registry.py"],
    ["assets", "MasterData", "Armory", "Weapon.asset"]]

/-- A tree with some sheets in the workbook of its source directory, where these files are empty. -/
def treeOf (sheets : List TypedSheet) : FileTree where
  entries :=
    (armoryFiles.flatMap fun at_ => at_.dropLast.inits.tail).eraseDups.map (·, .directory) ++
    armoryFiles.map (·, .file (.bytes [])) ++
    [(["data"], .directory), (["data", "Armory.xlsx"], .file (.workbook sheets))]

/-- What the sheets of the workbook are decoded from. -/
def armorySheets : List TypedSheet :=
  [⟨"Weapon", [[.text "id", .text "kind"], [], [], [.text "int", .text "Kind"],
      [.text "7", .text "Sword"]]⟩,
    ⟨"2nd", [[], [], [.text "Axe\nSword"], [.text "Kind"]]⟩]

def armoryTree : FileTree := treeOf armorySheets

def armoryFile : Path := (Path.ofText "data").child "Armory.xlsx"

def armoryTarget : Destination := { code := .ofText "gen", asset := .ofText "assets", project := none }

theorem wellFormed_armoryTree : WellFormed armoryTree := ⟨by decide, by decide +kernel⟩

theorem reading_armory : SchemaFile.reading armoryTree armoryFile = .ok (.ok armory) := rfl

theorem schemaNames_armory :
    SchemaFile.schemaNames armoryTree (Path.ofText "data") ["data"] = ["Armory.xlsx"] := by
  rw [SchemaFile.schemaNames, List.mergeSort_of_pairwise]
  · rfl
  · decide

theorem scanning_armory : SchemaFile.scanning armoryTree (Path.ofText "data") = .ok [armoryFile] := by
  rw [SchemaFile.scanning_eq_ok]
  refine ⟨by decide, ["data"], rfl, rfl, ?_, ?_⟩
  · have names : SchemaFile.childNames ["data"] armoryTree.locations = ["Armory.xlsx"] := by decide
    rw [SchemaFile.Listable, names]
    intro name member
    rw [List.mem_singleton.mp member]
    exact ⟨true, rfl⟩
  · rw [schemaNames_armory]
    rfl

theorem workbooks_armory : workbooks armoryTree [armoryFile] = [(armoryFile, armory)] := by
  have own : workbookAt? armoryTree armoryFile = some armory := by
    rw [workbookAt?, reading_armory]
    rfl
  rw [workbooks, List.filterMap_cons_some (by rw [own]; rfl)]
  rfl

/-- The workbook can be rendered, wherever its modules go. -/
theorem exists_renderRun_armory (target : Destination) :
    ∃ all, renderRun target [(armoryFile, armory)] = .ok all := by
  have small {n : Int} (few : n.natAbs ≤ 1) : n.natAbs < 10 ^ Number.digitLimit :=
    Nat.lt_of_le_of_lt few (Nat.one_lt_pow (by decide) (by decide))
  have emitted : emittedEnums [kindEnumeration] [weaponDescription] = [kindEnumeration] := by
    decide
  have first := Number.integerText?_short 0 (small (by decide))
  have second := Number.integerText?_short 1 (small (by decide))
  obtain ⟨enums, known⟩ : ∃ enums, enumModule [kindEnumeration] = .ok enums := by
    simp only [enumModule, enumLines, kindEnumeration, List.mapM_cons, List.mapM_nil, first, second,
      Except.map, bind, Except.bind, pure, Except.pure]
    exact ⟨_, rfl⟩
  rw [renderRun, List.mapM_cons, List.mapM_nil, renderFile, accepted_armory, if_neg (by decide),
    collectEnums_armory, fileArtifacts, List.map_singleton, emitted, known]
  exact ⟨_, rfl⟩

theorem renderRun_armory : ∃ all, renderRun armoryTarget [(armoryFile, armory)] = .ok all :=
  exists_renderRun_armory armoryTarget

/-- Generating from the workbook: one of its sheets is accepted, the other one is refused. -/
theorem generate_armory (moment : Calendar.DateTime) (elapsed : Number.Double) :
    ∃ report after, generate (.startingAt moment elapsed) (.ofText "data") armoryTarget
      (.ofText "logs") { files := armoryTree } = (.ok report, after) ∧
        ∀ f ∈ report.files, ¬f.WriteFailed := by
  obtain ⟨names, paths, -, reads⟩ := listsSchemaFiles_of_scanning wellFormed_armoryTree scanning_armory
  obtain ⟨all, rendered⟩ := renderRun_armory
  have modules : ∀ m ∈ runModules [armory], armoryTree.isFile? (m.path armoryTarget) = .ok true := by
    rw [runModules, List.flatMap_singleton, fileModules, accepted_armory]
    decide +kernel
  have there : ∀ a ∈ all, armoryTree.isFile? a.path = .ok true := by
    intro a member
    obtain ⟨m, listed, -, path⟩ := module_of_rendered (by decide +kernel) rendered member
    rw [← path]
    exact modules m listed
  have opened : ∀ p ∈ [armoryFile], ∃ workbook, workbookAt? armoryTree p = some workbook := by
    intro p member
    rw [List.mem_singleton.mp member, workbookAt?, reading_armory]
    exact ⟨armory, rfl⟩
  have distinct : ∀ source ∈ workbooks armoryTree [armoryFile], source.2.sheetNames.Nodup := by
    rw [workbooks_armory]
    decide
  have fits : ∀ source ∈ workbooks armoryTree [armoryFile], ∀ sheet ∈ source.2.sheets,
      Fits (armoryTarget.recordPath source.2.name sheet.name) := by
    rw [workbooks_armory]
    decide +kernel
  rw [← workbooks_armory] at rendered
  have refusedFit : ∀ source ∈ workbooks armoryTree [armoryFile], ∀ sheet ∈ source.2.sheets, ∀ e,
      interpretIn source.2.name (collectEnums source.2) sheet = .error e →
        Fits (armoryTarget.recordPath source.2.name sheet.name) :=
    fun source member sheet among _ _ => fits source member sheet among
  have free : hasNull (logFile (.startingAt moment elapsed) (.ofText "logs")) = false := by
    rw [hasNull_startedLog]
    decide
  have reads (p : Path) (member : p ∈ [armoryFile]) (u : FileTree) (grows : Grows armoryTree u) :
      workbookAt? u p = workbookAt? armoryTree p := workbookAt?_congr (reads p member u grows)
  exact generate_of_isFile (isSplit_root "gen")
    (isProduct_startedLog moment elapsed "logs") free scanning_armory reads opened distinct
    rendered there refusedFit

/-- The workbook is the only one in its source directory. -/
theorem eq_armory {name : String} (schema : SchemaFile.isName name = true) (noSlash : '/' ∉ name.toList)
    (isFile : armoryTree.isFile? ((Path.ofText "data").child name) = .ok true) {w : Workbook}
    (read : SchemaFile.reading armoryTree ((Path.ofText "data").child name) = .ok (.ok w)) :
    w = armory := by
  have listed : name ∈ SchemaFile.schemaNames armoryTree (Path.ofText "data") ["data"] :=
    (SchemaFile.mem_schemaNames wellFormed_armoryTree rfl rfl).mpr ⟨schema, noSlash, isFile⟩
  rw [schemaNames_armory] at listed
  rw [List.mem_singleton.mp listed] at read
  exact Except.ok.inj (Except.ok.inj (read.symm.trans reading_armory))

theorem sheetsDiffer_armoryTree : SheetsDiffer armoryTree (.ofText "data") := by
  intro name schema noSlash isFile w read
  rw [eq_armory schema noSlash isFile read]
  decide

/-- A moment at which a run may start. -/
def dawn : Calendar.DateTime := ⟨⟨2024, 1, 1⟩, ⟨6, 0, 0, 0⟩, none⟩

/-- Generating from the workbook writes the modules anew. -/
theorem generate_tree_armory : ∃ report after,
    WellFormed armoryTree ∧ SheetsDiffer armoryTree (.ofText "data") ∧
    generate (.startingAt dawn .nan) (.ofText "data") armoryTarget (.ofText "logs")
      { files := armoryTree } = (.ok report, after) ∧ (∀ f ∈ report.files, ¬f.WriteFailed) ∧
    ∃ names all, ListsSchemaFiles armoryTree (.ofText "data") names ∧
      GeneratedTree armoryTarget (logFile (.startingAt dawn .nan) (.ofText "logs"))
        (workbooks armoryTree (names.map (Path.ofText "data").child)) armoryTree after.files all := by
  obtain ⟨report, after, ran, finished⟩ := generate_armory dawn .nan
  have tree := @generate_tree dawn .nan "data" "gen" "assets" "logs" none { files := armoryTree } after
    report wellFormed_armoryTree sheetsDiffer_armoryTree ran finished
  exact ⟨report, after, wellFormed_armoryTree, sheetsDiffer_armoryTree, ran, finished, tree⟩

/-- The workbook with an empty sheet before the others. -/
def armoryBehind (name : String) : Workbook :=
  { name := "Armory", sheets := ⟨name, [], List.Pairwise.nil⟩ :: armory.sheets }

def treeBehind (name : String) : FileTree := treeOf (⟨name, []⟩ :: armorySheets)

theorem populatedColumns_empty (name : String) (row : Int) :
    populatedColumns ⟨name, [], List.Pairwise.nil⟩ row = [] := by
  simp [populatedColumns, Sheet.row]

theorem interpretIn_empty (enums : EnumTable) (name : String) :
    ∃ e, interpretIn "Armory" enums ⟨name, [], List.Pairwise.nil⟩ = .error e := by
  cases interpreted : interpretIn "Armory" enums ⟨name, [], List.Pairwise.nil⟩ with
  | error e => exact ⟨e, rfl⟩
  | ok d =>
    have header := (accepts_of_interpretIn interpreted).1.header
    rw [populatedColumns_empty, populatedColumns_empty] at header
    cases header

theorem collectEnums_behind (name : String) :
    collectEnums (armoryBehind name) = [("Kind", kindEnumeration)] := by
  have nothing : addDeclarations [] ⟨name, [], List.Pairwise.nil⟩ = [] := by
    rw [addDeclarations, populatedColumns_empty]
    rfl
  rw [collectEnums, armoryBehind, List.foldl_cons, nothing]
  exact collectEnums_armory

theorem workbookAt?_behind (name : String) :
    workbookAt? (treeBehind name) armoryFile = some (armoryBehind name) := by
  have read : SchemaFile.reading (treeBehind name) armoryFile = .ok (.ok (armoryBehind name)) := rfl
  rw [workbookAt?, read]
  exact if_pos (by decide : isIdentifier "Armory" = true)

/-- When the name of the empty sheet is too long for its record nothing is written for the others. -/
theorem generateFile_behind {name : String} (noSlash : '/' ∉ name.toList)
    (noNull : '\x00' ∉ name.toList) (long : nameLimit < byteCount (name ++ "VO.py")) :
    ∃ result after, weaponDescription ∈ accepted (armoryBehind name) ∧
      generateFile (.startingAt dawn .nan) armoryTarget armoryFile { files := treeBehind name } =
        (.ok result, after) ∧ after.files = treeBehind name := by
  obtain ⟨e, refused⟩ := interpretIn_empty [("Kind", kindEnumeration)] name
  rw [← collectEnums_behind name] at refused
  have described : weaponDescription ∈ accepted (armoryBehind name) := by
    rw [mem_accepted, collectEnums_behind]
    exact ⟨weaponSheet, by simp [armoryBehind, armory], interpretIn_weaponSheet⟩
  have distinct : (armoryBehind name).sheetNames.Nodup := by
    have other : name ≠ "Weapon" ∧ name ≠ "2nd" := by
      constructor
      · rintro rfl
        revert long
        decide
      · rintro rfl
        revert long
        decide
    simp [armoryBehind, armory, Workbook.sheetNames, weaponSheet, kindSheet, other]
  have component : IsComponent (name ++ "VO.py") :=
    isComponent_ending noSlash (by decide) (by decide)
  have directory : (treeBehind name).locate ((armoryTarget.generated "VO").child "Armory") =
      .ok ["gen", "MasterData", "VO", "Generated", "Armory"] := rfl
  have located : (treeBehind name).locate (armoryTarget.recordPath "Armory" name) =
      .error .nameTooLong := by
    rw [Destination.recordPath,
      SchemaFile.locate_child directory rfl component, if_pos (.inr long)]
  have free : hasNull (armoryTarget.recordPath "Armory" name) = false := by
    rw [Destination.recordPath, child_eq_below _ component, hasNull, Path.below, List.any_append,
      Bool.or_eq_false_iff]
    refine ⟨by decide +kernel, ?_⟩
    simp [noNull]
  have unasked : (treeBehind name).exists? (armoryTarget.recordPath "Armory" name) =
      .error (.system .nameTooLong (armoryTarget.recordPath "Armory" name)) := by
    rw [exists?, holds, if_neg (by simp [free]), status, located]
  obtain ⟨result, after, ran, same, -⟩ := @generateFile_of_unasked (.startingAt dawn .nan)
    armoryTarget { files := treeBehind name } armoryFile _ _ _ _ _ _ (workbookAt?_behind name) distinct rfl
    refused unasked
  exact ⟨result, after, described, ran, same⟩

theorem byteCount_replicate (n : Nat) : byteCount (String.ofList (List.replicate n '1')) = n := by
  induction n with
  | zero => rfl
  | succ n inductionHypothesis =>
    rw [List.replicate_succ', String.ofList_append, byteCount_append, inductionHypothesis]
    rfl

/-- The accepted sheet of the workbook is not seen to, although its record could be written. -/
theorem not_generated_behind : ∃ name result after,
    weaponDescription ∈ accepted (armoryBehind name) ∧
    generateFile (.startingAt dawn .nan) armoryTarget armoryFile { files := treeBehind name } =
      (.ok result, after) ∧
    (treeBehind name).isFile? (armoryTarget.recordPath "Armory" "Weapon") = .ok true ∧
    after.files.read (armoryTarget.recordPath "Armory" "Weapon") = .ok (.bytes []) := by
  have other {c : Char} (n : Nat) (differ : c ≠ '1') :
      c ∉ (String.ofList (List.replicate n '1')).toList := by
    rw [String.toList_ofList]
    intro member
    exact differ (List.eq_of_mem_replicate member)
  obtain ⟨name, noSlash, noNull, long⟩ : ∃ name : String, '/' ∉ name.toList ∧ '\x00' ∉ name.toList ∧
      nameLimit < byteCount (name ++ "VO.py") := by
    refine ⟨_, other 252 (by decide), other 252 (by decide), ?_⟩
    rw [byteCount_append, byteCount_replicate]
    decide
  obtain ⟨result, after, described, ran, same⟩ := generateFile_behind noSlash noNull long
  refine ⟨name, result, after, described, ran, by rfl, ?_⟩
  rw [same]
  rfl

end Run

end TypedSheets

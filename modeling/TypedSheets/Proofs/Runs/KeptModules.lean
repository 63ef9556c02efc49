import TypedSheets.Proofs.Runs.EnumMeanings
import TypedSheets.Proofs.Runs.SecondRuns
import TypedSheets.Proofs.Schema.AppendedSheets

/-!
# Modules of an earlier run

A sheet that is refused keeps the modules that an earlier run has written for it, and they go on
importing the enumerations of that time. The enumeration module of the file is rendered anew as soon as
another sheet is accepted, and knows of no earlier run: of an imported name it says what the workbook
declares under it now. Only when no sheet is accepted does it stay, too.
-/

namespace TypedSheets

open TypedSheets.Emission TypedSheets.Grid TypedSheets.Number TypedSheets.Schema TypedSheets.Text FileTree

/-- Modules that stand in the one tree stand in the other. -/
def KeepsModules (target : Destination) (t u : FileTree) : Prop :=
  ∀ m : GeneratedModule, m.Named → ∀ content, Stands t ⟨m.path target, content⟩ →
    Stands u ⟨m.path target, content⟩

/-- The enumeration that an imported name stands for after a run over a workbook: the one it stood for,
when no sheet is accepted, and else the first that the workbook declares under the name. -/
def laterMeaning (w : Workbook) (e : Enumeration) : Option Enumeration :=
  if accepted w = [] then some e else (collectEnums w).lookup e.name

/-- Modules can be imported when the project, if there is one, has an identifier for a name. -/
def IsImportable (target : Destination) : Prop :=
  ∀ project, target.project = some project → isIdentifier project = true

/-- What the modules of a sheet that a later run refuses are worth after that run. -/
structure KeptModules (target : Destination) (d : Description) (w : Workbook) (after : FileTree) :
    Prop where
  /-- They stand as they were rendered when the sheet was accepted. -/
  stands : ∀ a ∈ sheetArtifacts target d, Stands after a
  /-- They import no enumerations but those of the description of that time. -/
  imports : IsImportable target → ∀ a ∈ sheetArtifacts target d, ∀ line ∈ textLines a.content, ∀ rest,
    line = "from " ++ typeModule target.baseNamespace d.schema ++ " import " ++ rest →
    ∃ names, rest = ", ".intercalate names ∧ ∀ name ∈ names, ∃ e ∈ d.enumerations, e.name = name
  /-- The default of a field is the first member that its enumeration had. -/
  defaults : IsImportable target → ∀ f ∈ d.fields, ∀ e, f.enumeration = some e →
    ∃ m, e.members.head? = some m ∧
      ∃ a ∈ sheetArtifacts target d, a.path = target.recordPath d.schema d.sheet ∧
        ∃ comment, "    " ++ (f.name ++ ": " ++ e.name ++ " = " ++ (e.name ++ "." ++ m.name) ++ comment) ∈
          textLines a.content
  /-- The enumeration module of the file gives each name its later meaning. -/
  meanings : ∃ content, Stands after ⟨target.typePath d.schema, content⟩ ∧
    ∀ e ∈ d.enumerations, Means content e.name (laterMeaning w e)

/-- Writing a schema file keeps all modules. -/
theorem keepsModules_of_write {target : Destination} {t u : FileTree} {p : Path} {name : String}
    {content : FileContent} (last : p.parts.getLast? = some name) (schema : SchemaFile.isName name = true)
    (written : t.write p content = .ok u) : KeepsModules target t u := by
  intro m named text stands
  obtain ⟨-, place, placed, kept, -, others⟩ := write_ok written
  obtain ⟨noNull, at_, located, found⟩ := read_ok stands
  have file : SchemaFile.isName (m.name ++ ".py") = false := by
    have whole := isName_append m.name "py" (by decide) (by decide)
    rwa [String.append_assoc] at whole
  have apart : Apart (m.path target) p := by
    apply apart_of_last (a := m.name ++ ".py") (b := name)
    · rintro rfl
      rw [schema] at file
      cases file
    · rw [GeneratedModule.path, GeneratedModule.file, Path.below, ← List.append_assoc, List.getLast?_concat]
    · exact (named.components _ (List.mem_append_right _ List.mem_cons_self)).down
    · exact last
    · rintro rfl
      revert schema
      decide
  apply read_eq noNull (locate_kept kept _ at_ located)
  rw [fileAt?, others at_ (apart t at_ place located placed)]
  exact found

namespace Run

section Later

variable {target : Destination} {log : Path} {sources : List (Path × Workbook)} {t u : FileTree}
  {all : List Artifact} {m : GeneratedModule} {content : String}

/-- A module that is not rendered stays. -/
theorem Renders.keeps (renders : Renders target log sources t u all) (apartLog : Apart (m.path target) log)
    (elsewhere : ∀ a ∈ all, Apart (m.path target) a.path) (stands : Stands t ⟨m.path target, content⟩) :
    Stands u ⟨m.path target, content⟩ := by
  apply stands.kept renders.grows
  intro at_ located
  have later := locate_kept renders.grows.directories _ at_ located
  apply renders.unchanged
  · intro a member onArtifact
    exact elsewhere a member u at_ at_ later onArtifact rfl
  · intro onLog
    exact apartLog u at_ at_ later onLog rfl

/-- The enumeration module of a workbook without accepted sheets is not rendered. -/
theorem typePath_apart (identifiers : ∀ source ∈ sources, isIdentifier source.2.name = true)
    (names : ((sources.map Prod.snd).map Workbook.name).Nodup) (rendered : renderRun target sources = .ok all)
    {source : Path × Workbook} (member : source ∈ sources) (nothing : accepted source.2 = []) :
    ∀ a ∈ all, Apart ((GeneratedModule.enumerations source.2.name).path target) a.path := by
  have named : (GeneratedModule.enumerations source.2.name).Named :=
    Yaml.slash_not_mem_of_isIdentifier _ (identifiers source member)
  obtain ⟨files, each, last⟩ := bind_eq_ok rendered
  cases last
  intro a listed
  rcases List.mem_append.mp listed with among | registry
  · obtain ⟨own, inside, file⟩ := List.mem_flatten.mp among
    obtain ⟨other, here, renderedOther⟩ := (mem_of_mapM each).2 own inside
    have differ : other.2.name ≠ source.2.name := by
      intro same
      have workbook := List.inj_on_of_nodup_map names (List.mem_map_of_mem here)
        (List.mem_map_of_mem member) same
      rw [renderFile, workbook, nothing] at renderedOther
      cases renderedOther
      cases file
    obtain ⟨n, module, path⟩ := List.mem_map.mp
      ((renderFile_paths (identifiers other here) renderedOther).subset (List.mem_map_of_mem file))
    have schema := (schema_of_fileModules module).1
    rw [← path]
    apply GeneratedModule.path_apart target _ named (named_fileModules (identifiers other here) module).1
    rintro rfl
    exact differ (Option.some.inj schema).symm
  · unfold renderRegistry at registry
    split at registry
    · cases registry
    · rw [List.mem_singleton.mp registry]
      rw [registryArtifact, registryPath_eq]
      exact GeneratedModule.path_apart target (by simp) named trivial

variable {before : FileTree} {source : Path × Workbook} {w : Workbook} {d : Description}

/-- The modules of a refused sheet stay. -/
theorem Renders.keeps_sheet (renders : Renders target log sources t u all)
    (kept : KeepsModules target before t)
    (apartLog : ∀ m : GeneratedModule, m.Named → Apart (m.path target) log)
    (member : source ∈ sources) {sheet : Sheet} (present : sheet ∈ source.2.sheets) {e : ShapeError}
    (refused : interpretIn source.2.name (collectEnums source.2) sheet = .error e)
    (noSlash : '/' ∉ sheet.name.toList) (schema : source.2.name = d.schema) (named : sheet.name = d.sheet)
    (stands : ∀ a ∈ sheetArtifacts target d, Stands before a) :
    ∀ a ∈ sheetArtifacts target d, Stands u a := by
  have spared := spared_of_refused renders.identifiers renders.names renders.sheets renders.rendered member
    present noSlash refused
  rw [schema, named] at spared
  intro a listed
  have path : a.path ∈ [target.recordPath d.schema d.sheet, target.containerPath d.schema d.sheet,
      target.accessorPath d.schema d.sheet] := List.mem_map_of_mem (f := Artifact.path) listed
  obtain ⟨m, isNamed, same, elsewhere⟩ := spared a.path path
  have standsBefore := stands a listed
  obtain ⟨_, content⟩ := a
  obtain rfl : _ = m.path target := same
  exact renders.keeps (apartLog m isNamed) elsewhere (kept m isNamed content standsBefore)

/-- The enumeration module says of the enumerations of an earlier description what they stand for now. -/
theorem Renders.means (renders : Renders target log sources t u all) (kept : KeepsModules target before t)
    (apartLog : ∀ m : GeneratedModule, m.Named → Apart (m.path target) log) (member : source ∈ sources)
    (schema : source.2.name = d.schema) (described : d ∈ accepted w) {lines : List SourceLine}
    (enums : enumModule (typeEnums w) = .ok lines)
    (stands : Stands before ⟨target.typePath d.schema, sourceText lines⟩) :
    ∃ content, Stands u ⟨target.typePath d.schema, content⟩ ∧
      ∀ e ∈ d.enumerations, Means content e.name (laterMeaning source.2 e) := by
  have identifier (e : Enumeration) (own : e ∈ d.enumerations) : isIdentifier e.name = true :=
    (Generated.mem_typeEnums described own).2.1
  have named : (GeneratedModule.enumerations d.schema).Named := by
    rw [← schema]
    exact Yaml.slash_not_mem_of_isIdentifier _ (renders.identifiers source member)
  by_cases nothing : accepted source.2 = []
  · have elsewhere := typePath_apart renders.identifiers renders.names renders.rendered member nothing
    rw [schema] at elsewhere
    rw [typePath_eq target named] at stands ⊢
    refine ⟨sourceText lines, renders.keeps (apartLog _ named) elsewhere (kept _ named _ stands), ?_⟩
    intro e own
    obtain ⟨f, inside, enumeration⟩ := List.mem_filterMap.mp own
    have found := (resolved_of_accepted described).2 f inside e enumeration
    rw [laterMeaning, if_pos nothing, ← found]
    exact means_of_enumModule enums (identifier e own)
  · obtain ⟨other, acceptedOther⟩ := List.exists_mem_of_ne_nil _ nothing
    obtain ⟨-, linesLater, enumsLater, typeModule⟩ :=
      rendered_of_accepted renders.rendered member acceptedOther
    rw [(named_of_accepted acceptedOther).1, schema] at typeModule
    refine ⟨sourceText linesLater, renders.stands _ typeModule, ?_⟩
    intro e own
    rw [laterMeaning, if_neg nothing]
    exact means_of_enumModule enumsLater (identifier e own)

end Later

section Defaults

variable {target : Destination} {w : Workbook} {d : Description}

/-- The record module of an accepted sheet starts an enumeration with its first member. -/
theorem default_of_accepted (importable : IsImportable target) (identifier : isIdentifier w.name = true)
    (described : d ∈ accepted w) {f : Field} (member : f ∈ d.fields) {e : Enumeration}
    (enumeration : f.enumeration = some e) : ∃ m, e.members.head? = some m ∧
      ∃ a ∈ sheetArtifacts target d, a.path = target.recordPath d.schema d.sheet ∧
        ∃ comment, "    " ++ (f.name ++ ": " ++ e.name ++ " = " ++ (e.name ++ "." ++ m.name) ++ comment) ∈
          textLines a.content := by
  have spelled := spelledSheet_of_accepted identifier described
  have found := (resolved_of_accepted described).2 f member e enumeration
  have declared : e.members ≠ [] := ((isEnumTable_collectEnums w).read _ (mem_of_lookup found)).members.1
  obtain ⟨m, rest, members⟩ := List.exists_cons_of_ne_nil declared
  have head : e.members.head? = some m := by rw [members, List.head?_cons]
  obtain ⟨comment, text⟩ : ∃ comment, fieldText f =
      f.name ++ ": " ++ e.name ++ " = " ++ (e.name ++ "." ++ m.name) ++ comment := by
    simp only [fieldText, annotation, defaultText, enumeration, head, Option.map_some, Option.getD_some]
    exact ⟨_, rfl⟩
  refine ⟨m, head, ⟨target.recordPath d.schema d.sheet, sourceText (recordModule target.baseNamespace d)⟩,
    List.mem_cons_self, rfl, comment, ?_⟩
  rw [textLines_sourceText (baseNamespace_eq importable).1 (legible_recordModule spelled)]
  apply List.mem_append_left
  rw [← text]
  refine List.mem_map.mpr ⟨.code 1 (fieldText f), ?_, rfl⟩
  rw [recordModule]
  apply List.mem_append_left
  apply List.mem_append_right
  exact List.mem_map_of_mem (f := fun f => SourceLine.code 1 (fieldText f)) member

end Defaults

section Started

variable {moment again : Calendar.DateTime} {elapsed taken : Number.Double}
  {source code asset logs : String} {project : Option String} {before first middle last : Workspace}
  {report second : Report} {name : String} {old new : Workbook} {d : Description} {sheet : Sheet}
  {e : ShapeError}

/-- A workbook that is opened is among those of the source directory. -/
theorem mem_workbooks_of_opened {t : FileTree} {directory : Path} {names : List String}
    (lists : ListsSchemaFiles t directory names) (schema : SchemaFile.isName name = true)
    (noSlash : '/' ∉ name.toList) {w : Workbook} (opened : workbookAt? t (directory.child name) = some w) :
    (directory.child name, w) ∈ workbooks t (names.map directory.child) := by
  obtain ⟨-, content, red, -⟩ := SchemaFile.reading_eq_ok (reading_of_workbookAt? opened)
  obtain ⟨noNull, at_, located, found⟩ := read_ok red
  have isFile : t.isFile? (directory.child name) = .ok true := by
    rw [isFile?_eq_true]
    exact ⟨noNull, at_, located, by rw [found]; simp⟩
  have listed : name ∈ names := (lists.complete name).mpr ⟨schema, noSlash, isFile⟩
  exact List.mem_filterMap.mpr ⟨_, List.mem_map_of_mem listed, by rw [opened]; rfl⟩

/-- A sheet that is accepted when a run renders a workbook, and refused when a later one renders another
version of it. -/
theorem keptModules_of_renders {target : Destination} {log logLater p : Path}
    {sources sourcesLater : List (Path × Workbook)} {t first middle last : FileTree}
    {all later : List Artifact} (renders : Renders target log sources t first all)
    (kept : KeepsModules target first middle)
    (rendersLater : Renders target logLater sourcesLater middle last later)
    (apartLog : ∀ m : GeneratedModule, m.Named → Apart (m.path target) logLater)
    (member : (p, old) ∈ sources) (memberLater : (p, new) ∈ sourcesLater) (same : new.name = old.name)
    (described : d ∈ accepted old) (present : sheet ∈ new.sheets) (named : sheet.name = d.sheet)
    (refused : interpretIn new.name (collectEnums new) sheet = .error e) :
    KeptModules target d new last := by
  have identifier := renders.identifiers _ member
  obtain ⟨own, sheetIdentifier⟩ := named_of_accepted described
  have schema : new.name = d.schema := same.trans own.symm
  obtain ⟨sheets, lines, enums, typeModule⟩ := rendered_of_accepted renders.rendered member described
  constructor
  · apply rendersLater.keeps_sheet kept apartLog memberLater present refused _ schema named
    · intro a listed
      exact renders.stands a (sheets a listed)
    · rw [named]
      exact Yaml.slash_not_mem_of_isIdentifier _ sheetIdentifier
  · intro importable a among line listed rest text
    exact described_of_line (spelledSheet_of_accepted identifier described) (baseNamespace_eq importable)
      among listed text
  · intro importable f inside e enumeration
    exact default_of_accepted importable identifier described inside enumeration
  · have meanings := rendersLater.means kept apartLog memberLater schema described enums
      (renders.stands _ typeModule)
    exact meanings

/-- The modules of a run lie apart from its log. -/
theorem modules_apart_log (target : Destination) (moment : Calendar.DateTime) (elapsed : Number.Double)
    (logs : Path) (m : GeneratedModule) (named : m.Named) :
    Apart (m.path target) (logFile (.startingAt moment elapsed) logs) :=
  module_apart_log named (slash_not_mem_stamp moment elapsed) logs

/-- Two runs that generate modules, of which no failed write ends the work on a file, with changes in
between that leave the modules alone. A sheet that the first run accepts and the second one refuses
keeps its modules, and each enumeration that they import has the meaning that the workbook gives it
at last. -/
theorem kept_modules (wellFormed : WellFormed before.files)
    (distinct : SheetsDiffer before.files (.ofText source))
    (ran : generate (.startingAt moment elapsed) (.ofText source)
      { code := .ofText code, asset := .ofText asset, project } (.ofText logs) before =
        (.ok report, first))
    (finished : ∀ f ∈ report.files, ¬f.WriteFailed)
    (kept : KeepsModules { code := .ofText code, asset := .ofText asset, project } first.files middle.files)
    (wellFormedLater : WellFormed middle.files) (distinctLater : SheetsDiffer middle.files (.ofText source))
    (ranAgain : generate (.startingAt again taken) (.ofText source)
      { code := .ofText code, asset := .ofText asset, project } (.ofText logs) middle =
        (.ok second, last))
    (finishedAgain : ∀ f ∈ second.files, ¬f.WriteFailed)
    (schema : SchemaFile.isName name = true) (noSlash : '/' ∉ name.toList)
    (opened : workbookAt? before.files ((Path.ofText source).child name) = some old)
    (reopened : workbookAt? middle.files ((Path.ofText source).child name) = some new)
    (described : d ∈ accepted old) (present : sheet ∈ new.sheets) (named : sheet.name = d.sheet)
    (refused : interpretIn new.name (collectEnums new) sheet = .error e) :
    KeptModules { code := .ofText code, asset := .ofText asset, project } d new last.files := by
  obtain ⟨names, all, lists, renders⟩ := renders_of_generate wellFormed distinct ran finished
  obtain ⟨namesLater, later, listsLater, rendersLater⟩ :=
    renders_of_generate wellFormedLater distinctLater ranAgain finishedAgain
  have same : new.name = old.name := by
    rw [(named_of_workbookAt? reopened).2, (named_of_workbookAt? opened).2]
  exact keptModules_of_renders renders kept rendersLater (modules_apart_log _ again taken (.ofText logs))
    (mem_workbooks_of_opened lists schema noSlash opened)
    (mem_workbooks_of_opened listsLater schema noSlash reopened) same described present named refused

end Started

/-- A sheet without enumerations. -/
def heroSheet : Sheet := { name := "Hero", cells := [⟨0, 0, "id"⟩, ⟨3, 0, "int"⟩] }

def heroDescription : Description where
  schema := "Armory"
  sheet := "Hero"
  key := { name := "id", column := 0, declaredType := "int", comment := "", enumeration := none,
           enumBody := "" }
  others := []
  rows := []

/-- The workbook when the sheet that declares the enumeration is gone, and another one is there. -/
def disarmed : Workbook := { name := "Armory", sheets := [weaponSheet, heroSheet] }

/-- What its sheets are decoded from. -/
def disarmedSheets : List TypedSheet :=
  [⟨"Weapon", [[.text "id", .text "kind"], [], [], [.text "int", .text "Kind"],
      [.text "7", .text "Sword"]]⟩,
    ⟨"Hero", [[.text "id"], [], [], [.text "int"]]⟩]

theorem row_heroSheet (r : Int) : heroSheet.row r = heroSheet.cells.filter fun c => c.row == r :=
  row_of_ordered (by decide) r

theorem collectEnums_disarmed : collectEnums disarmed = [] := by
  have weapon : populatedColumns weaponSheet enumRow = [] := by
    rw [populatedColumns, row_weaponSheet]
    decide
  have hero : populatedColumns heroSheet enumRow = [] := by
    rw [populatedColumns, row_heroSheet]
    decide
  simp only [collectEnums, disarmed, List.foldl, addDeclarations, weapon, hero]

/-- Without the declaration its other sheet is refused. -/
theorem interpretIn_disarmed : ∃ e, interpretIn "Armory" [] weaponSheet = .error e :=
  ⟨unknownKind, interpretIn_unknownKind⟩

theorem interpretIn_heroSheet : interpretIn "Armory" [] heroSheet = .ok heroDescription := by
  have names : populatedColumns heroSheet nameRow = [0] := by
    rw [populatedColumns, row_heroSheet]
    decide
  have types : populatedColumns heroSheet typeRow = [0] := by
    rw [populatedColumns, row_heroSheet]
    decide
  have indices : heroSheet.rowIndices = [0, 3] := by
    rw [Sheet.rowIndices]
    exact List.mergeSort_of_pairwise (by decide)
  have accepts : Accepts "Armory" [] heroSheet heroDescription := by
    refine ⟨by decide +kernel, ?_, ⟨[], ?_⟩, by decide, rfl, rfl, ?_⟩
    · rw [names, types]
      rfl
    · rw [names]
      rfl
    · rw [readRows, indices]
      decide +kernel
  rw [interpretIn, accepts.interpretSheet_eq]
  rfl

theorem accepted_disarmed : accepted disarmed = [heroDescription] := by
  obtain ⟨e, refused⟩ := interpretIn_disarmed
  rw [accepted, interpretSheets, collectEnums_disarmed, disarmed]
  simp only [List.map_cons, List.map_nil, refused, interpretIn_heroSheet]
  rfl

/-- The tree with the sheets in its workbook, and with empty files for the modules of the other sheet. -/
def hallOf (sheets : List TypedSheet) : FileTree where
  entries := (treeOf sheets).entries ++ ["VO", "DTO", "DAO"].map fun role =>
    (["gen", "MasterData", role, "Generated", "Armory", "Hero" ++ role ++ ".py"], .file (.bytes []))

theorem wellFormed_hallOf (sheets : List TypedSheet) : WellFormed (hallOf sheets) := by
  have locations : (hallOf sheets).locations = (hallOf []).locations := rfl
  constructor
  · rw [locations]
    decide +kernel
  · rw [locations]
    decide +kernel

theorem childNames_hallOf (sheets : List TypedSheet) :
    SchemaFile.childNames ["data"] (hallOf sheets).locations = ["Armory.xlsx"] := rfl

theorem schemaNames_hallOf (sheets : List TypedSheet) :
    SchemaFile.schemaNames (hallOf sheets) (Path.ofText "data") ["data"] = ["Armory.xlsx"] := by
  rw [SchemaFile.schemaNames, childNames_hallOf, List.mergeSort_of_pairwise]
  · rfl
  · exact ((List.pairwise_singleton _ _).filter _).filter _

theorem scanning_hallOf (sheets : List TypedSheet) :
    SchemaFile.scanning (hallOf sheets) (Path.ofText "data") = .ok [armoryFile] := by
  rw [SchemaFile.scanning_eq_ok]
  refine ⟨by decide, ["data"], rfl, rfl, ?_, ?_⟩
  · rw [SchemaFile.Listable, childNames_hallOf]
    intro name member
    rw [List.mem_singleton.mp member]
    exact ⟨true, rfl⟩
  · rw [schemaNames_hallOf]
    rfl

section Hall

variable {sheets : List TypedSheet} {w : Workbook} {u : FileTree}

/-- The workbook in trees that have grown from that one. -/
theorem reading_hallOf (grows : Grows (hallOf sheets) u) :
    SchemaFile.reading u armoryFile = SchemaFile.reading (hallOf sheets) armoryFile := by
  have listed : "Armory.xlsx" ∈ SchemaFile.schemaNames (hallOf sheets) (Path.ofText "data") ["data"] := by
    rw [schemaNames_hallOf]
    exact List.mem_cons_self
  exact SchemaFile.reading_grows (wellFormed_hallOf sheets) rfl rfl grows listed

theorem workbookAt?_hallOf (grows : Grows (hallOf sheets) u)
    (read : SchemaFile.reading (hallOf sheets) armoryFile = .ok (.ok w))
    (identifier : isIdentifier w.name = true) : workbookAt? u armoryFile = some w := by
  rw [workbookAt?, reading_hallOf grows, read]
  exact if_pos identifier

/-- It is the only one. -/
theorem sheetsDiffer_hallOf (grows : Grows (hallOf sheets) u)
    (read : SchemaFile.reading (hallOf sheets) armoryFile = .ok (.ok w)) (distinct : w.sheetNames.Nodup) :
    SheetsDiffer u (.ofText "data") := by
  have wellFormed := wellFormed_hallOf sheets
  have located : (hallOf sheets).locate (Path.ofText "data") = .ok ["data"] := rfl
  have directory : FileTree.entry? (hallOf sheets) ["data"] = some .directory := rfl
  intro name schema noSlash isFile own red
  have listed : name ∈ SchemaFile.schemaNames u (Path.ofText "data") ["data"] :=
    (SchemaFile.mem_schemaNames (wellFormed.grows grows) (locate_kept grows.directories _ _ located)
      (grows.directories _ directory)).mpr ⟨schema, noSlash, isFile⟩
  rw [SchemaFile.schemaNames_grows wellFormed located directory grows, schemaNames_hallOf] at listed
  rw [List.mem_singleton.mp listed] at red
  rw [Except.ok.inj (Except.ok.inj ((red.symm.trans (reading_hallOf grows)).trans read))]
  exact distinct

/-- Generating from the workbook when all its modules are there. -/
theorem generate_hallOf {all : List Artifact} (grows : Grows (hallOf sheets) u)
    (read : SchemaFile.reading (hallOf sheets) armoryFile = .ok (.ok w))
    (identifier : isIdentifier w.name = true) (distinct : w.sheetNames.Nodup)
    (rendered : renderRun armoryTarget [(armoryFile, w)] = .ok all)
    (modules : ∀ m ∈ runModules [w], (hallOf sheets).isFile? (m.path armoryTarget) = .ok true)
    (fits : ∀ sheet ∈ w.sheets, Fits (armoryTarget.recordPath w.name sheet.name)) :
    ∃ report after, generate (.startingAt dawn .nan) (.ofText "data") armoryTarget (.ofText "logs")
      { files := u } = (.ok report, after) ∧ ∀ f ∈ report.files, ¬f.WriteFailed := by
  have free : hasNull (logFile (.startingAt dawn .nan) (.ofText "logs")) = false := by
    rw [hasNull_startedLog]
    decide
  have opened := workbookAt?_hallOf grows read identifier
  have only : workbooks u [armoryFile] = [(armoryFile, w)] := by
    rw [workbooks, List.filterMap_cons_some (by rw [opened]; rfl)]
    rfl
  have scanned : SchemaFile.scanning u (.ofText "data") = .ok [armoryFile] :=
    SchemaFile.scanning_grows (wellFormed_hallOf sheets) grows (by decide) (scanning_hallOf sheets)
  refine generate_of_isFile (isSplit_root "gen")
    (isProduct_startedLog dawn .nan "logs") free scanned ?_ ?_ ?_ (only ▸ rendered) ?_ ?_
  · intro p member later further
    rw [List.mem_singleton.mp member, opened]
    exact workbookAt?_hallOf (grows.trans further) read identifier
  · intro p member
    rw [List.mem_singleton.mp member]
    exact ⟨w, opened⟩
  · rw [only]
    intro source member
    rw [List.mem_singleton.mp member]
    exact distinct
  · intro a member
    obtain ⟨m, listed, -, path⟩ := module_of_rendered
      (by intro source member; rw [List.mem_singleton.mp member]; exact identifier) rendered member
    rw [← path]
    exact grows.isFile (modules m listed)
  · rw [only]
    intro source member sheet among _ _
    rw [List.mem_singleton.mp member] at among ⊢
    exact fits sheet among

/-- Writing the schema file of the hall keeps all modules. -/
theorem keepsModules_armoryFile {target : Destination} {t : FileTree} {content : FileContent}
    (written : t.write armoryFile content = .ok u) : KeepsModules target t u := by
  have last : armoryFile.parts.getLast? = some "Armory.xlsx" := rfl
  exact keepsModules_of_write last (by decide) written

end Hall

theorem reading_armorySheets : SchemaFile.reading (hallOf armorySheets) armoryFile = .ok (.ok armory) := rfl

theorem reading_disarmedSheets :
    SchemaFile.reading (hallOf disarmedSheets) armoryFile = .ok (.ok disarmed) := rfl

theorem renderRun_disarmed : ∃ all, renderRun armoryTarget [(armoryFile, disarmed)] = .ok all := by
  rw [renderRun, List.mapM_cons, List.mapM_nil, renderFile, accepted_disarmed, if_neg (by decide),
    collectEnums_disarmed, fileArtifacts]
  exact ⟨_, rfl⟩

/-- Generating, taking the declaration out of the workbook, and generating again. -/
theorem generate_disarmed : ∃ report second first middle last,
    generate (.startingAt dawn .nan) (.ofText "data") armoryTarget (.ofText "logs")
      { files := hallOf armorySheets } = (.ok report, first) ∧ (∀ f ∈ report.files, ¬f.WriteFailed) ∧
    first.files.write armoryFile (.workbook disarmedSheets) = .ok middle ∧
    Grows (hallOf disarmedSheets) middle ∧
    generate (.startingAt dawn .nan) (.ofText "data") armoryTarget (.ofText "logs")
      { files := middle } = (.ok second, last) ∧ ∀ f ∈ second.files, ¬f.WriteFailed := by
  have begun : Grows (hallOf armorySheets) (hallOf armorySheets) := .refl _
  obtain ⟨_, rendered⟩ := renderRun_armory
  obtain ⟨report, first, ran, finished⟩ := generate_hallOf begun reading_armorySheets (by decide) (by decide)
    rendered (by rw [runModules, List.flatMap_singleton, fileModules, accepted_armory]; decide +kernel)
    (by decide +kernel)
  obtain ⟨_, _, -, renders⟩ := renders_of_generate (wellFormed_hallOf armorySheets)
    (sheetsDiffer_hallOf begun reading_armorySheets (by decide)) ran finished
  obtain ⟨exchanged, middle, written, writtenLater, grows⟩ :=
    renders.grows.write_over (p := armoryFile) rfl (.workbook disarmedSheets)
  obtain rfl : exchanged = hallOf disarmedSheets := (Except.ok.inj written).symm
  obtain ⟨_, renderedLater⟩ := renderRun_disarmed
  obtain ⟨second, last, ranAgain, finishedAgain⟩ := generate_hallOf grows reading_disarmedSheets (by decide)
    (by decide) renderedLater
    (by rw [runModules, List.flatMap_singleton, fileModules, accepted_disarmed]; decide +kernel)
    (by decide +kernel)
  exact ⟨report, second, first, middle, last, ran, finished, writtenLater, grows, ranAgain, finishedAgain⟩

/-- What the two runs see of the schema file. -/
theorem seen_disarmed {t : FileTree} (grows : Grows (hallOf disarmedSheets) t) :
    SheetsDiffer (hallOf armorySheets) (.ofText "data") ∧ SheetsDiffer t (.ofText "data") ∧
      workbookAt? (hallOf armorySheets) armoryFile = some armory ∧
      workbookAt? t armoryFile = some disarmed ∧ weaponDescription ∈ accepted armory ∧
      ∃ e, interpretIn disarmed.name (collectEnums disarmed) weaponSheet = .error e := by
  have begun : Grows (hallOf armorySheets) (hallOf armorySheets) := .refl _
  refine ⟨sheetsDiffer_hallOf begun reading_armorySheets (by decide),
    sheetsDiffer_hallOf grows reading_disarmedSheets (by decide),
    workbookAt?_hallOf begun reading_armorySheets (by decide),
    workbookAt?_hallOf grows reading_disarmedSheets (by decide), ?_, ?_⟩
  · rw [accepted_armory]
    exact List.mem_cons_self
  · rw [collectEnums_disarmed]
    exact interpretIn_disarmed

/-- What the modules of the sheet import is not declared any more. -/
theorem kept_modules_disarmed : ∃ report second first middle last e,
    WellFormed (hallOf armorySheets) ∧ SheetsDiffer (hallOf armorySheets) (.ofText "data") ∧
    generate (.startingAt dawn .nan) (.ofText "data") armoryTarget (.ofText "logs")
      { files := hallOf armorySheets } = (.ok report, first) ∧ (∀ f ∈ report.files, ¬f.WriteFailed) ∧
    KeepsModules armoryTarget first.files middle ∧
    WellFormed middle ∧ SheetsDiffer middle (.ofText "data") ∧
    generate (.startingAt dawn .nan) (.ofText "data") armoryTarget (.ofText "logs")
      { files := middle } = (.ok second, last) ∧ (∀ f ∈ second.files, ¬f.WriteFailed) ∧
    workbookAt? (hallOf armorySheets) armoryFile = some armory ∧
    workbookAt? middle armoryFile = some disarmed ∧ weaponDescription ∈ accepted armory ∧
    interpretIn disarmed.name (collectEnums disarmed) weaponSheet = .error e ∧
    KeptModules armoryTarget weaponDescription disarmed last.files := by
  obtain ⟨report, second, first, middle, last, ran, finished, written, grows, ranAgain, finishedAgain⟩ :=
    generate_disarmed
  obtain ⟨distinct, distinctLater, opened, reopened, described, e, refused⟩ := seen_disarmed grows
  have wellFormed := wellFormed_hallOf armorySheets
  have wellFormedLater := (wellFormed_hallOf disarmedSheets).grows grows
  have kept : KeepsModules armoryTarget first.files middle := keepsModules_armoryFile written
  have modules := @kept_modules dawn dawn .nan .nan "data" "gen" "assets" "logs" none
    { files := hallOf armorySheets } first { files := middle } last report second "Armory.xlsx" armory
    disarmed weaponDescription weaponSheet e wellFormed distinct ran finished kept wellFormedLater
    distinctLater ranAgain finishedAgain (by decide) (by decide) opened reopened described
    List.mem_cons_self rfl refused
  exact ⟨report, second, first, middle, last, e, wellFormed, distinct, ran, finished, kept,
    wellFormedLater, distinctLater, ranAgain, finishedAgain, opened, reopened, described, refused, modules⟩

/-- The record module of the sheet stays and imports the enumeration, but the enumeration module of the
file, which the other sheet needs, does not define it. -/
theorem not_known_disarmed : ∃ report second first middle last e content,
    generate (.startingAt dawn .nan) (.ofText "data") armoryTarget (.ofText "logs")
      { files := hallOf armorySheets } = (.ok report, first) ∧ (∀ f ∈ report.files, ¬f.WriteFailed) ∧
    first.files.write armoryFile (.workbook disarmedSheets) = .ok middle ∧
    generate (.startingAt dawn .nan) (.ofText "data") armoryTarget (.ofText "logs")
      { files := middle } = (.ok second, last) ∧ (∀ f ∈ second.files, ¬f.WriteFailed) ∧
    SheetsDiffer (hallOf armorySheets) (.ofText "data") ∧ SheetsDiffer middle (.ofText "data") ∧
    workbookAt? (hallOf armorySheets) armoryFile = some armory ∧
    workbookAt? middle armoryFile = some disarmed ∧ weaponDescription ∈ accepted armory ∧
    weaponSheet ∈ disarmed.sheets ∧
    interpretIn disarmed.name (collectEnums disarmed) weaponSheet = .error e ∧
    Stands last.files ⟨armoryTarget.recordPath "Armory" "Weapon",
      sourceText (recordModule armoryTarget.baseNamespace weaponDescription)⟩ ∧
    "from MasterData.Type.Generated.ArmoryType import Kind" ∈
      textLines (sourceText (recordModule armoryTarget.baseNamespace weaponDescription)) ∧
    Stands last.files ⟨armoryTarget.typePath "Armory", content⟩ ∧
    ∀ line ∈ textLines content, definesClass "Kind" line = false := by
  obtain ⟨report, second, first, middle, last, ran, finished, written, grows, ranAgain, finishedAgain⟩ :=
    generate_disarmed
  obtain ⟨distinct, distinctLater, opened, reopened, described, e, refused⟩ := seen_disarmed grows
  have kept : KeepsModules armoryTarget first.files middle := keepsModules_armoryFile written
  obtain ⟨_, _, lists, renders⟩ := @renders_of_generate dawn .nan "data" "gen" "assets" "logs" none
    { files := hallOf armorySheets } first report (wellFormed_hallOf armorySheets) distinct ran finished
  obtain ⟨_, _, listsLater, rendersLater⟩ := @renders_of_generate dawn .nan "data" "gen" "assets" "logs" none
    { files := middle } last second ((wellFormed_hallOf disarmedSheets).grows grows) distinctLater ranAgain
    finishedAgain
  have modules : KeptModules armoryTarget weaponDescription disarmed last.files :=
    keptModules_of_renders renders kept rendersLater
      (modules_apart_log armoryTarget dawn .nan (.ofText "logs"))
      (mem_workbooks_of_opened lists (by decide) (by decide) opened)
      (mem_workbooks_of_opened listsLater (by decide) (by decide) reopened) rfl described
      List.mem_cons_self rfl refused
  obtain ⟨content, stands, meanings⟩ := modules.meanings
  have forgotten : laterMeaning disarmed kindEnumeration = none := by
    rw [laterMeaning, accepted_disarmed, if_neg (by simp), collectEnums_disarmed]
    rfl
  have undefined := (meanings kindEnumeration (by decide)).undefined forgotten
  have imports : "from MasterData.Type.Generated.ArmoryType import Kind" ∈
      textLines (sourceText (recordModule armoryTarget.baseNamespace weaponDescription)) := by
    have spelled := spelledSheet_of_accepted (by decide) described
    rw [textLines_sourceText (by decide) (legible_recordModule spelled)]
    decide
  exact ⟨report, second, first, middle, last, e, content, ran, finished, written, ranAgain, finishedAgain,
    distinct, distinctLater, opened, reopened, described, List.mem_cons_self, refused,
    modules.stands _ List.mem_cons_self, imports, stands, undefined⟩

end Run

end TypedSheets

import TypedSheets.Generated.RecordModule
import TypedSheets.Registry
import TypedSheets.Run
import TypedSheets.SchemaExporter

/-!
# Loaded packages

The modules that a run has generated form a package. Loading its registry loads the
accessor module of each sheet, which loads the container module, which loads the record
module. What a sheet loads to are values of this library: a record type, a container type
and an accessor type. An import finds a module by the normal form of its name, so a sheet
whose name is in another form is found only if another sheet has that name.
-/

namespace TypedSheets.Generated

open TypedSheets.Emission TypedSheets.Schema TypedSheets.Text

/-- What a run has generated for a schema file: the enumerations of its enumeration module
and the sheets that have modules. -/
structure SchemaModules where
  source : Path
  schema : String
  enumerations : List Enumeration
  sheets : List Description

/-- What the modules of a run are generated for. -/
structure Package where
  target : Destination
  schemas : List SchemaModules

/-- What the modules of a sheet define. -/
structure LoadedSheet where
  schema : String
  sheet : String
  record : RecordType
  enumerations : List Enumeration

/-- The container type of a loaded sheet. -/
def LoadedSheet.containerType (s : LoadedSheet) : ContainerType :=
  { name := containerName s.sheet, record := some s.record }

/-- The accessor type of a loaded sheet, which reads the asset below an asset root. -/
def LoadedSheet.accessorType (s : LoadedSheet) (root : Path) (identity : Nat) : AccessorType :=
  { identity, className := accessorName s.sheet, name := s.sheet,
    assetPath := (assetPath root s.schema s.sheet).text, container := s.containerType }

/-- The enumeration of the key of a sheet under its name. -/
def keyEnumeration? (d : Description) : Option String :=
  d.key.enumeration.map fun e => normalForm e.name

/-- A base class that the enumeration of the key hides: it is asked for an entry that it does
not have. -/
def hiddenBase? (base : String) (d : Description) (parts : List String) : Option LoadError :=
  if keyEnumeration? d = some base then
    some (.noEntry ("(" ++ ", ".intercalate (parts ++ ["<enum '" ++ base ++ "'>"]) ++ ")"))
  else none

/-- Checks the container and the accessor of a sheet. -/
def checkSheetClasses (base : String) (d : Description) : Except LoadError Unit := do
  let record := recordName d.sheet
  let container := containerName d.sheet
  let recordClass := shownClass (sheetModule base "VO" d.schema record) record
  let containerClass := shownClass (sheetModule base "DTO" d.schema container) container
  if let some e := hiddenBase? "MasterDataContainer" d [recordClass] then throw e
  if isPrivate record then throw (.undefinedName (nameWithin container record))
  if let some e := hiddenBase? "MasterDataAccessor" d [containerClass, recordClass] then throw e

/-- Loads the modules of a sheet. -/
def loadSheet (base : String) (m : SchemaModules) (d : Description) :
    Except LoadError LoadedSheet := do
  if keyEnumeration? d = some unboundName then
    throw (bindsUnbound (accessorName d.sheet ++ ".py") 4)
  let defined := loadEnumModule m.schema m.enumerations
  if d.key.enumeration.isSome then
    let _ ← defined
  let record ← loadRecordModule base defined d
  checkSheetClasses base d
  let enumerations := match defined with
    | .ok enums => (enumImports d).filterMap (importEnumeration? enums)
    | .error _ => []
  pure { schema := d.schema, sheet := d.sheet, record, enumerations }

namespace Package

variable (p : Package)

/-- The sheets with modules, in the order of the registry. -/
def entries : List RegistryEntry :=
  p.schemas.flatMap fun m => m.sheets.map fun d => ⟨d.schema, d.sheet⟩

/-- The dotted name of the registry module. -/
def registryModule : String := p.target.baseNamespace ++ ".Collection.Generated.Registry"

/-- A text without the spaces around it. -/
def trimSpaces (text : String) : String :=
  let trimmed := (text.toList.dropWhile (· == ' ')).reverse.dropWhile (· == ' ')
  String.ofList trimmed.reverse

/-- Checks that the project can be imported: it is a directory that no standard module hides,
and it can stand in an import line. -/
def checkProject : Except LoadError Unit :=
  let project := p.target.project.getD ""
  let base := p.target.baseNamespace
  let first := String.ofList (base.toList.takeWhile (· != '.'))
  let bare := trimSpaces project
  if first = "" then .error (.relativeName p.registryModule)
  else if standardPackages.contains project then .error (.noModule base)
  else if standardModules.contains project then .error (.noPackage base project)
  else if p.entries.isEmpty || project.toList.any fun c => c == '.' || c == '/' then
    .error (.noModule first)
  else if project = "" then .ok ()
  else
    match projectFault? bare with
    | some cause => .error (.malformed cause "Registry.py" 4)
    | none => if normalForm bare = project then .ok () else .error (.noModule (normalForm bare))

/-- The sheet whose accessor an import of the registry gives. -/
def importSheet (e : RegistryEntry) : Except LoadError LoadedSheet :=
  let base := p.target.baseNamespace
  let schema := normalForm e.schema
  let sheet := normalForm e.sheet
  match p.schemas.reverse.find? fun m => m.schema == schema with
  | none => .error (.noModule (base ++ ".DAO.Generated." ++ schema))
  | some m =>
    match m.sheets.reverse.find? fun d => d.sheet == sheet with
    | none => .error (.noModule (sheetModule base "DAO" schema (accessorName sheet)))
    | some d => loadSheet base m d

/-- The sheets that the imports of the registry give, each under the name that is bound. -/
def importSheets : List RegistryEntry → Except LoadError (List (String × LoadedSheet))
  | [] => .ok []
  | e :: rest => do
    let sheet ← p.importSheet e
    let others ← importSheets rest
    pure ((normalForm (registryImport p.entries e).bound, sheet) :: others)

/-- The accessor types that the registry lists: each name stands for what was bound to it last. -/
def accessorTypes (imports : List (String × LoadedSheet)) : List LoadedSheet :=
  imports.filterMap fun entry => imports.reverse.lookup entry.1

/-- The place of a sheet among others, which tells accessor types apart. -/
def placeOf (sheets : List LoadedSheet) (s : LoadedSheet) : Nat :=
  sheets.findIdx fun other => other.schema == s.schema && other.sheet == s.sheet

/-- Loads the registry: the sheets in its order, and a registry with a new accessor for each. -/
def load : Except LoadError (List LoadedSheet × Registry) := do
  p.checkProject
  let sheets := accessorTypes (← p.importSheets p.entries)
  let types := sheets.map fun s => s.accessorType p.target.assetRoot (placeOf sheets s)
  let registry ← (({} : Registry).registerAll types).mapError .failure
  pure (sheets, registry)

/-- Loads the exporter of a schema file. -/
def loadExporter (sheets : List LoadedSheet) (schema : String) :
    Except LoadError SchemaExporter :=
  let place := p.target.baseNamespace ++ ".Editor.Exporter.Generated."
  match p.schemas.find? fun m => m.schema == schema && !m.sheets.isEmpty with
  | none =>
    .error (.noModule (place ++
      String.ofList ((schema ++ "Exporter").toList.takeWhile (· != '.'))))
  | some m => .ok {
      source := m.source
      assetRoot := p.target.assetRoot
      schema
      containers := (sheets.filter fun s => s.schema == schema).map fun s =>
        (s.sheet, s.containerType) }

end Package

end TypedSheets.Generated

namespace TypedSheets

open TypedSheets.Schema

/-- The sheets of a schema file that an outcome counts as succeeded. -/
def FileOutcome.accepted (f : FileOutcome) (workbook : Grid.Workbook) : List Description :=
  f.sheets.filterMap fun o =>
    match o.succeeded, Run.verdict? workbook o.sheet with
    | true, some (.ok d) => some d
    | _, _ => none

/-- The package of a run, whose schema files are read again for it. -/
def Report.package (r : Report) (target : Emission.Destination) : Job Generated.Package := do
  let schemas ← r.files.mapM fun f => do
    match ← SchemaFile.read f.path with
    | .ok workbook =>
      let sheets := f.accepted workbook
      let declared := (collectEnums workbook).map Prod.snd
      let enumerations := Emission.emittedEnums declared sheets
      pure { source := f.path, schema := workbook.name, enumerations, sheets }
    | .error _ => pure { source := f.path, schema := f.path.stem, enumerations := [], sheets := [] }
  pure { target, schemas }

end TypedSheets

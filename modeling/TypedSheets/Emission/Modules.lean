import TypedSheets.Emission.Layout
import TypedSheets.Emission.SourceLine
import TypedSheets.Json.Quoted
import TypedSheets.Schema.Description
import TypedSheets.Schema.Primitive
import TypedSheets.Text.Blank

/-!
# Generated modules

From the descriptions of a schema file come six kinds of modules: the enumerations
of the file, a record, a container and an accessor per sheet, an exporter per file,
and one registry over all files. Rendering is a function of the descriptions and
the destination alone. Texts that become literals are quoted, comments are
collapsed to one line, and an import names a module that the same run renders.
-/

namespace TypedSheets.Emission

open TypedSheets.Number TypedSheets.Schema TypedSheets.Text

/-- A file to write. -/
structure Artifact where
  path : Path
  content : String
  deriving Repr, DecidableEq

/-- The package that the base types of generated classes come from. -/
def runtimePackage : String := "masterdata.runtime"

def recordName (sheet : String) : String := sheet ++ "VO"
def containerName (sheet : String) : String := sheet ++ "DTO"
def accessorName (sheet : String) : String := sheet ++ "DAO"

/-- The dotted name of the enumeration module of a schema. -/
def typeModule (base schema : String) : String := base ++ ".Type.Generated." ++ schema ++ "Type"

/-- The dotted name of a module of a sheet by role and class. -/
def sheetModule (base role schema name : String) : String :=
  base ++ "." ++ role ++ ".Generated." ++ schema ++ "." ++ name

/-- The type annotation of a field. -/
def annotation (f : Field) : String :=
  match f.enumeration with
  | some e => e.name
  | none => ((Primitive.ofName? f.declaredType).map Primitive.annotation).getD ""

/-- The default of a field as it is written: the first member of an enumeration. -/
def defaultText (f : Field) : String :=
  match f.enumeration with
  | some e => e.name ++ "." ++ ((e.members.head?.map EnumMember.name).getD "")
  | none => ((Primitive.ofName? f.declaredType).map Primitive.defaultText).getD ""

/-- The line of a field in a record. -/
def fieldText (f : Field) : String :=
  let comment := collapseBlanks f.comment
  f.name ++ ": " ++ annotation f ++ " = " ++ defaultText f ++
    (if comment = "" then "" else "  # " ++ comment)

/-- The names of a list, each where it first occurs. -/
def firstOccurrences : List String → List String
  | [] => []
  | name :: rest => name :: (firstOccurrences rest).filter (· != name)

/-- The enumerations that a record imports, each once, in column order. -/
def enumImports (d : Description) : List String :=
  firstOccurrences (d.enumerations.map Enumeration.name)

/-- The import of the key's enumeration, when the key is one. -/
def keyImport (base : String) (d : Description) : List SourceLine :=
  match d.key.enumeration with
  | some e => [importOne (typeModule base d.schema) e.name]
  | none => []

/-- The class of an enumeration behind two empty lines. -/
def enumLines (e : Enumeration) : Except OversizedInteger (List SourceLine) := do
  let members ← e.members.mapM fun m =>
    (integerText? m.value).map fun digits => SourceLine.code 1 (m.name ++ " = " ++ digits)
  pure (.blank :: .blank :: .classHeader e.name (some "IntEnum") :: members)

/-- The enumeration module. -/
def enumModule (enums : List Enumeration) : Except OversizedInteger (List SourceLine) := do
  let classes ← enums.mapM enumLines
  pure ([banner, importOne "enum" "IntEnum", .blank, .code 0 "__all__ = ["] ++
    enums.map (fun e => SourceLine.code 1 (Json.quoted e.name ++ ",")) ++ [SourceLine.code 0 "]"] ++
    classes.flatten)

/-- The enumerations of a file: the declared ones first, then those that only the
descriptions carry; one definition for each name. -/
def emittedEnums (declared : List Enumeration) (descriptions : List Description) :
    List Enumeration :=
  (descriptions.flatMap Description.enumerations).foldl (fun enums e =>
    if enums.any fun other => other.name == e.name then enums else enums ++ [e]) declared

/-- The record module of a sheet. -/
def recordModule (base : String) (d : Description) : List SourceLine :=
  let imports : List SourceLine := match enumImports d with
    | [] => []
    | names => [.blank, .importFrom (typeModule base d.schema) (names.map fun name => { name })]
  [banner, importOne "__future__" "annotations", .blank, importOne "dataclasses" "dataclass"] ++
    imports ++ [SourceLine.blank, .blank, .code 0 "@dataclass", .classHeader (recordName d.sheet) none] ++
    d.fields.map (fun f => SourceLine.code 1 (fieldText f)) ++
    [SourceLine.blank, .code 1 ("def get_key(self) -> " ++ annotation d.key ++ ":"),
      .code 2 ("return self." ++ d.key.name)]

/-- The container module of a sheet. -/
def containerModule (base : String) (d : Description) : List SourceLine :=
  let record := recordName d.sheet
  [banner, importOne runtimePackage "MasterDataContainer", .blank] ++ keyImport base d ++
    [importOne (sheetModule base "VO" d.schema record) record, .blank, .blank,
      .classHeader (containerName d.sheet)
        (some ("MasterDataContainer[" ++ record ++ ", " ++ annotation d.key ++ "]")),
      .code 1 ("record_type = " ++ record)]

/-- The accessor module of a sheet; it embeds the path of the sheet's asset. -/
def accessorModule (base : String) (asset : Path) (d : Description) : List SourceLine :=
  let record := recordName d.sheet
  let container := containerName d.sheet
  [banner, importOne runtimePackage "MasterDataAccessor", .blank] ++ keyImport base d ++
    [importOne (sheetModule base "DTO" d.schema container) container,
      importOne (sheetModule base "VO" d.schema record) record, .blank, .blank,
      .classHeader (accessorName d.sheet) (some ("MasterDataAccessor[" ++ container ++ ", " ++
        record ++ ", " ++ annotation d.key ++ "]")),
      .code 1 ("container_type = " ++ container), .blank,
      .code 1 "def get_asset_path(self) -> str:",
      .code 2 ("return " ++ Json.quoted asset.text), .blank,
      .code 1 "def get_name(self) -> str:",
      .code 2 ("return " ++ Json.quoted d.sheet)]

/-- The exporter module of a schema file; it embeds the source and the asset root. -/
def exporterModule (base schema : String) (source assetRoot : Path) (sheets : List String) :
    List SourceLine :=
  [banner, importOne runtimePackage "MasterDataExporter", .blank] ++
    sheets.map (fun sheet =>
      importOne (sheetModule base "DTO" schema (containerName sheet)) (containerName sheet)) ++
    [SourceLine.blank, .blank, .classHeader (schema ++ "Exporter") (some "MasterDataExporter"),
      .code 1 ("source_path = " ++ Json.quoted source.text),
      .code 1 ("asset_root = " ++ Json.quoted assetRoot.text),
      .code 1 ("schema_name = " ++ Json.quoted schema),
      .code 1 "containers = \x7b"] ++
    sheets.map (fun sheet => SourceLine.code 2 (Json.quoted sheet ++ ": " ++ containerName sheet ++ ",")) ++
    [SourceLine.code 1 "\x7d"]

/-- One sheet of the registry. -/
structure RegistryEntry where
  schema : String
  sheet : String
  deriving Repr, DecidableEq

/-- A sheet whose name occurs more than once is imported under a name with its schema. -/
def registryImport (entries : List RegistryEntry) (e : RegistryEntry) : ImportedName :=
  if 1 < entries.countP fun other => other.sheet == e.sheet then
    { name := accessorName e.sheet, renamed := some (e.schema ++ accessorName e.sheet) }
  else { name := accessorName e.sheet }

/-- The registry module. -/
def registryModule (base : String) (entries : List RegistryEntry) : List SourceLine :=
  [banner, importOne runtimePackage "MasterDataRegistry", .blank] ++
    entries.map (fun e => SourceLine.importFrom (sheetModule base "DAO" e.schema (accessorName e.sheet))
      [registryImport entries e]) ++
    [SourceLine.blank, .code 0 "ACCESSOR_TYPES = ("] ++
    entries.map (fun e => SourceLine.code 1 ((registryImport entries e).bound ++ ",")) ++
    [SourceLine.code 0 ")", .blank, .blank, .code 0 "def create_registry() -> MasterDataRegistry:",
      .code 1 ("return MasterDataRegistry(accessor_type() " ++
        "for accessor_type in ACCESSOR_TYPES)")]

/-- The record, container and accessor of a sheet. -/
def sheetArtifacts (target : Destination) (d : Description) : List Artifact :=
  let base := target.baseNamespace
  [⟨target.recordPath d.schema d.sheet, sourceText (recordModule base d)⟩,
    ⟨target.containerPath d.schema d.sheet, sourceText (containerModule base d)⟩,
    ⟨target.accessorPath d.schema d.sheet,
      sourceText (accessorModule base (assetPath target.assetRoot d.schema d.sheet) d)⟩]

/-- The enumeration module and the exporter of a schema file. -/
def fileArtifacts (target : Destination) (schema : String) (source : Path)
    (declared : List Enumeration) (descriptions : List Description) :
    Except OversizedInteger (List Artifact) := do
  let enums ← enumModule (emittedEnums declared descriptions)
  pure [⟨target.typePath schema, sourceText enums⟩,
    ⟨target.exporterPath schema, sourceText (exporterModule target.baseNamespace schema source
      target.assetRoot (descriptions.map Description.sheet))⟩]

/-- The registry of all accepted sheets. -/
def registryArtifact (target : Destination) (entries : List RegistryEntry) : Artifact :=
  ⟨target.registryPath, sourceText (registryModule target.baseNamespace entries)⟩

end TypedSheets.Emission

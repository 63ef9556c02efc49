import TypedSheets.Emission.Modules
import TypedSheets.Proofs.Files.ApartPaths

/-!
# Where generated modules lie

A generated module is known by its kind, the schema and the sheet. Its components below the code root
say all three, so different modules have different paths, and the dotted name under which a module is
imported has the same components.
-/

namespace TypedSheets.Emission

open TypedSheets.Text FileTree

/-- What a generated module is for. -/
inductive GeneratedModule where
  | enumerations (schema : String)
  | exporter (schema : String)
  | record (schema sheet : String)
  | container (schema sheet : String)
  | accessor (schema sheet : String)
  | registry
  deriving DecidableEq

namespace GeneratedModule

/-- The directories of a module below the code root. -/
def directories : GeneratedModule → List String
  | enumerations _ => ["Type", "Generated"]
  | exporter _ => ["Editor", "Exporter", "Generated"]
  | record schema _ => ["VO", "Generated", schema]
  | container schema _ => ["DTO", "Generated", schema]
  | accessor schema _ => ["DAO", "Generated", schema]
  | registry => ["Collection", "Generated"]

/-- The name of a module. -/
def name : GeneratedModule → String
  | enumerations schema => schema ++ "Type"
  | exporter schema => schema ++ "Exporter"
  | record _ sheet => recordName sheet
  | container _ sheet => containerName sheet
  | accessor _ sheet => accessorName sheet
  | registry => "Registry"

/-- The schema that a module belongs to. -/
def schema? : GeneratedModule → Option String
  | enumerations schema => some schema
  | exporter schema => some schema
  | record schema _ => some schema
  | container schema _ => some schema
  | accessor schema _ => some schema
  | registry => none

/-- The sheet that a module belongs to. -/
def sheet? : GeneratedModule → Option String
  | record _ sheet => some sheet
  | container _ sheet => some sheet
  | accessor _ sheet => some sheet
  | _ => none

/-- The components of the file of a module below the code root. -/
def file (m : GeneratedModule) : List String := m.directories ++ [m.name ++ ".py"]

/-- The path of a module. -/
def path (target : Destination) (m : GeneratedModule) : Path := target.codeRoot.below m.file

/-- The names of a module are components of paths. -/
def Named : GeneratedModule → Prop
  | enumerations schema => '/' ∉ schema.toList
  | exporter schema => '/' ∉ schema.toList
  | record schema sheet => IsComponent schema ∧ '/' ∉ sheet.toList
  | container schema sheet => IsComponent schema ∧ '/' ∉ sheet.toList
  | accessor schema sheet => IsComponent schema ∧ '/' ∉ sheet.toList
  | registry => True

theorem Named.directories {m : GeneratedModule} (named : m.Named) :
    ∀ component ∈ m.directories, IsComponent component := by
  intro component member
  cases m with
  | enumerations schema =>
    simp only [GeneratedModule.directories, List.mem_cons, List.not_mem_nil, or_false] at member
    rcases member with rfl | rfl
    · exact isComponent_of_isIdentifier (by decide)
    · exact isComponent_of_isIdentifier (by decide)
  | exporter schema =>
    simp only [GeneratedModule.directories, List.mem_cons, List.not_mem_nil, or_false] at member
    rcases member with rfl | rfl | rfl
    · exact isComponent_of_isIdentifier (by decide)
    · exact isComponent_of_isIdentifier (by decide)
    · exact isComponent_of_isIdentifier (by decide)
  | registry =>
    simp only [GeneratedModule.directories, List.mem_cons, List.not_mem_nil, or_false] at member
    rcases member with rfl | rfl
    · exact isComponent_of_isIdentifier (by decide)
    · exact isComponent_of_isIdentifier (by decide)
  | record schema sheet | container schema sheet | accessor schema sheet =>
    simp only [GeneratedModule.directories, List.mem_cons, List.not_mem_nil, or_false] at member
    rcases member with rfl | rfl | rfl
    · exact isComponent_of_isIdentifier (by decide)
    · exact isComponent_of_isIdentifier (by decide)
    · exact named.1

theorem Named.slash_not_mem_name {m : GeneratedModule} (named : m.Named) : '/' ∉ m.name.toList := by
  have behind (name ending : String) (front : '/' ∉ name.toList) (back : '/' ∉ ending.toList) :
      '/' ∉ (name ++ ending).toList := by
    rw [String.toList_append, List.mem_append, not_or]
    exact ⟨front, back⟩
  cases m with
  | enumerations schema => exact behind schema "Type" named (by decide)
  | exporter schema => exact behind schema "Exporter" named (by decide)
  | record schema sheet => exact behind sheet "VO" named.2 (by decide)
  | container schema sheet => exact behind sheet "DTO" named.2 (by decide)
  | accessor schema sheet => exact behind sheet "DAO" named.2 (by decide)
  | registry => decide

/-- A module of a schema and a sheet with identifiers for names is named so, without null characters. -/
theorem named_of_identifiers {m : GeneratedModule}
    (schemas : ∀ schema, m.schema? = some schema → isIdentifier schema = true)
    (sheets : ∀ sheet, m.sheet? = some sheet → isIdentifier sheet = true) :
    m.Named ∧ '\x00' ∉ m.name.toList := by
  have behind (name ending : String) (front : isIdentifier name = true)
      (back : '\x00' ∉ ending.toList) : '\x00' ∉ (name ++ ending).toList := by
    rw [String.toList_append, List.mem_append, not_or]
    exact ⟨Yaml.not_mem_of_isIdentifier front (by decide), back⟩
  have noSlash {name : String} (identifier : isIdentifier name = true) : '/' ∉ name.toList :=
    Yaml.slash_not_mem_of_isIdentifier name identifier
  cases m with
  | enumerations schema =>
    have identifier := schemas schema rfl
    exact ⟨noSlash identifier, behind schema "Type" identifier (by decide)⟩
  | exporter schema =>
    have identifier := schemas schema rfl
    exact ⟨noSlash identifier, behind schema "Exporter" identifier (by decide)⟩
  | record schema sheet =>
    have component := isComponent_of_isIdentifier (schemas schema rfl)
    have identifier := sheets sheet rfl
    exact ⟨⟨component, noSlash identifier⟩, behind sheet "VO" identifier (by decide)⟩
  | container schema sheet =>
    have component := isComponent_of_isIdentifier (schemas schema rfl)
    have identifier := sheets sheet rfl
    exact ⟨⟨component, noSlash identifier⟩, behind sheet "DTO" identifier (by decide)⟩
  | accessor schema sheet =>
    have component := isComponent_of_isIdentifier (schemas schema rfl)
    have identifier := sheets sheet rfl
    exact ⟨⟨component, noSlash identifier⟩, behind sheet "DAO" identifier (by decide)⟩
  | registry => exact ⟨trivial, by decide⟩

theorem Named.components {m : GeneratedModule} (named : m.Named) :
    ∀ component ∈ m.file, IsComponent component := by
  intro component member
  rcases List.mem_append.mp member with above | last
  · exact named.directories component above
  · rw [List.mem_singleton.mp last]
    exact isComponent_ending named.slash_not_mem_name (by decide) (by decide)

/-- A module of a schema and a sheet with identifiers for names has a null character on its path only
where the code root has one. -/
theorem hasNull_path (target : Destination) {m : GeneratedModule}
    (schemas : ∀ schema, m.schema? = some schema → isIdentifier schema = true)
    (sheets : ∀ sheet, m.sheet? = some sheet → isIdentifier sheet = true) :
    hasNull (m.path target) = hasNull target.code := by
  have root : IsComponent rootDirectory := isComponent_of_isIdentifier (by decide)
  rw [path, Destination.codeRoot, child_eq_below _ root, below_below]
  apply hasNull_below
  intro component member
  rw [file, List.mem_append, List.mem_append, List.mem_singleton, List.mem_singleton] at member
  rcases member with rfl | above | rfl
  · decide
  · cases m with
    | record schema sheet | container schema sheet | accessor schema sheet =>
      simp only [directories, List.mem_cons, List.not_mem_nil, or_false] at above
      rcases above with rfl | rfl | rfl
      · decide
      · decide
      · exact Yaml.not_mem_of_isIdentifier (schemas _ rfl) (by decide)
    | exporter schema =>
      simp only [directories, List.mem_cons, List.not_mem_nil, or_false] at above
      rcases above with rfl | rfl | rfl <;> decide
    | enumerations schema | registry =>
      simp only [directories, List.mem_cons, List.not_mem_nil, or_false] at above
      rcases above with rfl | rfl <;> decide
  · rw [String.toList_append, List.mem_append, not_or]
    exact ⟨(named_of_identifiers schemas sheets).2, by decide⟩

/-- Different modules have different files: the first directory says the kind, the others and the name
say the schema and the sheet. -/
theorem file_injective {m n : GeneratedModule} (same : m.file = n.file) : m = n := by
  cases m <;> cases n <;>
    simp_all [file, directories, name, recordName, containerName, accessorName]

/-- Different modules have paths that lead apart. -/
theorem path_apart (target : Destination) {m n : GeneratedModule} (differ : m ≠ n) (left : m.Named)
    (right : n.Named) : Apart (m.path target) (n.path target) :=
  apart_below (fun same => differ (file_injective same)) left.components right.components

/-- So do those of a list without repetitions. -/
theorem apart_of_nodup (target : Destination) {modules : List GeneratedModule} (nodup : modules.Nodup)
    (named : ∀ m ∈ modules, m.Named) : (modules.map (path target)).Pairwise Apart := by
  rw [List.pairwise_map]
  refine List.Pairwise.imp_of_mem ?_ nodup
  intro m n left right differ
  exact path_apart target differ (named m left) (named n right)

/-- The path of a module below a split root is one that a run may write to. -/
theorem isProduct_path {target : Destination} (split : IsSplit target.codeRoot) {m : GeneratedModule}
    (named : m.Named) (noNull : '\x00' ∉ m.name.toList) : IsProduct (m.path target) := by
  have components := named.components
  have file : m.file = m.directories ++ [m.name ++ "." ++ "py"] := by
    rw [GeneratedModule.file, String.append_assoc]
    rfl
  rw [file] at components
  rw [path, file]
  apply isProduct_below split components (by decide) (by decide)
  rw [String.append_assoc, String.toList_append, List.mem_append, not_or]
  exact ⟨noNull, by decide⟩

end GeneratedModule

section Paths

variable (target : Destination) {schema sheet : String}

theorem generated_eq {role : String} (component : IsComponent role) :
    target.generated role = target.codeRoot.below [role, "Generated"] := by
  have generated : IsComponent "Generated" := isComponent_of_isIdentifier (by decide)
  rw [Destination.generated, child_eq_below _ component, child_eq_below _ generated, below_below]
  rfl

/-- The file of a module in some directories below the code root. -/
theorem child_file {directories : List String} {name ending file : String}
    (noSlash : '/' ∉ name.toList) (noSlashBehind : '/' ∉ ending.toList) (same : file = ending ++ ".py") :
    (target.codeRoot.below directories).child (name ++ file) =
      target.codeRoot.below (directories ++ [name ++ ending ++ ".py"]) := by
  have component : IsComponent (name ++ ending ++ ".py") := by
    apply isComponent_ending
    · rw [String.toList_append, List.mem_append, not_or]
      exact ⟨noSlash, noSlashBehind⟩
    · decide
    · decide
  rw [same, ← String.append_assoc, child_eq_below _ component, below_below]

theorem typePath_eq (noSlash : '/' ∉ schema.toList) :
    target.typePath schema = (GeneratedModule.enumerations schema).path target := by
  rw [Destination.typePath, generated_eq target (isComponent_of_isIdentifier (by decide))]
  exact child_file target noSlash (by decide) (by decide)

theorem exporterPath_eq (noSlash : '/' ∉ schema.toList) :
    target.exporterPath schema = (GeneratedModule.exporter schema).path target := by
  have editor : IsComponent "Editor" := isComponent_of_isIdentifier (by decide)
  have exporter : IsComponent "Exporter" := isComponent_of_isIdentifier (by decide)
  have generated : IsComponent "Generated" := isComponent_of_isIdentifier (by decide)
  rw [Destination.exporterPath, child_eq_below _ editor, child_eq_below _ exporter,
    child_eq_below _ generated, below_below, below_below]
  exact child_file target noSlash (by decide) (by decide)

theorem recordPath_eq (component : IsComponent schema) (noSlash : '/' ∉ sheet.toList) :
    target.recordPath schema sheet = (GeneratedModule.record schema sheet).path target := by
  rw [Destination.recordPath, generated_eq target (isComponent_of_isIdentifier (by decide)),
    child_eq_below _ component, below_below]
  exact child_file target noSlash (by decide) (by decide)

theorem containerPath_eq (component : IsComponent schema) (noSlash : '/' ∉ sheet.toList) :
    target.containerPath schema sheet = (GeneratedModule.container schema sheet).path target := by
  rw [Destination.containerPath, generated_eq target (isComponent_of_isIdentifier (by decide)),
    child_eq_below _ component, below_below]
  exact child_file target noSlash (by decide) (by decide)

theorem accessorPath_eq (component : IsComponent schema) (noSlash : '/' ∉ sheet.toList) :
    target.accessorPath schema sheet = (GeneratedModule.accessor schema sheet).path target := by
  rw [Destination.accessorPath, generated_eq target (isComponent_of_isIdentifier (by decide)),
    child_eq_below _ component, below_below]
  exact child_file target noSlash (by decide) (by decide)

theorem registryPath_eq : target.registryPath = GeneratedModule.registry.path target := by
  have registry : IsComponent "Registry.py" := ⟨by decide, by decide, by decide, by decide⟩
  rw [Destination.registryPath, generated_eq target (isComponent_of_isIdentifier (by decide)),
    child_eq_below _ registry, below_below]
  rfl

end Paths

end TypedSheets.Emission

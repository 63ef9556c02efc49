import TypedSheets.Proofs.Generated.BoundNames
import TypedSheets.Proofs.Schema.EnumNamespace
import TypedSheets.Proofs.Text.NormalForms

/-!
# Names that hide each other

A module has one namespace for what its template imports, for the enumerations that it takes and for the
classes that it defines. The templates alone never bind a name twice. A name of an enumeration, of a sheet or
of a schema may: the main statement, `boundNames_nodup_iff`, lists for each module which names do.
-/

namespace TypedSheets.Emission

open TypedSheets.Grid TypedSheets.Schema TypedSheets.Text

/-- How names are told apart: as they are spelled, or by the normal forms that a loaded module knows. -/
def readings : List (String → String) := [id, normalForm]

/-- No two of the names that a module binds are read as one. -/
def BindsApart (reading : String → String) (text : String) : Prop := ((boundNames text).map reading).Nodup

/-- Enumerations of different names are read as different. -/
def ReadApart (reading : String → String) (enums : List Enumeration) : Prop :=
  ∀ e ∈ enums, ∀ other ∈ enums, reading e.name = reading other.name → e.name = other.name

/-- Fixed names, and the names that endings make of the name of a sheet. -/
def ownNames (fixed endings : List String) (sheet : String) : List String := fixed ++ endings.map (sheet ++ ·)

/-- What the modules of a sheet bind besides enumerations. -/
def recordOwn (d : Description) : List String := ownNames ["annotations", "dataclass"] ["VO"] d.sheet

def containerOwn (d : Description) : List String := ownNames ["MasterDataContainer"] ["VO", "DTO"] d.sheet

def accessorOwn (d : Description) : List String := ownNames ["MasterDataAccessor"] ["DTO", "VO", "DAO"] d.sheet

section Readings

variable {reading : String → String} {name ending : String}

theorem reading_ascii (listed : reading ∈ readings) (ascii : IsAscii name) : reading name = name := by
  simp only [readings, List.mem_cons, List.not_mem_nil, or_false] at listed
  rcases listed with rfl | rfl
  · rfl
  · exact normalForm_ascii ascii

theorem reading_append (listed : reading ∈ readings) (ascii : IsAscii ending) :
    reading (name ++ ending) = reading name ++ ending := by
  simp only [readings, List.mem_cons, List.not_mem_nil, or_false] at listed
  rcases listed with rfl | rfl
  · rfl
  · exact normalForm_append ascii

/-- Names that are bound among others. -/
theorem nodup_among {first names last : List String} :
    (first ++ names ++ last).Nodup ↔
      (first ++ last).Nodup ∧ names.Nodup ∧ ∀ name ∈ names, name ∉ first ++ last := by
  have order : (first ++ names ++ last).Perm (names ++ (first ++ last)) := by
    rw [List.append_assoc, ← List.append_assoc names]
    exact (List.perm_append_comm_assoc first names last).trans (by rw [List.append_assoc])
  rw [order.nodup_iff, List.nodup_append]
  constructor
  · rintro ⟨own, others, apart⟩
    exact ⟨others, own, fun name inside among => apart name inside name among rfl⟩
  · rintro ⟨others, own, apart⟩
    refine ⟨own, others, ?_⟩
    rintro name inside _ among rfl
    exact apart name inside among

/-- Endings that can be told apart, and that no fixed name has, make different names. -/
theorem ownNames_nodup (listed : reading ∈ readings) {fixed endings : List String}
    (ascii : ∀ text ∈ fixed ++ endings, IsAscii text) (nodup : fixed.Nodup)
    (free : ∀ name ∈ fixed, ∀ ending ∈ endings, ¬ending.toList <:+ name.toList)
    (apart : endings.Pairwise fun ending other =>
      ¬ending.toList <:+ other.toList ∧ ¬other.toList <:+ ending.toList) (sheet : String) :
    ((ownNames fixed endings sheet).map reading).Nodup := by
  rw [List.forall_mem_append] at ascii
  have fixedRead : fixed.map reading = fixed :=
    (List.map_congr_left fun name member => reading_ascii listed (ascii.1 name member)).trans (List.map_id' fixed)
  have classesRead : (endings.map (sheet ++ ·)).map reading = endings.map (reading sheet ++ ·) := by
    rw [List.map_map]
    exact List.map_congr_left fun ending member => reading_append listed (ascii.2 ending member)
  rw [ownNames, List.map_append, fixedRead, classesRead, List.nodup_append]
  refine ⟨nodup, ?_, ?_⟩
  · rw [List.nodup_iff_pairwise_ne, List.pairwise_map]
    exact apart.imp fun different => append_ne_append different.1 different.2
  · intro name member other made
    obtain ⟨ending, among, rfl⟩ := List.mem_map.mp made
    exact ne_append (free name member ending among)

theorem recordOwn_nodup (listed : reading ∈ readings) (d : Description) : ((recordOwn d).map reading).Nodup :=
  ownNames_nodup listed (by decide) (by decide) (by decide) (by decide) d.sheet

theorem containerOwn_nodup (listed : reading ∈ readings) (d : Description) :
    ((containerOwn d).map reading).Nodup :=
  ownNames_nodup listed (by decide) (by decide) (by decide) (by decide) d.sheet

theorem accessorOwn_nodup (listed : reading ∈ readings) (d : Description) :
    ((accessorOwn d).map reading).Nodup :=
  ownNames_nodup listed (by decide) (by decide) (by decide) (by decide) d.sheet

end Readings

section Enumerations

variable {reading : String → String} {w : Workbook} {d : Description}

theorem firstOccurrences_nodup (names : List String) : (firstOccurrences names).Nodup := by
  induction names with
  | nil => exact List.nodup_nil
  | cons name rest inductionHypothesis =>
    rw [firstOccurrences, List.nodup_cons]
    exact ⟨by simp, inductionHypothesis.filter _⟩

/-- The enumerations that a record imports are read as different when those of its fields are. -/
theorem enumImports_nodup_iff :
    ((enumImports d).map reading).Nodup ↔ ReadApart reading d.enumerations := by
  rw [enumImports, List.nodup_map_iff_inj_on (firstOccurrences_nodup _)]
  simp only [mem_firstOccurrences, List.forall_mem_map]
  rfl

theorem typeEnums_nodup_iff :
    (((typeEnums w).map Enumeration.name).map reading).Nodup ↔ ReadApart reading (typeEnums w) := by
  rw [List.nodup_map_iff_inj_on (nodup_typeEnums w)]
  simp only [List.forall_mem_map]
  rfl

/-- A key brings at most one enumeration. -/
theorem keyEnums_nodup : ((keyEnums d).map reading).Nodup := by
  unfold keyEnums
  cases d.key.enumeration with
  | none => exact List.nodup_nil
  | some e => exact List.nodup_singleton _

end Enumerations

section Modules

variable {reading : String → String} {base : String} {w : Workbook} {d : Description}

/-- Names of which the own ones of a module are known to be different. -/
theorem bindsApart_iff {text : String} {first names last : List String}
    (bound : boundNames text = first ++ names ++ last) (own : ((first ++ last).map reading).Nodup) :
    BindsApart reading text ↔
      (names.map reading).Nodup ∧ ∀ name ∈ names, reading name ∉ (first ++ last).map reading := by
  rw [BindsApart, bound, List.map_append, List.map_append, nodup_among, ← List.map_append, List.forall_mem_map]
  exact and_iff_right own

theorem recordModule_bindsApart (listed : reading ∈ readings) (word : IsWord base) (spelled : SpelledSheet d) :
    BindsApart reading (sourceText (recordModule base d)) ↔
      ReadApart reading d.enumerations ∧ ∀ e ∈ d.enumerations, reading e.name ∉ (recordOwn d).map reading := by
  rw [bindsApart_iff (boundNames_recordModule word spelled) (recordOwn_nodup listed d), enumImports_nodup_iff]
  simp only [enumImports, mem_firstOccurrences, List.forall_mem_map]
  rfl

theorem containerModule_bindsApart (listed : reading ∈ readings) (word : IsWord base) (spelled : SpelledSheet d) :
    BindsApart reading (sourceText (containerModule base d)) ↔
      ∀ e ∈ d.key.enumeration, reading e.name ∉ (containerOwn d).map reading := by
  rw [bindsApart_iff (boundNames_containerModule word spelled) (containerOwn_nodup listed d),
    and_iff_right keyEnums_nodup]
  simp [keyEnums, containerOwn, ownNames, recordName, containerName]

theorem accessorModule_bindsApart (listed : reading ∈ readings) (word : IsWord base) (spelled : SpelledSheet d)
    (asset : Path) :
    BindsApart reading (sourceText (accessorModule base asset d)) ↔
      ∀ e ∈ d.key.enumeration, reading e.name ∉ (accessorOwn d).map reading := by
  rw [bindsApart_iff (boundNames_accessorModule word spelled asset) (accessorOwn_nodup listed d),
    and_iff_right keyEnums_nodup]
  simp [keyEnums, accessorOwn, ownNames, recordName, containerName, accessorName]

theorem enumModule_bindsApart (listed : reading ∈ readings) {lines : List SourceLine}
    (rendered : enumModule (typeEnums w) = .ok lines) :
    BindsApart reading (sourceText lines) ↔
      ReadApart reading (typeEnums w) ∧ ∀ e ∈ typeEnums w, reading e.name ≠ "IntEnum" := by
  have bound := boundNames_enumModule rendered spelledEnum_of_emitted
  rw [← List.append_nil (["IntEnum"] ++ _)] at bound
  rw [bindsApart_iff bound (List.nodup_singleton _), typeEnums_nodup_iff]
  have base_ : reading "IntEnum" = "IntEnum" := reading_ascii listed (by decide)
  simp [base_]

theorem exporterModule_bindsApart (listed : reading ∈ readings) (word : IsWord base)
    (identifier : isIdentifier w.name = true) (source assetRoot : Path) :
    BindsApart reading (sourceText (exporterModule base w.name source assetRoot
        ((accepted w).map Description.sheet))) ↔
      ((accepted w).map fun d => reading d.sheet).Nodup ∧ reading w.name ≠ "MasterData" := by
  have bound := boundNames_exporterModule word identifier
    (fun d described => ⟨(named_of_accepted described).1, spelledSheet_of_accepted identifier described⟩)
    source assetRoot
  have imported : reading "MasterDataExporter" = "MasterDataExporter" := reading_ascii listed (by decide)
  have exporter : reading (w.name ++ "Exporter") = reading w.name ++ "Exporter" :=
    reading_append listed (by decide)
  have container (sheet : String) : reading (containerName sheet) = reading sheet ++ "DTO" :=
    reading_append listed (by decide)
  have own : ["MasterDataExporter", reading w.name ++ "Exporter"].Nodup ↔ reading w.name ≠ "MasterData" := by
    have parts : "MasterDataExporter" = "MasterData" ++ "Exporter" := by decide
    rw [List.nodup_cons, List.mem_singleton, parts, String.append_left_inj, eq_comm]
    exact and_iff_left (List.nodup_singleton _)
  have containers : (((accepted w).map fun d => containerName d.sheet).map reading).Nodup ↔
      ((accepted w).map fun d => reading d.sheet).Nodup := by
    have read : ((accepted w).map fun d => containerName d.sheet).map reading =
        ((accepted w).map fun d => reading d.sheet).map (· ++ "DTO") := by
      rw [List.map_map, List.map_map]
      exact List.map_congr_left fun d _ => container d.sheet
    rw [read]
    exact List.nodup_map_iff fun _ _ same => (String.append_left_inj "DTO").mp same
  have apart : ∀ name ∈ (accepted w).map fun d => containerName d.sheet,
      reading name ∉ ["MasterDataExporter", reading w.name ++ "Exporter"] := by
    intro name member
    obtain ⟨d, -, rfl⟩ := List.mem_map.mp member
    rw [container, List.mem_cons, List.mem_singleton, not_or]
    exact ⟨(ne_append (by decide)).symm, append_ne_append (by decide) (by decide)⟩
  rw [BindsApart, bound, List.map_append, List.map_append, nodup_among, List.forall_mem_map, containers]
  simp only [List.map_cons, List.map_nil, imported, exporter, List.cons_append, List.nil_append]
  rw [own]
  constructor
  · exact fun ⟨schema, sheets, _⟩ => ⟨sheets, schema⟩
  · exact fun ⟨sheets, schema⟩ => ⟨schema, sheets, apart⟩

/-- The names that a module binds are different exactly if none of the names that come from the workbook is
one that the template has for itself, and no two of them are one: for the record module this is about the
enumerations of the sheet, for the container and the accessor about the enumeration of the key, for the
enumeration module about all enumerations of the file, and for the exporter about the schema and its
sheets. This is so for names as they are spelled and for their normal forms. -/
theorem boundNames_nodup_iff {reading : String → String} (listed : reading ∈ readings) {base : String}
    (word : IsWord base) {w : Workbook} (identifier : isIdentifier w.name = true) :
    (∀ d ∈ accepted w,
      (BindsApart reading (sourceText (recordModule base d)) ↔
        ReadApart reading d.enumerations ∧ ∀ e ∈ d.enumerations, reading e.name ∉ (recordOwn d).map reading) ∧
      (BindsApart reading (sourceText (containerModule base d)) ↔
        ∀ e ∈ d.key.enumeration, reading e.name ∉ (containerOwn d).map reading) ∧
      ∀ asset, BindsApart reading (sourceText (accessorModule base asset d)) ↔
        ∀ e ∈ d.key.enumeration, reading e.name ∉ (accessorOwn d).map reading) ∧
    (∀ lines, enumModule (typeEnums w) = .ok lines →
      (BindsApart reading (sourceText lines) ↔
        ReadApart reading (typeEnums w) ∧ ∀ e ∈ typeEnums w, reading e.name ≠ "IntEnum")) ∧
    ∀ source assetRoot,
      (BindsApart reading (sourceText (exporterModule base w.name source assetRoot
          ((accepted w).map Description.sheet))) ↔
        ((accepted w).map fun d => reading d.sheet).Nodup ∧ reading w.name ≠ "MasterData") := by
  refine ⟨fun d described => ?_, fun lines rendered => enumModule_bindsApart listed rendered,
    exporterModule_bindsApart listed word identifier⟩
  have spelled := spelledSheet_of_accepted identifier described
  exact ⟨recordModule_bindsApart listed word spelled, containerModule_bindsApart listed word spelled,
    accessorModule_bindsApart listed word spelled⟩

/-- In the file with an enumeration that a refused sheet declares, no module hides a name. -/
theorem boundNames_nodup_iff_armory :
    normalForm ∈ readings ∧ IsWord "MasterData" ∧ isIdentifier armory.name = true ∧
      weaponDescription ∈ accepted armory ∧
      BindsApart normalForm (sourceText (recordModule "MasterData" weaponDescription)) ∧
      BindsApart normalForm (sourceText (containerModule "MasterData" weaponDescription)) := by
  have listed : normalForm ∈ readings := List.mem_cons_of_mem _ List.mem_cons_self
  have identifier : isIdentifier armory.name = true := by decide +kernel
  have described : weaponDescription ∈ accepted armory := by
    rw [accepted_armory]
    exact List.mem_cons_self
  have apart : ReadApart normalForm weaponDescription.enumerations := by
    unfold ReadApart
    decide +kernel
  have modules := (@boundNames_nodup_iff normalForm listed "MasterData" (by decide) armory identifier).1
    weaponDescription described
  exact ⟨listed, by decide, identifier, described, modules.1.mpr ⟨apart, by decide +kernel⟩,
    modules.2.1.mpr (by decide +kernel)⟩

/-- A sheet with an enumeration that has the name of what its record module imports to make a record. -/
def makerSheet : Sheet :=
  { name := "Item", cells := [⟨0, 0, "id"⟩, ⟨0, 1, "kind"⟩, ⟨2, 1, "Axe\nSword"⟩, ⟨3, 0, "int"⟩,
      ⟨3, 1, "dataclass"⟩, ⟨4, 0, "1"⟩, ⟨4, 1, "Axe"⟩] }

def makerEnumeration : Enumeration := { name := "dataclass", members := [⟨"Axe", 0⟩, ⟨"Sword", 1⟩] }

def makerDescription : Description where
  schema := "Game"
  sheet := "Item"
  key := { name := "id", column := 0, declaredType := "int", comment := "", enumeration := none, enumBody := "" }
  others := [{ name := "kind", column := 1, declaredType := "dataclass", comment := "",
               enumeration := some makerEnumeration, enumBody := "Axe\nSword" }]
  rows := [⟨4, [("id", "1"), ("kind", "Axe")]⟩]

def makerBook : Workbook := { name := "Game", sheets := [makerSheet] }

theorem accepted_makerBook : accepted makerBook = [makerDescription] := by
  have ordered (r : Int) : makerSheet.row r = makerSheet.cells.filter fun c => c.row == r :=
    row_of_ordered (by decide) r
  have declared : collectEnums makerBook = [("dataclass", makerEnumeration)] := by
    have one : populatedColumns makerSheet enumRow = [1] := by
      rw [populatedColumns, ordered]
      decide
    simp only [collectEnums, makerBook, List.foldl, addDeclarations, one]
    decide +kernel
  have names : populatedColumns makerSheet nameRow = [0, 1] := by
    rw [populatedColumns, ordered]
    decide
  have types : populatedColumns makerSheet typeRow = [0, 1] := by
    rw [populatedColumns, ordered]
    decide
  have indices : makerSheet.rowIndices = [0, 2, 3, 4] := by
    rw [Sheet.rowIndices]
    exact List.mergeSort_of_pairwise (by decide)
  have accepts : Accepts "Game" [("dataclass", makerEnumeration)] makerSheet makerDescription := by
    refine ⟨by decide +kernel, ?_, ⟨[("dataclass", makerEnumeration)], ?_⟩, by decide, rfl, rfl, ?_⟩
    · rw [names, types]
      rfl
    · rw [names]
      rfl
    · rw [readRows, indices]
      decide +kernel
  rw [accepted, interpretSheets, declared, makerBook]
  simp only [List.map_cons, List.map_nil, interpretIn, accepts.interpretSheet_eq]
  rfl

/-- It is accepted, and its record module binds that name twice. -/
theorem boundNames_makerSheet :
    isIdentifier makerBook.name = true ∧ makerDescription ∈ accepted makerBook ∧
      ¬(boundNames (sourceText (recordModule "MasterData" makerDescription))).Nodup := by
  have identifier : isIdentifier makerBook.name = true := by decide +kernel
  have described : makerDescription ∈ accepted makerBook := by
    rw [accepted_makerBook]
    exact List.mem_cons_self
  refine ⟨identifier, described, ?_⟩
  rw [boundNames_recordModule (by decide) (spelledSheet_of_accepted identifier described)]
  decide

end Modules

end TypedSheets.Emission

import TypedSheets.Proofs.Generated.SourceLines
import TypedSheets.Proofs.Schema.FieldResolution

/-!
# What modules import and define

The templates of the modules spell the names of sheets and enumerations on their own. Here each of them
is gone through once: its lines are legible, its imports of generated modules are imports of classes that
a module of the sheet or of its file is made for, and the classes it defines have the expected names.
-/

namespace TypedSheets.Emission

open TypedSheets.Grid TypedSheets.Number TypedSheets.Schema TypedSheets.Text

/-- What modules import for a sheet. -/
inductive Takes (d : Description) : GeneratedModule → List ImportedName → Prop
  | enumerations {names : List ImportedName} : names ≠ [] →
      (∀ i ∈ names, ∃ e ∈ d.enumerations, i = { name := e.name }) →
      Takes d (.enumerations d.schema) names
  | record : Takes d (.record d.schema d.sheet) [{ name := recordName d.sheet }]
  | container : Takes d (.container d.schema d.sheet) [{ name := containerName d.sheet }]
  | accessor {renamed : Option String} :
      Takes d (.accessor d.schema d.sheet) [{ name := accessorName d.sheet, renamed }]

/-- An enumeration with identifiers for names. -/
def SpelledEnum (e : Enumeration) : Prop :=
  isIdentifier e.name = true ∧ ∀ m ∈ e.members, isIdentifier m.name = true

/-- A description with identifiers for names. -/
structure SpelledSheet (d : Description) : Prop where
  schema : isIdentifier d.schema = true
  sheet : isIdentifier d.sheet = true
  fields : ∀ f ∈ d.fields, isIdentifier f.name = true
  enumerations : ∀ e ∈ d.enumerations, SpelledEnum e

section Spelling

/-- The endings of the names of modules and classes. -/
def nameEndings : List String := ["VO", "DTO", "DAO", "Type", "Exporter"]

/-- An identifier with an ending is an identifier. -/
theorem isIdentifier_ending {name ending : String} (identifier : isIdentifier name = true)
    (listed : ending ∈ nameEndings) : isIdentifier (name ++ ending) = true := by
  have letters : ∀ ending ∈ nameEndings, ending.toList.all isIdentifierContinue = true := by decide
  have free : ∀ ending ∈ nameEndings, ∀ word ∈ reservedWords, ¬ending.toList <:+ word.toList := by
    decide +kernel
  exact Yaml.isIdentifier_append identifier (letters ending listed) (free ending listed)

/-- The name that an accessor gets when several sheets have its name. -/
theorem isIdentifier_renamed {schema sheet : String} (schemaIdentifier : isIdentifier schema = true)
    (sheetIdentifier : isIdentifier sheet = true) :
    isIdentifier (schema ++ accessorName sheet) = true := by
  have letters := Yaml.continue_of_form (Bool.and_eq_true_iff.mp sheetIdentifier).1
  have free : ∀ word ∈ reservedWords, ¬"DAO".toList <:+ word.toList := by decide
  apply Yaml.isIdentifier_append schemaIdentifier
  · rw [accessorName, String.toList_append, List.all_append, List.all_eq_true.mpr letters]
    decide
  · intro word member ends
    apply free word member
    rw [accessorName, String.toList_append] at ends
    exact (List.suffix_append sheet.toList "DAO".toList).trans ends

theorem isSpelled_enumerations {schema : String} (identifier : isIdentifier schema = true) :
    (GeneratedModule.enumerations schema).IsSpelled := by
  have name := isIdentifier_ending identifier (by decide : "Type" ∈ nameEndings)
  simp only [GeneratedModule.IsSpelled, GeneratedModule.directories, GeneratedModule.name,
    List.forall_mem_append, List.forall_mem_cons]
  exact ⟨⟨by decide, by decide, List.forall_mem_nil _⟩, name, List.forall_mem_nil _⟩

/-- The modules of a sheet. -/
theorem isSpelled_sheetModule {schema role : String} {m : GeneratedModule}
    (directories : m.directories = [role, "Generated", schema]) (roleIdentifier : isIdentifier role = true)
    (schemaIdentifier : isIdentifier schema = true) (nameIdentifier : isIdentifier m.name = true) :
    m.IsSpelled := by
  simp only [GeneratedModule.IsSpelled, directories, List.forall_mem_append, List.forall_mem_cons]
  exact ⟨⟨roleIdentifier, by decide, schemaIdentifier, List.forall_mem_nil _⟩, nameIdentifier,
    List.forall_mem_nil _⟩

end Spelling

section Accepted

variable {w : Workbook} {d : Description}

theorem spelledEnum_of_collected {entry : String × Enumeration} (member : entry ∈ collectEnums w) :
    SpelledEnum entry.2 := by
  have isTable := isEnumTable_collectEnums w
  have read := isTable.read entry member
  refine ⟨?_, fun m member => (read.members.2.2 m member).1⟩
  rw [read.name_eq]
  exact (isTable.names entry member).1

theorem spelledEnum_of_emitted : ∀ e ∈ typeEnums w, SpelledEnum e := by
  rw [typeEnums_eq]
  intro e member
  obtain ⟨entry, collected, rfl⟩ := List.mem_map.mp member
  exact spelledEnum_of_collected collected

/-- An accepted sheet of a valid workbook has identifiers for names. -/
theorem spelledSheet_of_accepted (identifier : isIdentifier w.name = true) (described : d ∈ accepted w) :
    SpelledSheet d := by
  obtain ⟨schema, sheet⟩ := named_of_accepted described
  obtain ⟨resolved, known⟩ := resolved_of_accepted described
  refine ⟨by rw [schema]; exact identifier, sheet, fun f member => (resolved.names f member).1, ?_⟩
  intro e own
  obtain ⟨f, member, enumeration⟩ := List.mem_filterMap.mp own
  exact spelledEnum_of_collected (mem_of_lookup (known f member e enumeration))

end Accepted

section Lines

variable {base : String} {takes further : GeneratedModule → List ImportedName → Prop} {d : Description}
  {f : Field}

/-- A line stays legible when more may be imported. -/
theorem Legible.mono {line : SourceLine} (legible : Legible base takes line)
    (more : ∀ m names, takes m names → further m names) : Legible base further line := by
  cases legible with
  | blank => exact .blank
  | library listed => exact .library listed
  | taken spelled imported taken => exact .taken spelled imported (more _ _ taken)
  | classHeader identifier within => exact .classHeader identifier within
  | code within plain => exact .code within plain

theorem dotted_enumerations (base schema : String) :
    typeModule base schema = (GeneratedModule.enumerations schema).dotted base := by
  apply String.toList_inj.mp
  simp [typeModule, GeneratedModule.dotted, GeneratedModule.directories, GeneratedModule.name]

theorem dotted_sheetModule {role schema : String} {m : GeneratedModule}
    (directories : m.directories = [role, "Generated", schema]) :
    sheetModule base role schema m.name = m.dotted base := by
  apply String.toList_inj.mp
  simp [sheetModule, GeneratedModule.dotted, directories]

/-- Enumerations of a sheet are imported from the enumeration module of its file. -/
theorem legible_enumImport (spelled : SpelledSheet d) {names : List ImportedName} (some : names ≠ [])
    (each : ∀ i ∈ names, ∃ e ∈ d.enumerations, i = { name := e.name }) :
    Legible base (Takes d) (.importFrom (typeModule base d.schema) names) := by
  rw [dotted_enumerations]
  refine .taken (isSpelled_enumerations spelled.schema) ?_ (.enumerations some each)
  intro i member
  obtain ⟨e, own, rfl⟩ := each i member
  have identifier := (spelled.enumerations e own).1
  exact ⟨identifier, identifier⟩

theorem legible_keyImport (spelled : SpelledSheet d) :
    ∀ line ∈ keyImport base d, Legible base (Takes d) line := by
  intro line member
  unfold keyImport at member
  split at member
  · next e enumeration =>
    rw [List.mem_singleton.mp member]
    apply legible_enumImport spelled (List.cons_ne_nil _ _)
    intro i listed
    exact ⟨e, List.mem_filterMap.mpr ⟨d.key, List.mem_cons_self, enumeration⟩, List.mem_singleton.mp listed⟩
  · cases member

/-- A class of a sheet is imported from the module with its name. -/
theorem legible_sheetImport {m : GeneratedModule} {role schema : String} {i : ImportedName}
    (directories : m.directories = [role, "Generated", schema]) (roleIdentifier : isIdentifier role = true)
    (schemaIdentifier : isIdentifier schema = true) (name : isIdentifier m.name = true)
    (spelled : i.IsSpelled) (taken : takes m [i]) :
    Legible base takes (.importFrom (sheetModule base role schema m.name) [i]) := by
  rw [dotted_sheetModule directories]
  refine .taken (isSpelled_sheetModule directories roleIdentifier schemaIdentifier name) ?_ taken
  intro other member
  rw [List.mem_singleton.mp member]
  exact spelled

theorem isIdentifier_recordName (spelled : SpelledSheet d) : isIdentifier (recordName d.sheet) = true :=
  isIdentifier_ending spelled.sheet (by decide : "VO" ∈ nameEndings)

theorem isIdentifier_containerName (spelled : SpelledSheet d) :
    isIdentifier (containerName d.sheet) = true :=
  isIdentifier_ending spelled.sheet (by decide : "DTO" ∈ nameEndings)

theorem isIdentifier_accessorName (spelled : SpelledSheet d) :
    isIdentifier (accessorName d.sheet) = true :=
  isIdentifier_ending spelled.sheet (by decide : "DAO" ∈ nameEndings)

theorem legible_recordImport (spelled : SpelledSheet d) :
    Legible base (Takes d)
      (importOne (sheetModule base "VO" d.schema (recordName d.sheet)) (recordName d.sheet)) :=
  have name := isIdentifier_recordName spelled
  @legible_sheetImport base (Takes d) (.record d.schema d.sheet) "VO" _ { name := recordName d.sheet } rfl
    (by decide) spelled.schema name ⟨name, name⟩ .record

theorem legible_containerImport (spelled : SpelledSheet d) :
    Legible base (Takes d)
      (importOne (sheetModule base "DTO" d.schema (containerName d.sheet)) (containerName d.sheet)) :=
  have name := isIdentifier_containerName spelled
  @legible_sheetImport base (Takes d) (.container d.schema d.sheet) "DTO" _
    { name := containerName d.sheet } rfl (by decide) spelled.schema name ⟨name, name⟩ .container

/-- A type is written like a name. -/
theorem annotation_continues (enumeration : ∀ e, f.enumeration = some e → SpelledEnum e) {c : Char}
    (present : c ∈ ( annotation f).toList) : isIdentifierContinue c = true := by
  have primitive (p : Primitive) : p.annotation.toList.all isIdentifierContinue = true := by
    cases p <;> decide
  unfold annotation at present
  split at present
  · next e own => exact Yaml.continue_of_form (Bool.and_eq_true_iff.mp (enumeration e own).1).1 c present
  · cases named : Primitive.ofName? f.declaredType with
    | none =>
      rw [named] at present
      cases present
    | some p =>
      rw [named] at present
      exact List.all_eq_true.mp (primitive p) c present

/-- A default is written like names, with a point or with quotes. -/
theorem continue_of_mem_defaultText (enumeration : ∀ e, f.enumeration = some e → SpelledEnum e) {c : Char}
    (present : c ∈ (defaultText f).toList) : isIdentifierContinue c = true ∨ c = '.' ∨ c = '"' := by
  have primitive (p : Primitive) :
      p.defaultText.toList.all (fun c => isIdentifierContinue c || c == '.' || c == '"') = true := by
    cases p <;> decide
  unfold defaultText at present
  split at present
  · next e own =>
    obtain ⟨name, members⟩ := enumeration e own
    rw [String.toList_append, String.toList_append, List.mem_append, List.mem_append] at present
    rcases present with (inside | point) | last
    · exact .inl (Yaml.continue_of_form (Bool.and_eq_true_iff.mp name).1 c inside)
    · exact .inr (.inl (List.mem_singleton.mp point))
    · cases listed : e.members with
      | nil =>
        rw [listed] at last
        cases last
      | cons m rest =>
        rw [listed] at last
        have member := members m (by rw [listed]; exact List.mem_cons_self)
        exact .inl (Yaml.continue_of_form (Bool.and_eq_true_iff.mp member).1 c last)
  · cases named : Primitive.ofName? f.declaredType with
    | none =>
      rw [named] at present
      cases present
    | some p =>
      rw [named] at present
      simpa [or_assoc] using List.all_eq_true.mp (primitive p) c present

/-- Types and defaults of fields stand in one line. -/
theorem annotation_withinLine (enumeration : ∀ e, f.enumeration = some e → SpelledEnum e) :
    WithinLine ( annotation f) := fun _ present =>
  isLineEnd_of_test isIdentifierContinue (by decide) (by decide) (annotation_continues enumeration present)

theorem withinLine_defaultText (enumeration : ∀ e, f.enumeration = some e → SpelledEnum e) :
    WithinLine (defaultText f) := by
  intro c present
  rcases continue_of_mem_defaultText enumeration present with continuing | rfl | rfl
  · exact isLineEnd_of_test isIdentifierContinue (by decide) (by decide) continuing
  · decide
  · decide

theorem legible_fieldText (steps : Nat) (name : isIdentifier f.name = true)
    (enumeration : ∀ e, f.enumeration = some e → SpelledEnum e) :
    Legible base takes (.code steps (fieldText f)) := by
  refine .code ?_ ?_
  · have comment : WithinLine (if collapseBlanks f.comment = "" then ""
        else "  # " ++ collapseBlanks f.comment) := by
      split
      · decide
      · rw [withinLine_append]
        exact ⟨by decide, withinLine_collapseBlanks f.comment⟩
    rw [fieldText, withinLine_append, withinLine_append, withinLine_append, withinLine_append,
      withinLine_append]
    exact ⟨⟨⟨⟨⟨withinLine_of_isIdentifier name, by decide⟩, annotation_withinLine enumeration⟩,
      by decide⟩, withinLine_defaultText enumeration⟩, comment⟩
  · have text : fieldText f = f.name ++ (": " ++ ( annotation f ++ " = " ++ defaultText f ++
        if collapseBlanks f.comment = "" then "" else "  # " ++ collapseBlanks f.comment)) := by
      simp only [fieldText, String.append_assoc]
    rw [text]
    apply isPlain_marked name (by decide : ':' ∉ "classfrom".toList)
    rw [firstWord_append (by decide)]
    decide

/-- A line with a name or a literal behind a fixed beginning. -/
theorem legible_behind {front back : String} (steps : Nat) (space : ' ' ∈ front.toList)
    (plain : IsPlain front) (frontWithin : WithinLine front) (backWithin : WithinLine back) :
    Legible base takes (.code steps (front ++ back)) :=
  .code (withinLine_append.mpr ⟨frontWithin, backWithin⟩) (isPlain_append space plain)

end Lines

section Modules

variable {base : String} {takes : GeneratedModule → List ImportedName → Prop} {d : Description}

theorem SpelledSheet.field (spelled : SpelledSheet d) {f : Field} (member : f ∈ d.fields) :
    ∀ e, f.enumeration = some e → SpelledEnum e :=
  fun e own => spelled.enumerations e (List.mem_filterMap.mpr ⟨f, member, own⟩)

theorem legible_banner : Legible base takes banner := .code (by decide) (by decide)

theorem legible_library {source name : String} (listed : (source, name) ∈ libraryImports) :
    Legible base takes (importOne source name) := .library listed

theorem legible_recordModule (spelled : SpelledSheet d) :
    ∀ line ∈ recordModule base d, Legible base (Takes d) line := by
  have fields : ∀ line ∈ d.fields.map fun f => SourceLine.code 1 (fieldText f),
      Legible base (Takes d) line := by
    intro line member
    obtain ⟨f, inside, rfl⟩ := List.mem_map.mp member
    exact legible_fieldText 1 (spelled.fields f inside) (spelled.field inside)
  have keyed : WithinLine ( annotation d.key ++ ":") := by
    rw [withinLine_append]
    exact ⟨annotation_withinLine (spelled.field List.mem_cons_self), by decide⟩
  simp only [recordModule, List.forall_mem_append, List.forall_mem_cons, String.append_assoc]
  refine ⟨⟨⟨⟨?_, ?_⟩, ?_⟩, fields⟩, ?_⟩
  · exact ⟨legible_banner, legible_library (by decide), .blank, legible_library (by decide),
      List.forall_mem_nil _⟩
  · split
    · exact List.forall_mem_nil _
    · next names some =>
      simp only [List.forall_mem_cons]
      refine ⟨.blank, legible_enumImport spelled (by simpa using some) ?_, List.forall_mem_nil _⟩
      intro i member
      obtain ⟨name, listed, rfl⟩ := List.mem_map.mp member
      obtain ⟨e, own, rfl⟩ := List.mem_map.mp (mem_firstOccurrences.mp listed)
      exact ⟨e, own, rfl⟩
  · exact ⟨.blank, .blank, .code (by decide) (by decide),
      .classHeader (isIdentifier_recordName spelled) (by simp), List.forall_mem_nil _⟩
  · exact ⟨.blank, legible_behind 1 (by decide) (by decide) (by decide) keyed,
      legible_behind 2 (by decide) (by decide) (by decide)
        (withinLine_of_isIdentifier (spelled.fields d.key List.mem_cons_self)), List.forall_mem_nil _⟩

theorem legible_containerModule (spelled : SpelledSheet d) :
    ∀ line ∈ containerModule base d, Legible base (Takes d) line := by
  have record := isIdentifier_recordName spelled
  have bases : WithinLine ("MasterDataContainer[" ++ recordName d.sheet ++ ", " ++ annotation d.key ++ "]") := by
    simp only [withinLine_append]
    exact ⟨⟨⟨⟨by decide, withinLine_of_isIdentifier record⟩, by decide⟩,
      annotation_withinLine (spelled.field List.mem_cons_self)⟩, by decide⟩
  simp only [containerModule, List.forall_mem_append, List.forall_mem_cons]
  refine ⟨⟨?_, legible_keyImport spelled⟩, ?_⟩
  · exact ⟨legible_banner, legible_library (by decide), .blank, List.forall_mem_nil _⟩
  · refine ⟨legible_recordImport spelled, .blank, .blank,
      .classHeader (isIdentifier_containerName spelled) ?_,
      legible_behind 1 (by decide) (by decide) (by decide) (withinLine_of_isIdentifier record),
      List.forall_mem_nil _⟩
    rintro _ ⟨⟩
    exact bases

theorem legible_accessorModule (spelled : SpelledSheet d) (asset : Path) :
    ∀ line ∈ accessorModule base asset d, Legible base (Takes d) line := by
  have record := isIdentifier_recordName spelled
  have container := isIdentifier_containerName spelled
  have bases : WithinLine ("MasterDataAccessor[" ++ containerName d.sheet ++ ", " ++
      recordName d.sheet ++ ", " ++ annotation d.key ++ "]") := by
    simp only [withinLine_append]
    exact ⟨⟨⟨⟨⟨⟨by decide, withinLine_of_isIdentifier container⟩, by decide⟩,
      withinLine_of_isIdentifier record⟩, by decide⟩,
      annotation_withinLine (spelled.field List.mem_cons_self)⟩, by decide⟩
  simp only [accessorModule, List.forall_mem_append, List.forall_mem_cons]
  refine ⟨⟨?_, legible_keyImport spelled⟩, ?_⟩
  · exact ⟨legible_banner, legible_library (by decide), .blank, List.forall_mem_nil _⟩
  · refine ⟨legible_containerImport spelled, legible_recordImport spelled, .blank, .blank,
      .classHeader (isIdentifier_accessorName spelled) ?_,
      legible_behind 1 (by decide) (by decide) (by decide) (withinLine_of_isIdentifier container), .blank,
      .code (by decide) (by decide),
      legible_behind 2 (by decide) (by decide) (by decide) (withinLine_quoted _), .blank,
      .code (by decide) (by decide),
      legible_behind 2 (by decide) (by decide) (by decide) (withinLine_quoted _), List.forall_mem_nil _⟩
    rintro _ ⟨⟩
    exact bases

/-- Quoted texts start with a mark. -/
theorem isPlain_quoted (text back : String) : IsPlain (Json.quoted text ++ back) := by
  apply isPlain_of_mem (by decide : '"' ∉ "classfrom".toList)
  rw [firstWord, String.toList_append, Json.quoted, String.toList_ofList, Json.quotedChars, List.cons_append,
    List.cons_append, List.takeWhile_cons_of_pos (by decide)]
  exact List.mem_cons_self

theorem legible_exporterModule {schema : String} {descriptions : List Description}
    (identifier : isIdentifier schema = true)
    (spelled : ∀ d ∈ descriptions, d.schema = schema ∧ SpelledSheet d) (source assetRoot : Path) :
    ∀ line ∈ exporterModule base schema source assetRoot (descriptions.map Description.sheet),
      Legible base (fun m names => ∃ d ∈ descriptions, Takes d m names) line := by
  have imports : ∀ line ∈ (descriptions.map Description.sheet).map fun sheet =>
      importOne (sheetModule base "DTO" schema (containerName sheet)) (containerName sheet),
      Legible base (fun m names => ∃ d ∈ descriptions, Takes d m names) line := by
    intro line member
    rw [List.map_map] at member
    obtain ⟨d, described, rfl⟩ := List.mem_map.mp member
    obtain ⟨rfl, own⟩ := spelled d described
    exact (legible_containerImport own).mono fun m names taken => ⟨d, described, taken⟩
  have entries : ∀ line ∈ (descriptions.map Description.sheet).map fun sheet =>
      SourceLine.code 2 (Json.quoted sheet ++ ": " ++ containerName sheet ++ ","),
      Legible base (fun m names => ∃ d ∈ descriptions, Takes d m names) line := by
    intro line member
    rw [List.map_map] at member
    obtain ⟨d, described, rfl⟩ := List.mem_map.mp member
    have container := isIdentifier_containerName (spelled d described).2
    refine .code ?_ ?_
    · simp only [withinLine_append]
      exact ⟨⟨⟨withinLine_quoted _, by decide⟩, withinLine_of_isIdentifier container⟩, by decide⟩
    · rw [String.append_assoc, String.append_assoc]
      exact isPlain_quoted d.sheet _
  have quoted {front text : String} (space : ' ' ∈ front.toList) (plain : IsPlain front)
      (within : WithinLine front) : Legible base (fun m names => ∃ d ∈ descriptions, Takes d m names)
        (.code 1 (front ++ Json.quoted text)) :=
    legible_behind 1 space plain within (withinLine_quoted text)
  simp only [exporterModule, List.forall_mem_append, List.forall_mem_cons]
  refine ⟨⟨⟨⟨?_, imports⟩, ?_⟩, entries⟩, ?_⟩
  · exact ⟨legible_banner, legible_library (by decide), .blank, List.forall_mem_nil _⟩
  · refine ⟨.blank, .blank,
      .classHeader (isIdentifier_ending identifier (by decide : "Exporter" ∈ nameEndings)) ?_,
      quoted (by decide) (by decide) (by decide), quoted (by decide) (by decide) (by decide),
      quoted (by decide) (by decide) (by decide), .code (by decide) (by decide), List.forall_mem_nil _⟩
    rintro _ ⟨⟩
    decide
  · exact ⟨.code (by decide) (by decide), List.forall_mem_nil _⟩

/-- An entry of the registry with identifiers for names. -/
def RegistryEntry.IsSpelled (e : RegistryEntry) : Prop :=
  isIdentifier e.schema = true ∧ isIdentifier e.sheet = true

/-- The name that an entry gets in the registry is an identifier, and so is the one it has. -/
theorem RegistryEntry.IsSpelled.registryImport {e : RegistryEntry} (spelled : e.IsSpelled)
    (entries : List RegistryEntry) : (registryImport entries e).IsSpelled := by
  have name := isIdentifier_ending spelled.2 (by decide : "DAO" ∈ nameEndings)
  unfold Emission.registryImport
  split
  · exact ⟨name, isIdentifier_renamed spelled.1 spelled.2⟩
  · exact ⟨name, name⟩

theorem legible_registryModule {entries : List RegistryEntry} (spelled : ∀ e ∈ entries, e.IsSpelled)
    (taken : ∀ e ∈ entries, takes (.accessor e.schema e.sheet) [registryImport entries e]) :
    ∀ line ∈ registryModule base entries, Legible base takes line := by
  have imports : ∀ line ∈ entries.map fun e => SourceLine.importFrom
      (sheetModule base "DAO" e.schema (accessorName e.sheet)) [registryImport entries e],
      Legible base takes line := by
    intro line member
    obtain ⟨e, listed, rfl⟩ := List.mem_map.mp member
    have own := spelled e listed
    exact @legible_sheetImport base takes (.accessor e.schema e.sheet) "DAO" _ _ rfl (by decide) own.1
      (isIdentifier_ending own.2 (by decide : "DAO" ∈ nameEndings)) (own.registryImport entries) (taken e listed)
  have names : ∀ line ∈ entries.map fun e => SourceLine.code 1 ((registryImport entries e).bound ++ ","),
      Legible base takes line := by
    intro line member
    obtain ⟨e, listed, rfl⟩ := List.mem_map.mp member
    have bound := ((spelled e listed).registryImport entries).2
    refine .code ?_ (isPlain_marked bound (by decide : ',' ∉ "classfrom".toList) (by decide))
    rw [withinLine_append]
    exact ⟨withinLine_of_isIdentifier bound, by decide⟩
  simp only [registryModule, List.forall_mem_append, List.forall_mem_cons]
  refine ⟨⟨⟨⟨?_, imports⟩, ?_⟩, names⟩, ?_⟩
  · exact ⟨legible_banner, legible_library (by decide), .blank, List.forall_mem_nil _⟩
  · exact ⟨.blank, .code (by decide) (by decide), List.forall_mem_nil _⟩
  · exact ⟨.code (by decide) (by decide), .blank, .blank, .code (by decide) (by decide),
      .code (by decide) (by decide), List.forall_mem_nil _⟩

/-- The line of a member. -/
def memberLine (m : EnumMember) : SourceLine := .code 1 (m.name ++ " = " ++ integerText m.value)

/-- The lines of an enumeration behind its empty ones. -/
def enumBlock (e : Enumeration) : List SourceLine :=
  .classHeader e.name (some "IntEnum") :: e.members.map memberLine

/-- What an enumeration module starts with. -/
def enumHead (enums : List Enumeration) : List SourceLine :=
  [banner, importOne "enum" "IntEnum", .blank, .code 0 "__all__ = ["] ++
    enums.map (fun e => SourceLine.code 1 (Json.quoted e.name ++ ",")) ++ [SourceLine.code 0 "]"]

/-- The enumerations of a module, each behind two empty lines. -/
def enumBlocks (enums : List Enumeration) : List SourceLine :=
  enums.flatMap fun e => .blank :: .blank :: enumBlock e

theorem enumLines_ok {e : Enumeration} {lines : List SourceLine} (rendered : enumLines e = .ok lines) :
    lines = .blank :: .blank :: enumBlock e := by
  have each {members : List EnumMember} {texts : List SourceLine} (written : members.mapM (fun m =>
      (integerText? m.value).map fun digits => SourceLine.code 1 (m.name ++ " = " ++ digits)) = .ok texts) :
      texts = members.map memberLine := by
    induction members generalizing texts with
    | nil =>
      cases written
      rfl
    | cons m rest inductionHypothesis =>
      obtain ⟨first, others, own, later, rfl⟩ := mapM_cons_eq_ok.mp written
      rw [inductionHypothesis later, List.map_cons]
      unfold integerText? at own
      split at own
      · cases own
        rfl
      · cases own
  obtain ⟨members, written, last⟩ := bind_eq_ok rendered
  cases last
  rw [each written]
  rfl

theorem enumModule_ok {enums : List Enumeration} {lines : List SourceLine}
    (rendered : enumModule enums = .ok lines) :
    lines = enumHead enums ++ enumBlocks enums := by
  have each {enums : List Enumeration} {classes : List (List SourceLine)}
      (written : enums.mapM enumLines = .ok classes) :
      classes.flatten = enumBlocks enums := by
    induction enums generalizing classes with
    | nil =>
      cases written
      rfl
    | cons e rest inductionHypothesis =>
      obtain ⟨first, others, own, later, rfl⟩ := mapM_cons_eq_ok.mp written
      rw [List.flatten_cons, enumBlocks, List.flatMap_cons, inductionHypothesis later, enumLines_ok own,
        enumBlocks]
  obtain ⟨classes, written, last⟩ := bind_eq_ok rendered
  cases last
  rw [each written, enumHead]

/-- An enumeration stands in the module, and an empty line or the end of the module behind it. -/
theorem block_of_enumModule {enums : List Enumeration} {lines : List SourceLine} {e : Enumeration}
    (rendered : enumModule enums = .ok lines) (member : e ∈ enums) :
    ∃ front back, lines = front ++ enumBlock e ++ back ∧ (back = [] ∨ ∃ rest, back = .blank :: rest) := by
  obtain ⟨before, after, rfl⟩ := List.append_of_mem member
  refine ⟨enumHead (before ++ e :: after) ++ enumBlocks before ++ [SourceLine.blank, .blank], enumBlocks after, ?_, ?_⟩
  · rw [enumModule_ok rendered, enumBlocks, List.flatMap_append, List.flatMap_cons, enumBlocks, enumBlocks]
    simp only [List.append_assoc, List.cons_append, List.nil_append]
  · cases after with
    | nil => exact .inl rfl
    | cons next others => exact .inr ⟨_, rfl⟩

theorem legible_enumModule {enums : List Enumeration} {lines : List SourceLine}
    (rendered : enumModule enums = .ok lines) (spelled : ∀ e ∈ enums, SpelledEnum e) :
    ∀ line ∈ lines, Legible base takes line := by
  have exports : ∀ line ∈ enums.map fun e => SourceLine.code 1 (Json.quoted e.name ++ ","),
      Legible base takes line := by
    intro line member
    obtain ⟨e, -, rfl⟩ := List.mem_map.mp member
    refine .code ?_ (isPlain_quoted e.name ",")
    rw [withinLine_append]
    exact ⟨withinLine_quoted e.name, by decide⟩
  have classes : ∀ line ∈ enumBlocks enums, Legible base takes line := by
    intro line member
    obtain ⟨e, inside, among⟩ := List.mem_flatMap.mp member
    obtain ⟨name, members⟩ := spelled e inside
    have each : ∀ line ∈ e.members.map memberLine, Legible base takes line := by
      intro line listed
      obtain ⟨m, own, rfl⟩ := List.mem_map.mp listed
      have identifier := members m own
      refine .code ?_ (isPlain_append ?_ (isPlain_assignment identifier))
      · rw [withinLine_append, withinLine_append]
        exact ⟨⟨withinLine_of_isIdentifier identifier, by decide⟩, withinLine_integerText m.value⟩
      · rw [String.toList_append]
        exact List.mem_append_right m.name.toList (by decide)
    rcases List.mem_cons.mp among with rfl | later
    · exact .blank
    · rcases List.mem_cons.mp later with rfl | block
      · exact .blank
      · rcases List.mem_cons.mp block with rfl | inner
        · refine .classHeader name ?_
          rintro _ ⟨⟩
          decide
        · exact each line inner
  rw [enumModule_ok rendered]
  simp only [enumHead, List.forall_mem_append, List.forall_mem_cons]
  refine ⟨⟨⟨?_, exports⟩, ?_⟩, classes⟩
  · exact ⟨legible_banner, legible_library (by decide), .blank, .code (by decide) (by decide),
      List.forall_mem_nil _⟩
  · exact ⟨.code (by decide) (by decide), List.forall_mem_nil _⟩

end Modules

section ClassNames

variable (base : String) (d : Description)

theorem classNames_append (front back : List SourceLine) :
    classNames (front ++ back) = classNames front ++ classNames back := List.filterMap_append

/-- Lines that are all no classes. -/
theorem classNames_map {α : Type} {line : α → SourceLine} (none : ∀ a, (line a).className? = none)
    (all : List α) : classNames (all.map line) = [] := by
  rw [classNames, List.filterMap_eq_nil_iff]
  intro own member
  obtain ⟨a, -, rfl⟩ := List.mem_map.mp member
  exact none a

theorem classNames_keyImport : classNames (keyImport base d) = [] := by
  unfold keyImport
  split
  · rfl
  · rfl

theorem classNames_recordModule : classNames (recordModule base d) = [recordName d.sheet] := by
  have fields : classNames (d.fields.map fun f => SourceLine.code 1 (fieldText f)) = [] :=
    classNames_map (fun _ => rfl) d.fields
  simp only [recordModule, classNames_append]
  rw [fields]
  split
  · rfl
  · rfl

theorem classNames_containerModule : classNames (containerModule base d) = [containerName d.sheet] := by
  simp only [containerModule, classNames_append]
  rw [classNames_keyImport]
  rfl

theorem classNames_accessorModule (asset : Path) :
    classNames (accessorModule base asset d) = [accessorName d.sheet] := by
  simp only [accessorModule, classNames_append]
  rw [classNames_keyImport]
  rfl

/-- Each block defines one class. -/
theorem classNames_blocks (enums : List Enumeration) :
    classNames (enumBlocks enums) = enums.map Enumeration.name := by
  have block (e : Enumeration) : classNames (.blank :: .blank :: enumBlock e) = [e.name] :=
    congrArg (e.name :: ·) (classNames_map (fun _ => rfl) e.members)
  induction enums with
  | nil => rfl
  | cons e rest inductionHypothesis =>
    rw [enumBlocks, List.flatMap_cons, classNames_append, block, ← enumBlocks, inductionHypothesis]
    rfl

theorem classNames_enumModule {enums : List Enumeration} {lines : List SourceLine}
    (rendered : enumModule enums = .ok lines) : classNames lines = enums.map Enumeration.name := by
  have exports : classNames (enums.map fun e => SourceLine.code 1 (Json.quoted e.name ++ ",")) = [] :=
    classNames_map (fun _ => rfl) enums
  rw [enumModule_ok rendered]
  simp only [enumHead, classNames_append]
  rw [exports, classNames_blocks]
  rfl

end ClassNames

end TypedSheets.Emission

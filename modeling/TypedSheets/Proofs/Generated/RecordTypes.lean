import TypedSheets.Proofs.Generated.ClassFields
import TypedSheets.Proofs.Runtime.Reconstruction

/-!
# The record types of generated modules

The record module of an accepted sheet declares the fields of the sheet with their annotations exactly
when its class keeps their names. What an annotation stands for is then what the field was read as:
nothing hides a primitive type, and an enumeration is imported as it was declared.
-/

namespace TypedSheets

open TypedSheets.Emission TypedSheets.Generated TypedSheets.Grid TypedSheets.Schema TypedSheets.Text

/-- The class of a sheet calls the fields what the sheet calls them. -/
def KeepsNames (d : Description) : Prop :=
  ∀ f ∈ d.fields, nameInClass (recordName d.sheet) f = f.name

/-- The name of a primitive annotation is in normal form, primitive and reserved. -/
theorem primitive_annotation (p : Primitive) :
    normalForm p.annotation = p.annotation ∧ isPrimitive p.annotation = true ∧
      p.annotation ∈ reservedFieldNames := by
  cases p <;> decide

namespace Generated.IsClassOf

variable {w : Workbook} {d : Description} {enums : List Enumeration} {fields : List ClassField}
  {t : RecordType}

/-- The record module imports the enumerations of its sheet. -/
theorem mem_imports (spelled : AreSpelled w d) (described : d ∈ accepted w)
    (module : enumImports d ≠ [] → enums = (typeEnums w).map normalized) {e : Enumeration} :
    e ∈ (enumImports d).filterMap (importEnumeration? enums) ↔ e ∈ d.enumerations := by
  have imports {own : Enumeration} (member : own ∈ d.enumerations) :
      own.name ∈ enumImports d ∧ importEnumeration? enums own.name = some own := by
    have inside : own.name ∈ enumImports d :=
      mem_firstOccurrences.mpr (List.mem_map_of_mem member)
    rw [module (List.ne_nil_of_mem inside)]
    exact ⟨inside, spelled.import_eq described member⟩
  rw [List.mem_filterMap]
  constructor
  · rintro ⟨name, inside, found⟩
    obtain ⟨own, member, rfl⟩ := List.mem_map.mp (mem_firstOccurrences.mp inside)
    rw [(imports member).2] at found
    cases found
    exact member
  · intro member
    exact ⟨e.name, imports member⟩

/-- An enumeration of the sheet is known under its name, -/
theorem import_enumeration (spelled : AreSpelled w d) (described : d ∈ accepted w)
    (module : enumImports d ≠ [] → enums = (typeEnums w).map normalized) {e : Enumeration}
    (member : e ∈ d.enumerations) :
    importEnumeration? ((enumImports d).filterMap (importEnumeration? enums)) e.name = some e := by
  apply importEnumeration?_eq
  · exact (mem_imports spelled described module).mpr member
  · exact spelled.name_eq member
  · intro other inside same
    have own := (mem_imports spelled described module).mp inside
    refine spelled.only e member other (mem_typeEnums described own).1 ?_
    rw [spelled.name_eq own, same]

/-- and no enumeration under the name of a primitive type. -/
theorem import_primitive (spelled : AreSpelled w d) (described : d ∈ accepted w)
    (module : enumImports d ≠ [] → enums = (typeEnums w).map normalized) {name : String}
    (plain : normalForm name = name) (primitive : isPrimitive name = true) :
    importEnumeration? ((enumImports d).filterMap (importEnumeration? enums)) name = none := by
  unfold importEnumeration?
  rw [List.find?_eq_none, plain]
  intro e inside
  have own := (mem_imports spelled described module).mp (List.mem_reverse.mp inside)
  rw [beq_iff_eq]
  rintro rfl
  rw [(mem_typeEnums described own).2.2] at primitive
  cases primitive

/-- An annotation stands for what it names, as long as no field hides a primitive type. -/
theorem kindNamed_normalForm (spelled : AreSpelled w d) (described : d ∈ accepted w)
    (module : enumImports d ≠ [] → enums = (typeEnums w).map normalized)
    (free : ∀ field ∈ fields, field.name ∉ reservedFieldNames) {f : Field} (member : f ∈ d.fields) :
    kindNamed (recordName d.sheet) ((enumImports d).filterMap (importEnumeration? enums)) fields
      (normalForm ( annotation f)) = annotatedKind w f := by
  cases enumeration : f.enumeration with
  | some e =>
    have own : e ∈ d.enumerations := List.mem_filterMap.mpr ⟨f, member, enumeration⟩
    have annotated : annotation f = e.name := by rw [ annotation, enumeration]
    have identifier := (mem_typeEnums described own).2.1
    have word : e.name ∉ reservedWords := by
      simpa [isIdentifier] using (Bool.and_eq_true_iff.mp identifier).2
    have constant : e.name ∉ ["None", "True", "False"] := by
      have constants : ["None", "True", "False"] ⊆ reservedWords := by decide
      exact fun among => word (constants among)
    rw [annotatedKind_eq described member, annotated, spelled.name_eq own, kindNamed,
      import_enumeration spelled described module own, Field.kind, enumeration]
    dsimp only
    rw [if_neg (by simpa [spelled.apart e own] using constant), if_neg (by rwa [List.contains_iff_mem])]
  | none =>
    have primitive := (resolved_of_accepted described).1.primitive f member enumeration
    obtain ⟨p, named⟩ := Option.isSome_iff_exists.mp primitive
    have annotated : annotation f = p.annotation := by
      rw [ annotation, enumeration]
      dsimp only
      rw [named]
      rfl
    obtain ⟨plain, isType, reserved⟩ := primitive_annotation p
    have hidden : fieldNamed? fields p.annotation = none := by
      rw [fieldNamed?, List.find?_eq_none]
      intro field inside
      rw [beq_iff_eq]
      intro same
      exact free field inside (by rwa [same])
    rw [annotatedKind, enumeration, if_neg (by decide), annotated, plain, kindNamed,
      import_primitive spelled described module plain isType, hidden]
    rfl

/-- A record type with the names of the sheet comes from a class that keeps them. -/
theorem keepsNames (isClass : IsClassOf d enums fields t)
    (same : t.fields.map RecordField.name = d.fields.map Field.name) : KeepsNames d := by
  have own : t.fields.map RecordField.name = fields.map ClassField.name := by
    have names := congrArg (List.map Prod.fst) isClass.fields
    rw [List.map_map, List.map_map] at names
    exact names
  rcases classFields_cases isClass.defined with declared | ⟨fewer, _⟩
  · have names := congrArg (List.map Prod.fst) declared
    rw [List.map_nil, List.nil_append, List.map_map, List.map_map] at names
    intro f member
    exact List.map_inj_left.mp (names.symm.trans (own.symm.trans same)) f member
  · have length := congrArg List.length (own.symm.trans same)
    rw [List.length_map, List.length_map] at length
    rw [List.length_nil, length] at fewer
    omega

/-- A class that keeps the names declares what the sheet declares. -/
theorem declares (isClass : IsClassOf d enums fields t) (spelled : AreSpelled w d)
    (described : d ∈ accepted w)
    (module : enumImports d ≠ [] → enums = (typeEnums w).map normalized) (keeps : KeepsNames d) :
    Declares w d t := by
  have resolved := (resolved_of_accepted described).1
  have names : d.fields.map (nameInClass (recordName d.sheet)) = d.fields.map Field.name :=
    List.map_congr_left keeps
  have declared : fields.map ClassField.declared =
      d.fields.map fun f => (f.name, normalForm ( annotation f)) := by
    rcases classFields_cases isClass.defined with declared | ⟨_, repeated⟩
    · rw [List.map_nil, List.nil_append] at declared
      rw [declared]
      refine List.map_congr_left fun f member => ?_
      rw [keeps f member]
    · refine absurd ?_ repeated
      rw [List.map_nil, List.nil_append, names]
      exact resolved.distinct
  have free : ∀ field ∈ fields, field.name ∉ reservedFieldNames := by
    intro field inside
    have present : field.declared ∈ d.fields.map fun f => (f.name, normalForm ( annotation f)) := by
      rw [← declared]
      exact List.mem_map_of_mem inside
    obtain ⟨f, member, same⟩ := List.mem_map.mp present
    rw [← (Prod.mk.inj same).1]
    exact (resolved.names f member).2
  refine ⟨isClass.name, ?_⟩
  have kinds := congrArg (List.map fun entry : String × String => (entry.1,
    kindNamed (recordName d.sheet) ((enumImports d).filterMap (importEnumeration? enums)) fields
      entry.2)) declared
  rw [List.map_map, List.map_map] at kinds
  refine isClass.fields.trans (kinds.trans (List.map_congr_left fun f member => ?_))
  exact congrArg (Prod.mk f.name) (kindNamed_normalForm spelled described module free member)

end Generated.IsClassOf

end TypedSheets

import TypedSheets.Proofs.Export.CellValues
import TypedSheets.Proofs.Export.Coercions
import TypedSheets.Proofs.Runtime.TypedRecords
import TypedSheets.Proofs.Schema.FieldResolution

/-!
# Records and assets are inverse

The record type that is generated for a sheet declares its fields in order, each of the kind that its
annotation stands for. Records that are coerced from the rows of the sheet are made into records of
that type, with members of enumerations in the place of their integers, and stored as they were; and
records of the type are stored and made again. Both fail exactly when a field has the name of a step
in the making of records.
-/

namespace TypedSheets

open TypedSheets.Emission TypedSheets.Grid TypedSheets.Schema TypedSheets.Text

/-- What the name of a primitive annotation stands for. -/
def builtinKind (name : String) : FieldKind :=
  ([("int", FieldKind.int), ("float", .float), ("bool", .truth), ("str", .text)].lookup name).getD .any

/-- What the annotation of a field stands for: an enumeration of the enumeration module, or a
primitive type. -/
def annotatedKind (w : Workbook) (f : Field) : FieldKind :=
  if f.enumeration.isSome then
    (((typeEnums w).find? fun e => e.name == annotation f).map FieldKind.member).getD .any
  else builtinKind ( annotation f)

/-- A record type is the one that is generated for a sheet: it has the name of the record, and the
fields of the sheet in order with their annotations. -/
structure Declares (w : Workbook) (d : Description) (t : RecordType) : Prop where
  name : t.name = recordName d.sheet
  fields : t.fields.map (fun f => (f.name, f.kind)) =
    d.fields.map fun f => (f.name, annotatedKind w f)

/-- How a field carries a stored value: a member of its enumeration with the stored integer, or the
value as it is. -/
inductive Carries (f : Field) : Value → Value → Prop where
  | member (e : Enumeration) (enumeration : f.enumeration = some e) (m : EnumMember)
      (inside : m ∈ e.members) : Carries f (.int m.value) (memberValueOf e m)
  | plain (none : f.enumeration = none) (value : Value) : Carries f value value

/-- The names of primitive annotations stand for the kinds of their families. -/
theorem builtinKind_annotation {f : Field} {p : Primitive} (none : f.enumeration = none)
    (primitive : Primitive.ofName? f.declaredType = some p) :
    builtinKind ( annotation f) = f.kind := by
  rw [ annotation, Field.kind, none]
  dsimp only
  rw [primitive]
  cases p <;> rfl

/-- In an accepted sheet the annotation of a field stands for what the field was read as. -/
theorem annotatedKind_eq {w : Workbook} {d : Description} (described : d ∈ accepted w) {f : Field}
    (member : f ∈ d.fields) : annotatedKind w f = f.kind := by
  cases enumeration : f.enumeration with
  | some e =>
    have found := find?_typeEnums described member enumeration
    have name : annotation f = e.name := by rw [ annotation, enumeration]
    rw [annotatedKind, name, found, Field.kind, enumeration]
    rfl
  | none =>
    have primitive := (resolved_of_accepted described).1.primitive f member enumeration
    obtain ⟨p, named⟩ := Option.isSome_iff_exists.mp primitive
    rw [annotatedKind, enumeration, if_neg (by decide), builtinKind_annotation enumeration named]

/-- A field of a primitive type has the kind of its family. -/
theorem kind_of_hasPrimitive {f : Field} {p : Primitive} (primitive : HasPrimitive f p) :
    f.kind = match p.family with
      | .integer => .int
      | .floating => .float
      | .truth => .truth
      | .text => .text := by
  rw [Field.kind, primitive.plain]
  dsimp only
  rw [ofName?_eq_some_iff.mpr primitive.declared, Option.map_some]
  cases p <;> rfl

/-- The types of texts, integers and floating point numbers are those of three families. -/
theorem family_eq {p : Primitive} : (p ∈ textTypes → p.family = .text) ∧
    (p ∈ integerTypes → p.family = .integer) ∧ (p ∈ floatTypes → p.family = .floating) := by
  cases p <;> decide

/-- A coerced value is the plain value of one that the field may hold. -/
theorem exists_typed {schema sheet : String} {f : Field} {row : DataRow} {stored : Value}
    (coerced : coerceValue schema sheet f row = .ok stored) :
    ∃ typed, HasKind f.kind typed ∧ plainValue typed = stored ∧ Carries f stored typed := by
  cases coerceValue_eq_ok_iff.mp coerced with
  | text primitive isText =>
    rw [kind_of_hasPrimitive primitive, family_eq.1 isText]
    exact ⟨_, .text _, rfl, .plain primitive.plain _⟩
  | @label e m before after enumeration filled members named first =>
    have inside : m ∈ e.members := by
      rw [members]
      exact List.mem_append_right before List.mem_cons_self
    have kind : f.kind = .member e := by rw [Field.kind, enumeration]
    rw [kind]
    exact ⟨memberValueOf e m, .member e m inside, rfl, .member e enumeration m inside⟩
  | integer primitive number holds =>
    rw [kind_of_hasPrimitive primitive, family_eq.2.1 holds.isInteger]
    exact ⟨_, .int _, rfl, .plain primitive.plain _⟩
  | floating primitive isFloat read finite =>
    rw [kind_of_hasPrimitive primitive, family_eq.2.2 isFloat]
    exact ⟨_, .float _, rfl, .plain primitive.plain _⟩
  | truth primitive isWord spelled =>
    rw [kind_of_hasPrimitive primitive]
    exact ⟨_, .truth _, rfl, .plain primitive.plain _⟩

/-- Stored entries and the record that is made of them, field by field. -/
inductive AreTyped : List Field → Entries → Entries → Prop where
  | nil : AreTyped [] [] []
  | cons {f : Field} {stored typed : Value} {fields : List Field} {entries record : Entries}
      (hasKind : HasKind f.kind typed) (plain : plainValue typed = stored)
      (carries : Carries f stored typed) (rest : AreTyped fields entries record) :
      AreTyped (f :: fields) ((f.name, stored) :: entries) ((f.name, typed) :: record)

/-- A coerced row is what some typed record stores. -/
theorem exists_areTyped {schema sheet : String} {row : DataRow} {fields : List Field}
    {entries : Entries}
    (coerced : List.Forall₂ (fun f entry => entry.1 = f.name ∧
      coerceValue schema sheet f row = .ok entry.2) fields entries) :
    ∃ record, AreTyped fields entries record := by
  induction coerced with
  | nil => exact ⟨[], .nil⟩
  | @cons f entry fields entries first _ inductionHypothesis =>
    obtain ⟨name, stored⟩ := entry
    obtain ⟨rfl, value⟩ := first
    obtain ⟨typed, hasKind, plain, carries⟩ := exists_typed value
    obtain ⟨record, rest⟩ := inductionHypothesis
    exact ⟨_, .cons hasKind plain carries rest⟩

namespace AreTyped

variable {fields : List Field} {entries record : Entries}

/-- The record has the kinds of the fields. -/
theorem haveKinds (areTyped : AreTyped fields entries record) {own : List RecordField}
    (same : own.map (fun f => (f.name, f.kind)) = fields.map fun f => (f.name, f.kind)) :
    HaveKinds own record := by
  induction areTyped generalizing own with
  | nil =>
    rw [List.map_nil, List.map_eq_nil_iff] at same
    subst same
    exact .nil
  | cons hasKind _ _ _ inductionHypothesis =>
    cases own with
    | nil => cases same
    | cons f others =>
      obtain ⟨first, rest⟩ := List.cons.inj same
      obtain ⟨name, kind⟩ := Prod.mk.inj first
      refine .cons ⟨name.symm, ?_⟩ (inductionHypothesis rest)
      rw [kind]
      exact hasKind

/-- It is stored as the entries. -/
theorem recordMap_eq (areTyped : AreTyped fields entries record) :
    recordMap record = .map (entries.map fun entry => (.text entry.1, entry.2)) := by
  rw [recordMap]
  congr 1
  induction areTyped with
  | nil => rfl
  | cons _ plain _ _ inductionHypothesis =>
    rw [List.map_cons, List.map_cons, inductionHypothesis, plain]

/-- Both have the names of the fields, -/
theorem names_eq (areTyped : AreTyped fields entries record) :
    entries.map Prod.fst = fields.map Field.name ∧ record.map Prod.fst = fields.map Field.name := by
  induction areTyped with
  | nil => exact ⟨rfl, rfl⟩
  | cons _ _ _ _ inductionHypothesis =>
    rw [List.map_cons, List.map_cons, List.map_cons, inductionHypothesis.1, inductionHypothesis.2]
    exact ⟨rfl, rfl⟩

/-- and each field carries its value. -/
theorem exists_values (areTyped : AreTyped fields entries record) {f : Field} (member : f ∈ fields) :
    ∃ stored typed, (f.name, stored) ∈ entries ∧ (f.name, typed) ∈ record ∧
      Carries f stored typed := by
  induction areTyped with
  | nil => cases member
  | cons _ _ carries _ inductionHypothesis =>
    rcases List.mem_cons.mp member with rfl | later
    · exact ⟨_, _, List.mem_cons_self, List.mem_cons_self, carries⟩
    · obtain ⟨stored, typed, inside, found, holds⟩ := inductionHypothesis later
      exact ⟨stored, typed, List.mem_cons_of_mem _ inside, List.mem_cons_of_mem _ found, holds⟩

end AreTyped

/-- What a record says about the row that it was made of: its fields are those of the sheet, each
carries the stored value, and its key is the value of the first column. -/
structure Rebuilt (d : Description) (entries record : Entries) : Prop where
  names : record.map Prod.fst = d.fields.map Field.name
  values : ∀ f ∈ d.fields, ∃ stored typed, entries.lookup f.name = some stored ∧
    record.lookup f.name = some typed ∧ Carries f stored typed
  key : ∃ stored typed, entries.lookup d.key.name = some stored ∧ askedKey record = .ok typed ∧
    Carries d.key stored typed

/-- The records of a sheet are made into records of a type, one for each row in the order of the
rows, and these are stored as the asset of the sheet again. -/
def Reconstructs (t : RecordType) (d : Description) (records : List Entries) : Prop :=
  ∀ container : ContainerType, container.record = some t →
    ∃ rebuilt, container.fromAsset (sheetAsset d.sheet records).toValue = .ok rebuilt ∧
      rebuilt.records.length = d.rows.length ∧ List.Forall₂ (Rebuilt d) records rebuilt.records ∧
      rebuilt.toAsset container d.sheet = .ok (sheetAsset d.sheet records).toValue

/-- The records of a container are stored under a name and made again. -/
def Returns (t : RecordType) (c : Container) (name : String) : Prop :=
  ∀ container : ContainerType, container.record = some t →
    ∃ payload rebuilt, c.toAsset container name = .ok payload ∧
      container.fromAsset payload = .ok rebuilt ∧ rebuilt.records = c.records

/-- A typed record is rebuilt from its entries. -/
theorem AreTyped.rebuilt {d : Description} {entries record : Entries}
    (areTyped : AreTyped d.fields entries record) (distinct : (d.fields.map Field.name).Nodup)
    (free : ∀ f ∈ d.fields, f.name ∉ reservedFieldNames) : Rebuilt d entries record := by
  obtain ⟨stored, typed⟩ := areTyped.names_eq
  have storedDistinct : (entries.map Prod.fst).Nodup := by
    rw [stored]
    exact distinct
  have typedDistinct : (record.map Prod.fst).Nodup := by
    rw [typed]
    exact distinct
  have values : ∀ f ∈ d.fields, ∃ stored typed, entries.lookup f.name = some stored ∧
      record.lookup f.name = some typed ∧ Carries f stored typed := by
    intro f member
    obtain ⟨stored, typed, inside, found, carries⟩ := areTyped.exists_values member
    exact ⟨stored, typed, NamedList.lookup_of_distinct storedDistinct inside,
      NamedList.lookup_of_distinct typedDistinct found, carries⟩
  refine ⟨typed, values, ?_⟩
  have notAsked : record.lookup "get_key" = none := by
    rw [List.lookup_eq_none_iff]
    intro entry inside
    rw [bne_iff_ne]
    intro same
    have present : entry.1 ∈ d.fields.map Field.name := by
      rw [← typed]
      exact List.mem_map_of_mem inside
    obtain ⟨f, member, name⟩ := List.mem_map.mp present
    refine free f member ?_
    rw [name, ← same]
    decide
  obtain ⟨keyStored, keyTyped, found, foundTyped, carries⟩ := values d.key List.mem_cons_self
  refine ⟨keyStored, keyTyped, found, ?_, carries⟩
  rw [askedKey, notAsked]
  dsimp only
  cases areTyped with
  | cons _ _ _ _ =>
    rw [List.lookup_cons, beq_self_eq_true] at foundTyped
    cases foundTyped
    rfl

/-- The records of a sheet are what typed records store. -/
theorem exists_typedRecords {d : Description} {records : List Entries}
    (built : buildRecords d = .ok records) :
    ∃ typed, List.Forall₂ (AreTyped d.fields) records typed := by
  have rows := coerceRows_ok built
  clear built
  generalize d.rows = all at rows
  induction rows with
  | nil => exact ⟨[], .nil⟩
  | cons first _ inductionHypothesis =>
    obtain ⟨record, areTyped⟩ := exists_areTyped (coerceRow_ok first)
    obtain ⟨typed, rest⟩ := inductionHypothesis
    exact ⟨record :: typed, .cons areTyped rest⟩

namespace Declares

variable {w : Workbook} {d : Description} {t : RecordType}

/-- The kinds of a declared type are those that the fields were read as. -/
theorem kinds_eq (declares : Declares w d t) (described : d ∈ accepted w) :
    t.fields.map (fun f => (f.name, f.kind)) = d.fields.map fun f => (f.name, f.kind) := by
  rw [declares.fields]
  refine List.map_congr_left fun f member => ?_
  rw [annotatedKind_eq described member]

theorem names_eq (declares : Declares w d t) :
    t.fields.map RecordField.name = d.fields.map Field.name := by
  have names := congrArg (List.map Prod.fst) declares.fields
  rw [List.map_map, List.map_map] at names
  exact names

theorem distinct (declares : Declares w d t) (described : d ∈ accepted w) :
    (t.fields.map RecordField.name).Nodup := by
  rw [declares.names_eq]
  exact (resolved_of_accepted described).1.distinct

/-- A field of the type is called exactly when a field of the sheet has such a name. -/
theorem free_iff (declares : Declares w d t) :
    (∀ f ∈ t.fields, f.name ∉ hookNames) ↔ ∀ f ∈ d.fields, f.name ∉ hookNames := by
  have own : (∀ f ∈ t.fields, f.name ∉ hookNames) ↔
      ∀ name ∈ t.fields.map RecordField.name, name ∉ hookNames := by
    simp only [List.forall_mem_map]
  have sheet : (∀ f ∈ d.fields, f.name ∉ hookNames) ↔
      ∀ name ∈ d.fields.map Field.name, name ∉ hookNames := by
    simp only [List.forall_mem_map]
  rw [own, sheet, declares.names_eq]

end Declares

/-- The asset of a sheet stores its typed records. -/
theorem toValue_eq {d : Description} {records typed : List Entries}
    (areTyped : List.Forall₂ (AreTyped d.fields) records typed) :
    (sheetAsset d.sheet records).toValue =
      .map [(.text "name", .text d.sheet), (.text "record_type", .text (recordName d.sheet)),
        (.text "list", .list (typed.map recordMap))] := by
  have list : (records.map fun entries =>
      Value.map (entries.map fun entry => (.text entry.1, entry.2))) = typed.map recordMap := by
    induction areTyped with
    | nil => rfl
    | cons first _ inductionHypothesis =>
      rw [List.map_cons, List.map_cons, inductionHypothesis, first.recordMap_eq]
  rw [Asset.toValue, sheetAsset, list]
  rfl

/-- The records of a sheet are reconstructed exactly when there are none or no field is called. -/
theorem Declares.reconstructs_iff {w : Workbook} {d : Description} {t : RecordType}
    (declares : Declares w d t) (described : d ∈ accepted w) {records : List Entries}
    (built : buildRecords d = .ok records) :
    Reconstructs t d records ↔ records = [] ∨ ∀ f ∈ d.fields, f.name ∉ hookNames := by
  have resolved := (resolved_of_accepted described).1
  have distinct := declares.distinct described
  obtain ⟨typed, areTyped⟩ := exists_typedRecords built
  have hasType : ∀ record ∈ typed, HasType t record := by
    intro record member
    obtain ⟨entries, _, own⟩ := exists_of_forall₂ areTyped member
    exact own.haveKinds (declares.kinds_eq described)
  have empty : typed = [] ↔ records = [] := by
    rw [← List.length_eq_zero_iff, ← List.length_eq_zero_iff, areTyped.length_eq]
  constructor
  · intro reconstructs
    by_contra hooked
    rw [← empty, ← declares.free_iff] at hooked
    have bound : (ContainerType.mk (containerName d.sheet) (some t)).record = some t := rfl
    obtain ⟨rebuilt, made, _⟩ := reconstructs _ bound
    obtain ⟨e, failed⟩ := ContainerType.fromAsset_error bound distinct hasType
      (.text d.sheet) (.text (recordName d.sheet)) hooked
    rw [toValue_eq areTyped, failed] at made
    cases made
  · intro free container bound
    rw [← empty, ← declares.free_iff] at free
    have made := ContainerType.fromAsset_records bound distinct hasType
      (.text d.sheet) (.text (recordName d.sheet)) free
    rw [← toValue_eq areTyped] at made
    refine ⟨_, made, ?_, ?_, ?_⟩
    · exact areTyped.length_eq.symm.trans (length_of_buildRecords built)
    · exact areTyped.imp fun _ _ own => own.rebuilt resolved.distinct fun f member =>
        (resolved.names f member).2
    · rw [Container.toAsset, bound, toValue_eq areTyped, ← declares.name]

/-- The records of a container are made again exactly when there are none or no field of their type is
called. -/
theorem returns_iff {t : RecordType} (distinct : (t.fields.map RecordField.name).Nodup)
    {c : Container} (typed : ∀ record ∈ c.records, HasType t record) (name : String) :
    Returns t c name ↔ c.records = [] ∨ ∀ f ∈ t.fields, f.name ∉ hookNames := by
  have stored (container : ContainerType) (bound : container.record = some t) :
      c.toAsset container name = .ok (.map [(.text "name", .text name),
        (.text "record_type", .text t.name), (.text "list", .list (c.records.map recordMap))]) := by
    rw [Container.toAsset, bound]
  constructor
  · intro returns
    by_contra hooked
    have bound : (ContainerType.mk c.typeName (some t)).record = some t := rfl
    obtain ⟨payload, rebuilt, asset, made, _⟩ := returns _ bound
    obtain ⟨e, failed⟩ := ContainerType.fromAsset_error bound distinct typed
      (.text name) (.text t.name) hooked
    rw [stored _ bound] at asset
    cases asset
    rw [failed] at made
    cases made
  · intro free container bound
    exact ⟨_, _, stored container bound, ContainerType.fromAsset_records bound distinct typed
      (.text name) (.text t.name) free, rfl⟩

/-- Without records there is nothing to rebuild. -/
theorem reconstructs_nil {t : RecordType} {d : Description} (name : t.name = recordName d.sheet)
    (built : buildRecords d = .ok []) : Reconstructs t d [] := by
  intro container bound
  refine ⟨_, ContainerType.fromAsset_list _ _ [], length_of_buildRecords built, .nil, ?_⟩
  rw [Container.toAsset, bound]
  dsimp only
  rw [name]
  rfl

/-- Records can only be rebuilt by a type with the names of the sheet. -/
theorem names_of_reconstructs {t : RecordType} {d : Description} {records : List Entries}
    (reconstructs : Reconstructs t d records) (some : records ≠ []) :
    t.fields.map RecordField.name = d.fields.map Field.name := by
  have bound : (ContainerType.mk (containerName d.sheet) (.some t)).record = .some t := rfl
  obtain ⟨rebuilt, made, _, each, _⟩ := reconstructs _ bound
  have names := ContainerType.names_of_fromAsset bound made
  generalize rebuilt.records = all at each names
  cases each with
  | nil => exact absurd rfl some
  | cons first _ => exact (names _ List.mem_cons_self).symm.trans first.names

end TypedSheets

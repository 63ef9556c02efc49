import TypedSheets.Proofs.Schema.AcceptedSheets
import TypedSheets.Proofs.Schema.EnumTables

/-!
# What the fields of an accepted sheet refer to

Columns are read one after another, and each keeps an invariant: names stay apart, a field without
enumeration has a primitive type, and an enumeration of a field is declared by the body of a field or
by the file. As the bodies of an accepted sheet agree with the file, each of its enumerations is the
one that the file has under its name.
-/

namespace TypedSheets.Schema

open TypedSheets.Emission TypedSheets.Grid TypedSheets.Text

/-- Some field declares an enumeration by its own body. -/
def IsDeclaredBy (fields : List Field) (e : Enumeration) : Prop :=
  ∃ f ∈ fields, f.enumeration = some e ∧ f.enumBody ≠ ""

/-- Fields that are read against the enumerations of a file. -/
structure AreResolved (known : EnumTable) (fields : List Field) : Prop where
  distinct : (fields.map Field.name).Nodup
  names : ∀ f ∈ fields, isIdentifier f.name = true ∧ f.name ∉ reservedFieldNames
  primitive : ∀ f ∈ fields, f.enumeration = none → isPrimitive f.declaredType = true
  typeName : ∀ f ∈ fields, ∀ e, f.enumeration = some e → e.name = f.declaredType
  declared : ∀ f ∈ fields, ∀ e, f.enumeration = some e →
    IsDeclaredBy fields e ∨ known.lookup e.name = some e

/-- The invariant of reading columns. -/
structure IsReading (known : EnumTable) (read : ColumnsRead) : Prop where
  fields : AreResolved known read.fields
  table : IsEnumTable read.enums
  bodies : ∀ entry ∈ read.enums, IsDeclaredBy read.fields entry.2

theorem IsReading.empty (known : EnumTable) : IsReading known {} := by
  refine ⟨⟨List.nodup_nil, ?_, ?_, ?_, ?_⟩, .empty, ?_⟩
  · intro f member
    cases member
  · intro f member
    cases member
  · intro f member
    cases member
  · intro f member
    cases member
  · intro entry member
    cases member

theorem IsDeclaredBy.append {fields : List Field} {e : Enumeration} (declared : IsDeclaredBy fields e)
    (f : Field) : IsDeclaredBy (fields ++ [f]) e := by
  obtain ⟨own, member, enumeration, body⟩ := declared
  exact ⟨own, List.mem_append_left _ member, enumeration, body⟩

/-- A field with a new name that refers to what is declared. -/
theorem AreResolved.append {known : EnumTable} {fields : List Field} {f : Field}
    (resolved : AreResolved known fields) (fresh : fields.any (fun other => other.name == f.name) = false)
    (name : isIdentifier f.name = true ∧ f.name ∉ reservedFieldNames)
    (primitive : f.enumeration = none → isPrimitive f.declaredType = true)
    (typeName : ∀ e, f.enumeration = some e → e.name = f.declaredType)
    (declared : ∀ e, f.enumeration = some e →
      IsDeclaredBy (fields ++ [f]) e ∨ known.lookup e.name = some e) :
    AreResolved known (fields ++ [f]) := by
  refine ⟨?_, ?_, ?_, ?_, ?_⟩
  · rw [List.map_append, List.nodup_append]
    refine ⟨resolved.distinct, by simp, ?_⟩
    intro a left b right same
    simp only [List.map_cons, List.map_nil, List.mem_singleton] at right
    subst same right
    obtain ⟨other, member, equal⟩ := List.mem_map.mp left
    rw [List.any_eq_false] at fresh
    exact fresh other member (by simpa using equal)
  · intro other member
    rcases List.mem_append.mp member with inside | last
    · exact resolved.names other inside
    · obtain rfl := List.mem_singleton.mp last
      exact name
  · intro other member
    rcases List.mem_append.mp member with inside | last
    · exact resolved.primitive other inside
    · obtain rfl := List.mem_singleton.mp last
      exact primitive
  · intro other member
    rcases List.mem_append.mp member with inside | last
    · exact resolved.typeName other inside
    · obtain rfl := List.mem_singleton.mp last
      exact typeName
  · intro other member e enumeration
    rcases List.mem_append.mp member with inside | last
    · exact (resolved.declared other inside e enumeration).imp (fun own => own.append f) id
    · obtain rfl := List.mem_singleton.mp last
      exact declared e enumeration

/-- A body declares an enumeration when its type may be one, the body reads, and the type stands for
nothing else. -/
theorem declaredEnum_eq_ok {schema : String} {sheet : Sheet} {column : Int} {declared body : String}
    {enums : EnumTable} {e : Enumeration} :
    declaredEnum schema sheet column declared body enums = .ok e ↔
      isIdentifier declared = true ∧ isPrimitive declared = false ∧ readEnumBody declared body = .ok e ∧
        ∀ other, enums.lookup declared = some other → other = e := by
  unfold declaredEnum
  split
  · next bad =>
    refine iff_of_false (by rintro ⟨⟩) fun ⟨identifier, free, _⟩ => ?_
    rw [identifier, free] at bad
    cases bad
  · next good =>
    simp only [Bool.or_eq_true, Bool.not_eq_true', not_or, Bool.not_eq_false, Bool.not_eq_true] at good
    rw [and_iff_right good.1, and_iff_right good.2]
    cases readEnumBody declared body with
    | error cause => exact iff_of_false (by rintro ⟨⟩) (by rintro ⟨⟨⟩, -⟩)
    | ok own =>
      cases enums.lookup declared with
      | none => simp
      | some previous =>
        dsimp only
        split
        · next same =>
          subst same
          simp
        · next differ =>
          refine iff_of_false (by rintro ⟨⟩) ?_
          rintro ⟨⟨⟩, agrees⟩
          exact differ (agrees previous rfl)

/-- An enumeration that a column declares is read under the name of its type, which is free. -/
theorem declaredEnum_ok {schema : String} {sheet : Sheet} {column : Int} {declared body : String}
    {enums : EnumTable} {e : Enumeration}
    (read : declaredEnum schema sheet column declared body enums = .ok e) :
    IsReadAs declared e ∧ isIdentifier declared = true ∧ isPrimitive declared = false ∧
      (enums.lookup declared = none ∨ enums.lookup declared = some e) := by
  obtain ⟨typed, free, bodyRead, agrees⟩ := declaredEnum_eq_ok.mp read
  refine ⟨⟨body, bodyRead⟩, typed, free, ?_⟩
  cases found : enums.lookup declared with
  | none => exact .inl rfl
  | some other => exact .inr (by rw [agrees other found])

/-- What reading a column adds: a field that declares an enumeration, one of a primitive type, or one
that refers to an enumeration of an earlier column or of the file. -/
inductive ReadsColumn (known : EnumTable) (read : ColumnsRead) (f : Field) : ColumnsRead → Prop where
  | declares (e : Enumeration) (enumeration : f.enumeration = some e) (body : f.enumBody ≠ "")
      (enums : EnumTable) (bodyRead : IsReadAs f.declaredType e)
      (typeName : isIdentifier f.declaredType = true ∧ isPrimitive f.declaredType = false)
      (kept : enums = read.enums ∨
        read.enums.lookup f.declaredType = none ∧ enums = read.enums ++ [(f.declaredType, e)]) :
      ReadsColumn known read f ⟨read.fields ++ [f], enums⟩
  | plain (none : f.enumeration = none) (primitive : isPrimitive f.declaredType = true) :
      ReadsColumn known read f ⟨read.fields ++ [f], read.enums⟩
  | refers (e : Enumeration) (enumeration : f.enumeration = some e)
      (found : (f.declaredType, e) ∈ read.enums ∨ known.lookup f.declaredType = some e) :
      ReadsColumn known read f ⟨read.fields ++ [f], read.enums⟩

/-- The field of a column. -/
def columnField (sheet : Sheet) (column : Int) (enumeration : Option Enumeration)
    (enumBody : String) : Field :=
  { name := trim (sheet.value nameRow column), column,
    declaredType := trim (sheet.value typeRow column),
    comment := trim (sheet.value commentRow column), enumeration, enumBody }

/-- A column that is read adds a field with a new name that is an identifier and not reserved. -/
theorem readColumn_ok {schema : String} {sheet : Sheet} {known : EnumTable}
    {read after : ColumnsRead} {column : Int}
    (ran : readColumn schema sheet known read column = .ok after) :
    ∃ f, isIdentifier f.name = true ∧ f.name ∉ reservedFieldNames ∧
      read.fields.any (fun other => other.name == f.name) = false ∧ ReadsColumn known read f after := by
  unfold readColumn at ran
  dsimp only at ran
  split at ran
  · cases ran
  · next identifier =>
    split at ran
    · cases ran
    · next fresh =>
      split at ran
      · cases ran
      · next free =>
        have name : isIdentifier (trim (sheet.value nameRow column)) = true := by simpa using identifier
        have notReserved : trim (sheet.value nameRow column) ∉ reservedFieldNames := by
          simpa using free
        split at ran
        · next written =>
          split at ran
          · cases ran
          · next e declared =>
            obtain ⟨bodyRead, typeName, typeFree, -⟩ := declaredEnum_ok declared
            cases ran
            refine ⟨columnField sheet column (some e) (sheet.value enumRow column), name, notReserved,
              Bool.eq_false_iff.mpr fresh, .declares e rfl ?_ _ bodyRead ⟨typeName, typeFree⟩ ?_⟩
            · intro empty
              rw [show sheet.value enumRow column = "" from empty] at written
              exact absurd written (by decide)
            · split
              · exact .inl rfl
              · next absent => exact .inr ⟨Option.not_isSome_iff_eq_none.mp absent, rfl⟩
        · split at ran
          · next primitive =>
            cases ran
            exact ⟨columnField sheet column none (sheet.value enumRow column), name, notReserved,
              Bool.eq_false_iff.mpr fresh, .plain rfl primitive⟩
          · split at ran
            · cases ran
            · next e found =>
              cases ran
              refine ⟨columnField sheet column (some e) "", name, notReserved,
                Bool.eq_false_iff.mpr fresh, .refers e rfl ?_⟩
              exact (Option.or_eq_some_iff.mp found).imp mem_of_lookup fun file => file.2

/-- Reading one more column keeps the invariant. -/
theorem IsReading.readColumn {schema : String} {sheet : Sheet} {known : EnumTable}
    {read after : ColumnsRead} {column : Int} (reading : IsReading known read)
    (isTable : IsEnumTable known)
    (ran : readColumn schema sheet known read column = .ok after) : IsReading known after := by
  obtain ⟨f, identifier, free, fresh, reads⟩ := readColumn_ok ran
  have resolve := reading.fields.append fresh ⟨identifier, free⟩
  have bodies (entry : String × Enumeration) (member : entry ∈ read.enums) :
      IsDeclaredBy (read.fields ++ [f]) entry.2 := (reading.bodies entry member).append f
  have last : f ∈ read.fields ++ [f] := List.mem_append_right _ List.mem_cons_self
  cases reads with
  | declares e enumeration body enums bodyRead typeName kept =>
    have declared : IsDeclaredBy (read.fields ++ [f]) e := ⟨f, last, enumeration, body⟩
    refine ⟨resolve (fun none => ?_) (fun own same => ?_) fun own same => ?_, ?_,
      fun entry member => ?_⟩
    · rw [enumeration] at none
      cases none
    · rw [enumeration] at same
      cases same
      exact bodyRead.name_eq
    · rw [enumeration] at same
      cases same
      exact .inl declared
    · rcases kept with rfl | ⟨absent, rfl⟩
      · exact reading.table
      · exact reading.table.append absent bodyRead typeName.1 typeName.2
    · rcases kept with rfl | ⟨absent, rfl⟩
      · exact bodies entry member
      · rcases List.mem_append.mp member with inside | new
        · exact bodies entry inside
        · obtain rfl := List.mem_singleton.mp new
          exact declared
  | plain none primitive =>
    refine ⟨resolve (fun _ => primitive) (fun own same => ?_) fun own same => ?_, reading.table,
      bodies⟩
    · rw [none] at same
      cases same
    · rw [none] at same
      cases same
  | refers e enumeration found =>
    refine ⟨resolve (fun none => ?_) (fun own same => ?_) fun own same => ?_, reading.table, bodies⟩
    · rw [enumeration] at none
      cases none
    · rw [enumeration] at same
      cases same
      rcases found with earlier | file
      · exact (reading.table.read _ earlier).name_eq
      · exact isTable.lookup_name file
    · rw [enumeration] at same
      cases same
      rcases found with earlier | file
      · exact .inl (bodies _ earlier)
      · exact .inr (by rw [isTable.lookup_name file]; exact file)

/-- So do all columns of a sheet. -/
theorem isReading_columns {schema : String} {sheet : Sheet} {known : EnumTable}
    (isTable : IsEnumTable known) (columns : List Int) {read after : ColumnsRead}
    (reading : IsReading known read)
    (ran : columns.foldlM (readColumn schema sheet known) read = .ok after) :
    IsReading known after := by
  induction columns generalizing read with
  | nil =>
    cases ran
    exact reading
  | cons column rest inductionHypothesis =>
    rw [List.foldlM_cons] at ran
    obtain ⟨middle, first, further⟩ := bind_eq_ok ran
    exact inductionHypothesis (reading.readColumn isTable first) further

/-- The fields of an accepted description are resolved, and the enumeration of each is the one that
the file has under its name. -/
theorem resolved_of_accepted {w : Workbook} {d : Description} (described : d ∈ accepted w) :
    AreResolved (collectEnums w) d.fields ∧
      ∀ f ∈ d.fields, ∀ e, f.enumeration = some e → (collectEnums w).lookup e.name = some e := by
  obtain ⟨sheet, _, interpreted⟩ := mem_accepted.mp described
  obtain ⟨accepts, agreed⟩ := accepts_of_interpretIn interpreted
  obtain ⟨enums, columns⟩ := accepts.columns
  have resolved : AreResolved (collectEnums w) d.fields :=
    (isReading_columns (isEnumTable_collectEnums w) _ (.empty _) columns).fields
  refine ⟨resolved, fun f member e enumeration => ?_⟩
  rcases resolved.declared f member e enumeration with ⟨own, inside, same, body⟩ | known
  · unfold conflictingField? at agreed
    have agrees := List.find?_eq_none.mp agreed own inside
    simpa [same, body] using agrees
  · exact known

/-- Accepted sheets add nothing to the enumerations that the file declares. -/
theorem emittedEnums_accepted {w : Workbook} {descriptions : List Description}
    (described : ∀ d ∈ descriptions, d ∈ accepted w) :
    emittedEnums ((collectEnums w).map Prod.snd) descriptions = (collectEnums w).map Prod.snd := by
  apply emittedEnums_eq
  intro d chosen e own
  obtain ⟨f, member, enumeration⟩ := List.mem_filterMap.mp own
  have found := (resolved_of_accepted (described d chosen)).2 f member e enumeration
  rw [List.any_map]
  exact List.any_eq_true.mpr ⟨_, mem_of_lookup found, by simp⟩

/-- The enumerations that the enumeration module of a workbook emits. -/
def typeEnums (w : Workbook) : List Enumeration :=
  emittedEnums ((collectEnums w).map Prod.snd) (accepted w)

/-- They are those that the workbook declares. -/
theorem typeEnums_eq (w : Workbook) : typeEnums w = (collectEnums w).map Prod.snd :=
  emittedEnums_accepted fun _ described => described

/-- The enumeration module defines each enumeration of the file once. -/
theorem nodup_typeEnums (w : Workbook) : ((typeEnums w).map Enumeration.name).Nodup := by
  have isTable := isEnumTable_collectEnums w
  have names : ((collectEnums w).map Prod.snd).map Enumeration.name = (collectEnums w).map Prod.fst := by
    rw [List.map_map]
    apply List.map_congr_left
    intro entry member
    exact (isTable.read entry member).name_eq
  rw [typeEnums_eq, names]
  exact isTable.distinct

/-- What the enumeration module of the file holds for a field is the enumeration of the field. -/
theorem find?_typeEnums {w : Workbook} {d : Description} (described : d ∈ accepted w) {f : Field}
    (member : f ∈ d.fields) {e : Enumeration} (enumeration : f.enumeration = some e) :
    (typeEnums w).find? (fun other => other.name == e.name) = some e := by
  rw [typeEnums_eq]
  exact find?_of_lookup (isEnumTable_collectEnums w)
    ((resolved_of_accepted described).2 f member e enumeration)

end TypedSheets.Schema

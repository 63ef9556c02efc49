import TypedSheets.Proofs.Schema.ColumnReading
import TypedSheets.Proofs.Schema.EnumNamespace

/-!
# The row convention

What the rows of a sheet mean is fixed, and a sheet is accepted exactly when it keeps to it. The convention
is said of the texts of the sheet, column by column, without the order in which the columns are read. Its
main statement is `interpretSheet_convention`, which also says what an accepted sheet is described as.
-/

namespace TypedSheets.Schema

open TypedSheets.Grid TypedSheets.Text

/-- What is required of a sheet. -/
structure FollowsConvention (known : EnumTable) (s : Sheet) : Prop where
  sheetName : isIdentifier s.name = true
  paired : ∀ column, IsFilled s nameRow column ↔ IsFilled s typeRow column
  key : IsFilled s nameRow keyColumn
  names : ∀ column, IsFilled s nameRow column →
    isIdentifier (fieldName s column) = true ∧ fieldName s column ∉ reservedFieldNames
  distinct : ∀ a b, IsFilled s nameRow a → IsFilled s nameRow b → fieldName s a = fieldName s b → a = b
  bodies : ∀ column, IsFilled s nameRow column → IsFilled s enumRow column →
    isIdentifier (typeName s column) = true ∧ isPrimitive (typeName s column) = false ∧
      ∃ e, bodyOf s column = .ok e
  agree : ∀ a b e f, Declares s a e → Declares s b f → typeName s a = typeName s b → e = f
  types : ∀ column, IsFilled s nameRow column → ¬IsFilled s enumRow column →
    isPrimitive (typeName s column) = true ∨ (∃ e, DeclaredBefore s column e) ∨
      ∃ e, known.lookup (typeName s column) = some e
  apart : ∀ a b e, IsFilled s nameRow a → IsFilled s nameRow b → Uses known s b e →
    fieldName s a ≠ e.name

/-- What an accepted sheet is described as: the named columns from left to right, the first of which is the
key, and the rows in which one of them is filled. -/
structure Describes (schema : String) (known : EnumTable) (s : Sheet) (d : Description) : Prop where
  file : d.schema = schema
  sheet : d.sheet = s.name
  ascending : (d.fields.map Field.column).Pairwise (· < ·)
  columns : ∀ column, column ∈ d.fields.map Field.column ↔ IsFilled s nameRow column
  key : d.key.column = keyColumn
  fields : ∀ f ∈ d.fields, IsFieldOf known s f.column f
  inOrder : (d.rows.map DataRow.number).Pairwise (· < ·)
  numbers : ∀ row, row ∈ d.rows.map DataRow.number ↔
    firstDataRow ≤ row ∧ ∃ column, IsFilled s nameRow column ∧ IsFilled s row column
  values : ∀ row ∈ d.rows, row.values = d.fields.map fun f => (f.name, s.value row.number f.column)

section Header

variable {schema : String} {s : Sheet}

/-- A check of each element ends well when no element is bad. -/
theorem forIn_refusals_eq_ok {α ε : Type} (bad : α → Bool) (refusal : α → Except ε PUnit)
    (refuses : ∀ a, ∃ e, refusal a = .error e) (all : List α) :
    (forIn all PUnit.unit fun a _ =>
      if bad a then do refusal a; pure (.yield PUnit.unit) else pure (.yield PUnit.unit)) =
        (.ok PUnit.unit : Except ε PUnit) ↔ ∀ a ∈ all, bad a = false := by
  induction all with
  | nil => exact iff_of_true rfl fun a member => absurd member List.not_mem_nil
  | cons a rest inductionHypothesis =>
    rw [List.forIn_cons, List.forall_mem_cons]
    cases wrong : bad a with
    | false =>
      rw [if_neg Bool.false_ne_true]
      exact inductionHypothesis.trans (and_iff_right rfl).symm
    | true =>
      obtain ⟨e, refused⟩ := refuses a
      rw [if_pos rfl, refused]
      exact iff_of_false (by rintro ⟨⟩) (by rintro ⟨⟨⟩, -⟩)

/-- Two checks end well when both do. -/
theorem bind_unit_eq_ok {α ε : Type} {first : Except ε PUnit} {second : Except ε α} {a : α} :
    (first >>= fun _ => second) = .ok a ↔ first = .ok PUnit.unit ∧ second = .ok a := by
  cases first with
  | ok u => exact (and_iff_right rfl).symm
  | error e => exact iff_of_false (by rintro ⟨⟩) (by rintro ⟨⟨⟩, -⟩)

/-- A header passes when every name has a type, every type has a name, and the key has both. -/
theorem checkHeader_eq_ok : checkHeader schema s (populatedColumns s nameRow)
    (populatedColumns s typeRow) = .ok () ↔
      IsFilled s nameRow keyColumn ∧ ∀ column, IsFilled s nameRow column ↔ IsFilled s typeRow column := by
  have filled (row column : Int) : (!(populatedColumns s row).contains column) = false ↔
      IsFilled s row column := by
    rw [Bool.not_eq_false', List.contains_iff_mem, mem_populatedColumns, IsFilled]
  have names := forIn_refusals_eq_ok (fun column => !(populatedColumns s typeRow).contains column)
    (fun column => refuse schema s (.untypedField (trim (s.value nameRow column))) typeRow column)
    (fun _ => ⟨_, rfl⟩) (populatedColumns s nameRow)
  have types := forIn_refusals_eq_ok (fun column => !(populatedColumns s nameRow).contains column)
    (fun column => refuse schema s .unnamedType nameRow column)
    (fun _ => ⟨_, rfl⟩) (populatedColumns s typeRow)
  simp only [filled, mem_populatedColumns] at names types
  have pairs : (∀ column, IsFilled s nameRow column ↔ IsFilled s typeRow column) ↔
      (∀ column, IsFilled s nameRow column → IsFilled s typeRow column) ∧
        ∀ column, IsFilled s typeRow column → IsFilled s nameRow column :=
    ⟨fun both => ⟨fun column => (both column).mp, fun column => (both column).mpr⟩,
      fun both column => ⟨both.1 column, both.2 column⟩⟩
  unfold checkHeader
  dsimp only
  split
  · next missing =>
    refine iff_of_false (by rintro ⟨⟩) fun passes => ?_
    rw [(filled nameRow keyColumn).mpr passes.1] at missing
    cases missing
  · next present =>
    rw [bind_unit_eq_ok, bind_unit_eq_ok, names, types, pairs]
    rw [Bool.not_eq_true, filled] at present
    exact ⟨fun both => ⟨present, both.1, both.2.1⟩, fun all => ⟨all.2.1, all.2.2, rfl⟩⟩

end Header

section Convention

variable {schema : String} {known : EnumTable} {s : Sheet} {d : Description} {column : Int}

/-- The columns of a sheet that keeps to the convention fit. -/
theorem FollowsConvention.fits (follows : FollowsConvention known s) (named : IsFilled s nameRow column) :
    ColumnFits known s column := by
  obtain ⟨identifier, free⟩ := follows.names column named
  refine ⟨⟨identifier, ?_, free⟩, ?_, follows.types column named⟩
  · intro other before filled same
    exact absurd (follows.distinct other column filled named same) (ne_of_lt before)
  · intro written
    obtain ⟨typed, notPrimitive, e, read⟩ := follows.bodies column named written
    refine ⟨typed, notPrimitive, e, read, ?_⟩
    rintro earlier ⟨other, _, declares, same⟩
    exact follows.agree other column earlier e declares ⟨named, written, read⟩ same

/-- And a sheet keeps to the convention when all its columns fit. -/
theorem followsConvention_of_fits (sheetName : isIdentifier s.name = true)
    (header : IsFilled s nameRow keyColumn ∧ ∀ column, IsFilled s nameRow column ↔ IsFilled s typeRow column)
    (fits : ∀ column, IsFilled s nameRow column → ColumnFits known s column)
    (apart : ∀ a b e, IsFilled s nameRow a → IsFilled s nameRow b → Uses known s b e →
      fieldName s a ≠ e.name) : FollowsConvention known s := by
  have agree : ∀ a b e f, a < b → Declares s a e → Declares s b f → typeName s a = typeName s b →
      e = f := by
    intro a b e f before first second same
    obtain ⟨-, -, own, read, agrees⟩ := (fits b second.named).declares second.written
    rw [agrees e ⟨a, before, first, same⟩, Except.ok.inj (read.symm.trans second.read)]
  refine ⟨sheetName, header.2, header.1, fun column named => ?_, fun a b first second same => ?_,
    fun column named written => ?_, fun a b e f first second same => ?_,
    fun column named => (fits column named).refers, apart⟩
  · exact ⟨(fits column named).identifier, (fits column named).free⟩
  · rcases lt_trichotomy a b with before | equal | behind
    · exact absurd same ((fits b second).fresh a before first)
    · exact equal
    · exact absurd same.symm ((fits a first).fresh b behind second)
  · obtain ⟨typed, notPrimitive, e, read, -⟩ := (fits column named).declares written
    exact ⟨typed, notPrimitive, e, read⟩
  · rcases lt_trichotomy a b with before | rfl | behind
    · exact agree a b e f before first second same
    · exact Except.ok.inj (first.read.symm.trans second.read)
    · exact (agree b a f e behind second first same.symm).symm

/-- Fields whose names are no enumerations of fields come from columns whose names are none of columns. -/
theorem apart_iff {fields : List Field}
    (each : List.Forall₂ (IsFieldOf known s) (populatedColumns s nameRow) fields) :
    (∀ f ∈ fields, f.name ∉ (fields.filterMap Field.enumeration).map Enumeration.name) ↔
      ∀ a b e, IsFilled s nameRow a → IsFilled s nameRow b → Uses known s b e →
        fieldName s a ≠ e.name := by
  have fieldAt {column : Int} (named : IsFilled s nameRow column) : ∃ f ∈ fields, f.column = column := by
    have member : column ∈ fields.map Field.column := by
      rw [columns_of_isFieldOf each]
      exact mem_populatedColumns.mpr named
    exact List.mem_map.mp member
  have namedAt {f : Field} (member : f ∈ fields) : IsFilled s nameRow f.column := by
    rw [IsFilled, ← mem_populatedColumns, ← columns_of_isFieldOf each]
    exact List.mem_map_of_mem member
  constructor
  · intro apart a b e first second uses same
    obtain ⟨f, member, rfl⟩ := fieldAt first
    obtain ⟨g, other, rfl⟩ := fieldAt second
    refine apart f member (List.mem_map.mpr ⟨e, List.mem_filterMap.mpr ⟨g, other, ?_⟩, ?_⟩)
    · exact ((isFieldOf_of_mem each g other).enumeration e).mpr uses
    · rw [(isFieldOf_of_mem each f member).name, same]
  · intro apart f member taken
    obtain ⟨e, used, same⟩ := List.mem_map.mp taken
    obtain ⟨g, other, own⟩ := List.mem_filterMap.mp used
    refine apart f.column g.column e (namedAt member) (namedAt other)
      (((isFieldOf_of_mem each g other).enumeration e).mp own) ?_
    rw [← (isFieldOf_of_mem each f member).name, same]

/-- A sheet that is accepted keeps to the convention, and its fields are those of its columns. -/
theorem Accepts.convention (accepts : Accepts schema known s d) : FollowsConvention known s ∧
    List.Forall₂ (IsFieldOf known s) (populatedColumns s nameRow) d.fields := by
  obtain ⟨enums, columns⟩ := accepts.columns
  rcases columns_outcome schema known s with ⟨after, ran, reads, fits⟩ | ⟨⟨e, ran⟩, -⟩
  · cases columns.symm.trans ran
    refine ⟨followsConvention_of_fits accepts.identifier (checkHeader_eq_ok.mp accepts.header) fits ?_,
      reads.fields⟩
    exact (apart_iff reads.fields).mp accepts.apart
  · cases columns.symm.trans ran

/-- A sheet that keeps to the convention is accepted. -/
theorem FollowsConvention.accepts (schema : String) (follows : FollowsConvention known s) :
    ∃ d, Accepts schema known s d := by
  rcases columns_outcome schema known s with ⟨after, ran, reads, -⟩ | ⟨-, column, named, unfit⟩
  · have key : keyColumn ∈ after.fields.map Field.column := by
      rw [columns_of_isFieldOf reads.fields]
      exact mem_populatedColumns.mpr follows.key
    have apart := (apart_iff reads.fields).mpr follows.apart
    obtain ⟨fields, enums⟩ := after
    cases fields with
    | nil => cases key
    | cons first others =>
      exact ⟨{ schema, sheet := s.name, key := first, others, rows := readRows s (first :: others) },
        follows.sheetName, checkHeader_eq_ok.mpr ⟨follows.key, follows.paired⟩, ⟨enums, ran⟩, apart, rfl,
        rfl, rfl⟩
  · exact absurd (follows.fits named) unfit

/-- The fields of an accepted sheet stand in the order of its named columns, -/
theorem Accepts.columns_eq (accepts : Accepts schema known s d) :
    d.fields.map Field.column = populatedColumns s nameRow :=
  columns_of_isFieldOf accepts.convention.2

/-- from left to right, -/
theorem Accepts.ascending (accepts : Accepts schema known s d) :
    (d.fields.map Field.column).Pairwise (· < ·) := by
  rw [accepts.columns_eq]
  exact pairwise_populatedColumns s nameRow

/-- and the key is the first of them: there are none further left. -/
theorem Accepts.key_column (accepts : Accepts schema known s d)
    (nonnegative : ∀ c ∈ s.cells, 0 ≤ c.row ∧ 0 ≤ c.column) : d.key.column = keyColumn := by
  have order := accepts.columns_eq
  have named : IsFilled s nameRow d.key.column := by
    rw [IsFilled, ← mem_populatedColumns, ← order]
    exact List.mem_cons_self
  have listed : keyColumn ∈ d.fields.map Field.column := by
    rw [order]
    exact mem_populatedColumns.mpr accepts.convention.1.key
  obtain ⟨c, member, -, place, -⟩ := named.exists_cell
  have first : 0 ≤ d.key.column := place ▸ (nonnegative c member).2
  rcases List.mem_cons.mp listed with same | further
  · exact same.symm
  · have before : d.key.column < keyColumn :=
      (List.pairwise_cons.mp accepts.ascending).1 keyColumn further
    exact absurd (lt_of_le_of_lt first before) (lt_irrefl 0)

/-- What an accepted sheet without negative columns is described as. -/
theorem Accepts.describes (accepts : Accepts schema known s d)
    (nonnegative : ∀ c ∈ s.cells, 0 ≤ c.row ∧ 0 ≤ c.column) : Describes schema known s d := by
  have each := accepts.convention.2
  have columns : ∀ column, column ∈ d.fields.map Field.column ↔ IsFilled s nameRow column := by
    intro column
    rw [accepts.columns_eq]
    exact mem_populatedColumns
  have numbers : d.rows.map DataRow.number = dataRowNumbers s d.fields := by
    rw [accepts.rows, readRows_eq, List.map_map]
    exact List.map_id _
  refine ⟨accepts.file, accepts.named, accepts.ascending, columns, accepts.key_column nonnegative,
    isFieldOf_of_mem each, ?_, ?_, ?_⟩
  · rw [numbers]
    exact pairwise_dataRowNumbers s d.fields
  · intro row
    rw [numbers, mem_dataRowNumbers]
    refine and_congr_right fun _ => ?_
    simp only [← columns, List.mem_map]
    constructor
    · rintro ⟨f, member, filled⟩
      exact ⟨f.column, ⟨f, member, rfl⟩, filled⟩
    · rintro ⟨column, ⟨f, member, rfl⟩, filled⟩
      exact ⟨f, member, filled⟩
  · intro row member
    rw [accepts.rows, readRows_eq] at member
    obtain ⟨number, -, rfl⟩ := List.mem_map.mp member
    rfl

/-- A sheet is accepted exactly when it keeps to the convention, and then its description holds its named
columns from left to right and its data rows from top to bottom. -/
theorem interpretSheet_convention (schema : String) (known : EnumTable)
    (nonnegative : ∀ c ∈ s.cells, 0 ≤ c.row ∧ 0 ≤ c.column) :
    ((∃ d, interpretSheet schema known s = .ok d) ↔ FollowsConvention known s) ∧
      ∀ d, interpretSheet schema known s = .ok d → Describes schema known s d := by
  refine ⟨⟨?_, ?_⟩, ?_⟩
  · rintro ⟨d, described⟩
    exact (accepts_of_interpretSheet described).convention.1
  · intro follows
    obtain ⟨d, accepts⟩ := follows.accepts schema
    exact ⟨d, accepts.interpretSheet_eq⟩
  · intro d described
    exact (accepts_of_interpretSheet described).describes nonnegative

end Convention

/-- A sheet whose second field declares an enumeration that the third one refers to, with an empty column
and a blank row between. -/
def duelSheet : Sheet :=
  { name := "Duel", cells := [⟨0, 0, "id"⟩, ⟨0, 2, " left "⟩, ⟨0, 3, "right"⟩, ⟨2, 2, "Axe\nSword"⟩,
      ⟨3, 0, "int"⟩, ⟨3, 2, "Kind"⟩, ⟨3, 3, "Kind"⟩, ⟨4, 1, "spare"⟩, ⟨5, 0, " "⟩, ⟨6, 0, "1"⟩,
      ⟨6, 2, "Axe"⟩, ⟨6, 3, "Sword"⟩] }

def duelDescription : Description where
  schema := "Armory"
  sheet := "Duel"
  key := { name := "id", column := 0, declaredType := "int", comment := "", enumeration := none,
           enumBody := "" }
  others := [{ name := "left", column := 2, declaredType := "Kind", comment := "",
               enumeration := some kindEnumeration, enumBody := "Axe\nSword" },
             { name := "right", column := 3, declaredType := "Kind", comment := "",
               enumeration := some kindEnumeration, enumBody := "" }]
  rows := [⟨6, [("id", "1"), ("left", "Axe"), ("right", "Sword")]⟩]

theorem interpretSheet_duelSheet : interpretSheet "Armory" [] duelSheet = .ok duelDescription := by
  have row (r : Int) : duelSheet.row r = duelSheet.cells.filter fun c => c.row == r :=
    row_of_ordered (by decide) r
  have names : populatedColumns duelSheet nameRow = [0, 2, 3] := by
    rw [populatedColumns, row]
    decide
  have types : populatedColumns duelSheet typeRow = [0, 2, 3] := by
    rw [populatedColumns, row]
    decide
  have indices : duelSheet.rowIndices = [0, 2, 3, 4, 5, 6] := by
    rw [Sheet.rowIndices]
    exact List.mergeSort_of_pairwise (by decide)
  have accepts : Accepts "Armory" [] duelSheet duelDescription := by
    refine ⟨by decide +kernel, ?_, ⟨[("Kind", kindEnumeration)], ?_⟩, by decide, rfl, rfl, ?_⟩
    · rw [names, types]
      rfl
    · rw [names]
      rfl
    · rw [readRows, indices]
      decide +kernel
  exact accepts.interpretSheet_eq

/-- The sheet keeps to the convention, and its description is read off its rows. -/
theorem interpretSheet_convention_duel :
    (∀ c ∈ duelSheet.cells, 0 ≤ c.row ∧ 0 ≤ c.column) ∧ FollowsConvention [] duelSheet ∧
      Describes "Armory" [] duelSheet duelDescription := by
  have nonnegative : ∀ c ∈ duelSheet.cells, 0 ≤ c.row ∧ 0 ≤ c.column := by decide
  obtain ⟨accepted, describes⟩ := interpretSheet_convention "Armory" [] nonnegative
  exact ⟨nonnegative, accepted.mp ⟨_, interpretSheet_duelSheet⟩, describes _ interpretSheet_duelSheet⟩

end TypedSheets.Schema

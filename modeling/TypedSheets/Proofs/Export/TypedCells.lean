import TypedSheets.Proofs.Export.CellValues
import TypedSheets.Proofs.Export.Coercions
import TypedSheets.Proofs.Outcomes
import TypedSheets.Proofs.Schema.RowConvention

/-!
# Typed records

The cells of an accepted sheet are looked at row by row and from left to right. When each of them denotes a
value in its field, there is one record for each data row with these values under the names of the fields;
otherwise the first one that denotes nothing is refused, at its place in the grid. The main statement is
`buildRecords_typed`.
-/

namespace TypedSheets

open TypedSheets.Grid TypedSheets.Schema TypedSheets.Text

/-- The cell of a field in a row denotes a value. -/
def IsValued (s : Sheet) (row : DataRow) (f : Field) : Prop :=
  ∃ value, Denotes f (s.value row.number f.column) value

/-- A record has an entry for each field, in order: under its name the value that the cell in the row denotes. -/
def IsRecordOf (s : Sheet) (d : Description) (row : DataRow) (record : Entries) : Prop :=
  List.Forall₂ (fun f entry => entry.1 = f.name ∧ Denotes f (s.value row.number f.column) entry.2) d.fields record

/-- The first cell that denotes nothing: those in the rows above do, and those further left in its row. -/
structure IsFirstUnvalued (s : Sheet) (d : Description) (row : DataRow) (f : Field) : Prop where
  rows : ∃ above below, d.rows = above ++ row :: below ∧ ∀ other ∈ above, ∀ g ∈ d.fields, IsValued s other g
  fields : ∃ left right, d.fields = left ++ f :: right ∧ ∀ g ∈ left, IsValued s row g
  unvalued : ¬IsValued s row f

section Records

variable {schema sheet : String} {row : DataRow} {d : Description}

/-- A row is coerced when all its cells denote values. -/
theorem exists_coerceRow_iff {fields : List Field} : (∃ entries, coerceRow schema sheet row fields = .ok entries) ↔
    ∀ f ∈ fields, ∃ value, Denotes f (row.raw f.name) value := by
  rw [coerceRow_eq_mapM, mapM_eq_ok_iff]
  simp [map_eq_ok, coerceValue_eq_ok_iff]

/-- The record of a row has the values of its cells under the names of the fields. -/
theorem denotes_of_coerceRow {fields : List Field} {entries : Entries}
    (coerced : coerceRow schema sheet row fields = .ok entries) :
    List.Forall₂ (fun f entry => entry.1 = f.name ∧ Denotes f (row.raw f.name) entry.2) fields entries :=
  (coerceRow_ok coerced).imp fun _ _ both => ⟨both.1, coerceValue_eq_ok_iff.mp both.2⟩

end Records

section Sheets

variable {schema : String} {known : EnumTable} {s : Sheet} {d : Description} {row : DataRow} {f : Field}

/-- The column of a field has a name. -/
theorem Schema.Accepts.isFilled (accepts : Accepts schema known s d) (member : f ∈ d.fields) :
    IsFilled s nameRow f.column := by
  rw [IsFilled, ← mem_populatedColumns, ← accepts.columns_eq]
  exact List.mem_map_of_mem member

/-- The fields of an accepted sheet have different names. -/
theorem Schema.Accepts.distinct (accepts : Accepts schema known s d) : (d.fields.map Field.name).Nodup := by
  obtain ⟨follows, each⟩ := accepts.convention
  have ascending := accepts.ascending
  rw [List.pairwise_map] at ascending
  rw [List.Nodup, List.pairwise_map]
  refine ascending.imp_of_mem fun {f g} member other before same => ?_
  have columns : f.column = g.column := by
    apply follows.distinct _ _ (accepts.isFilled member) (accepts.isFilled other)
    rw [← (isFieldOf_of_mem each f member).name, ← (isFieldOf_of_mem each g other).name, same]
  exact absurd columns (ne_of_lt before)

/-- A field without enumeration has a primitive type. -/
theorem Schema.Accepts.exists_primitive (accepts : Accepts schema known s d) (member : f ∈ d.fields)
    (plain : f.enumeration = none) : ∃ p, HasPrimitive f p := by
  obtain ⟨follows, each⟩ := accepts.convention
  have isField := isFieldOf_of_mem each f member
  have named := accepts.isFilled member
  have unused (e : Enumeration) : ¬Uses known s f.column e := by
    rw [← isField.enumeration, plain]
    exact nofun
  suffices primitive : isPrimitive (typeName s f.column) = true by
    obtain ⟨p, found⟩ := Option.isSome_iff_exists.mp primitive
    rw [← isField.declaredType] at found
    exact ⟨p, plain, ofName?_eq_some_iff.mp found⟩
  by_contra free
  rw [Bool.not_eq_true] at free
  by_cases written : IsFilled s enumRow f.column
  · obtain ⟨-, -, e, read⟩ := follows.bodies f.column named written
    exact unused e (.own ⟨named, written, read⟩)
  · rcases follows.types f.column named written with primitive | ⟨e, declared⟩ | ⟨e, found⟩
    · rw [free] at primitive
      cases primitive
    · exact unused e (.earlier written free declared)
    · by_cases declared : ∃ other, DeclaredBefore s f.column other
      · obtain ⟨other, before⟩ := declared
        exact unused other (.earlier written free before)
      · exact unused e (.file written free (not_exists.mp declared) found)

/-- The raw text of a field in a data row is that of its cell. -/
theorem Schema.Accepts.raw_eq (accepts : Accepts schema known s d) (listed : row ∈ d.rows) (member : f ∈ d.fields) :
    row.raw f.name = s.value row.number f.column := by
  rw [accepts.rows, readRows_eq] at listed
  obtain ⟨number, -, rfl⟩ := List.mem_map.mp listed
  have cells : ((d.fields.map fun f => (f.name, s.value number f.column)).map Prod.fst).Nodup := by
    rw [List.map_map]
    exact accepts.distinct
  rw [DataRow.raw, dataRow, NamedList.lookup_of_distinct cells (List.mem_map_of_mem member)]
  rfl

/-- The data rows stand from top to bottom. -/
theorem Schema.Accepts.rows_ascending (accepts : Accepts schema known s d) :
    (d.rows.map DataRow.number).Pairwise (· < ·) := by
  have numbers : d.rows.map DataRow.number = dataRowNumbers s d.fields := by
    rw [accepts.rows, readRows_eq, List.map_map]
    exact List.map_id _
  rw [numbers]
  exact pairwise_dataRowNumbers s d.fields

/-- The rows of an accepted sheet coerce exactly when each cell of a data row denotes a value in its field; the
records have these values then, row by row and field by field. Otherwise the first cell that denotes nothing
is refused at its place. -/
theorem buildRecords_typed (described : interpretSheet schema known s = .ok d) :
    ((d.fields.map Field.column).Pairwise (· < ·) ∧ (d.fields.map Field.name).Nodup ∧
      (d.rows.map DataRow.number).Pairwise (· < ·)) ∧
    ((∃ records, buildRecords d = .ok records) ↔ ∀ row ∈ d.rows, ∀ f ∈ d.fields, IsValued s row f) ∧
    (∀ records, buildRecords d = .ok records → List.Forall₂ (IsRecordOf s d) d.rows records) ∧
    ∀ error, buildRecords d = .error error → ∃ row f cause, IsFirstUnvalued s d row f ∧
      IsRefused f (s.value row.number f.column) cause ∧
      error = .cell cause { file := schema, sheet := s.name, row := row.number, column := f.column } := by
  have accepts := accepts_of_interpretSheet described
  have valued {row : DataRow} (listed : row ∈ d.rows) :
      (∃ entries, coerceRow d.schema d.sheet row d.fields = .ok entries) ↔ ∀ f ∈ d.fields, IsValued s row f := by
    rw [exists_coerceRow_iff]
    refine forall₂_congr fun f member => ?_
    rw [IsValued, accepts.raw_eq listed member]
  refine ⟨⟨accepts.ascending, accepts.distinct, accepts.rows_ascending⟩, ?_, fun records built => ?_,
    fun error failed => ?_⟩
  · rw [buildRecords, coerceRows_eq_mapM, mapM_eq_ok_iff]
    exact forall₂_congr fun row listed => valued listed
  · refine (forall₂_imp_of_mem (coerceRows_ok built).flip fun record row listed coerced => ?_).flip
    refine (forall₂_imp_of_mem (denotes_of_coerceRow coerced).flip fun entry f member own => ?_).flip
    exact ⟨own.1, accepts.raw_eq listed member ▸ own.2⟩
  · obtain ⟨above, row, below, rows, failed, before⟩ := coerceRows_eq_error.mp failed
    obtain ⟨left, f, right, fields, refused, further⟩ := coerceRow_eq_error.mp failed
    have listed : row ∈ d.rows := by simp [rows]
    have member : f ∈ d.fields := by simp [fields]
    obtain ⟨cause, isRefused, rfl⟩ := isRefused_of_coerceValue (accepts.exists_primitive member) refused
    have raw := accepts.raw_eq listed member
    refine ⟨row, f, cause, ⟨⟨above, below, rows, fun other inside => ?_⟩, ⟨left, right, fields, fun g inside => ?_⟩,
      ?_⟩, raw ▸ isRefused, ?_⟩
    · exact (valued (by simp [rows, inside])).mp (before other inside)
    · rw [IsValued, ← accepts.raw_eq listed (by simp [fields, inside])]
      exact exists_coerceRow_iff.mp further g inside
    · rintro ⟨value, denotes⟩
      rw [← raw, ← coerceValue_eq_ok_iff, refused] at denotes
      cases denotes
    · rw [cellPlace, accepts.file, accepts.named]

end Sheets

/-- The sheet with two more rows, the first of which lacks a weapon and has one that is unknown. -/
def unevenSheet : Sheet :=
  { name := "Duel", cells := duelSheet.cells ++ [⟨8, 0, "2"⟩, ⟨8, 3, "Bow"⟩, ⟨9, 0, "x"⟩] }

def unevenDescription : Description :=
  { duelDescription with
    rows := duelDescription.rows ++ [⟨8, [("id", "2"), ("left", ""), ("right", "Bow")]⟩,
      ⟨9, [("id", "x"), ("left", ""), ("right", "")]⟩] }

theorem interpretSheet_unevenSheet : interpretSheet "Armory" [] unevenSheet = .ok unevenDescription := by
  have row (r : Int) : unevenSheet.row r = unevenSheet.cells.filter fun c => c.row == r :=
    row_of_ordered (by decide) r
  have names : populatedColumns unevenSheet nameRow = [0, 2, 3] := by
    rw [populatedColumns, row]
    decide
  have types : populatedColumns unevenSheet typeRow = [0, 2, 3] := by
    rw [populatedColumns, row]
    decide
  have indices : unevenSheet.rowIndices = [0, 2, 3, 4, 5, 6, 8, 9] := by
    rw [Sheet.rowIndices]
    exact List.mergeSort_of_pairwise (by decide)
  have accepts : Accepts "Armory" [] unevenSheet unevenDescription := by
    refine ⟨by decide +kernel, ?_, ⟨[("Kind", kindEnumeration)], ?_⟩, by decide, rfl, rfl, ?_⟩
    · rw [names, types]
      rfl
    · rw [names]
      rfl
    · rw [readRows, indices]
      decide +kernel
  exact accepts.interpretSheet_eq

/-- The first sheet has a record, and the other is refused for the empty cell, which stands left of the unknown
label and above the text that is no integer. -/
theorem buildRecords_typed_duel :
    List.Forall₂ (IsRecordOf duelSheet duelDescription) duelDescription.rows
        [[("id", .int 1), ("left", .int 0), ("right", .int 1)]] ∧
      ∃ row f, row.number = 8 ∧ f.column = 2 ∧ IsFirstUnvalued unevenSheet unevenDescription row f ∧
        IsRefused f "" (.missing "Kind" "left") := by
  have built : buildRecords duelDescription = .ok [[("id", .int 1), ("left", .int 0), ("right", .int 1)]] := rfl
  have failed : buildRecords unevenDescription = .error (.cell (.missing "Kind" "left")
      { file := "Armory", sheet := "Duel", row := 8, column := 2 }) := rfl
  obtain ⟨-, -, records, -⟩ := buildRecords_typed interpretSheet_duelSheet
  obtain ⟨-, -, -, refused⟩ := buildRecords_typed interpretSheet_unevenSheet
  obtain ⟨row, f, cause, first, isRefused, same⟩ := refused _ failed
  simp only [CoercionError.cell.injEq, Place.mk.injEq] at same
  obtain ⟨rfl, -, -, number, column⟩ := same
  have empty : unevenSheet.value 8 2 = "" := by decide +kernel
  rw [← number, ← column, empty] at isRefused
  exact ⟨records _ built, row, f, number.symm, column.symm, first, isRefused⟩

end TypedSheets
